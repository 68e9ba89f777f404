import VisualScale.Proofs.Resolution.Leaves
import VisualScale.Proofs.Source.Reread

/-!
# Which columns can be read from a written text

What a binding of prebuilt scales over references and literals resolves to has a column for each
reference of its tree (`Store.refersTo_iff`), and is written with the columns' names as they are. A
column may be called anything. So the text is a formula over just these columns exactly if they are
called by identifiers, by no reserved word, and the one spellings of their names are these names
again (`Store.source_reads_columns_iff`). A column with a blank in its name is written so, and the
text is no formula (`Store.exists_not_source_reads_columns`).

What the rules keep holds of what a binding means if it holds of what the tree of the binding is
put together from (`Store.build?_keeps`).
-/

namespace VisualScale

open Lexer

/-! ## 1. The slots of a tree -/

namespace Store

variable {s : Store} {id y : BindingId}

/-- A reference to the column stands in a slot of the binding, or of one behind it. -/
def RefersTo (s : Store) (id : BindingId) (column : String) : Prop :=
  ∃ y r, s.Reaches id y ∧ .reference r ∈ s.slotValues y ∧ r.field = column

/-- The tree of a binding is one of prebuilt scales, and no slot in it holds an expression. -/
structure OfColumns (s : Store) (id : BindingId) : Prop where
  prebuilt : ∀ ⦃y b scale⦄, s.Reaches id y → s.binding? y = some b →
    s.scale? b.scale = some scale → scale.isPrebuilt = true
  noExpr : ∀ ⦃y e⦄, s.Reaches id y → .expr e ∉ s.slotValues y

/-- A prebuilt scale reads all slots. -/
theorem OfColumns.exists_mem_reads (h : s.OfColumns id) (hy : s.Reaches id y) {v : Value}
    (hv : v ∈ s.slotValues y) : ∃ t, (v, t) ∈ s.reads y := by
  obtain ⟨b, scale, hb, hs, hv⟩ := exists_of_mem_slotValues hv
  have hreads : scale.reads (b.arguments.zip b.argumentTypes) =
      scale.attributes.map (fun a => (a.value, a.valueType)) ++
        b.arguments.zip b.argumentTypes := by
    have hprebuilt := h.prebuilt hy hb hs
    cases scale with
    | custom p attributes => cases hprebuilt
    | linear _ | log _ | interpolate _ _ | arithmetic _ => rfl
  rw [reads_of hb hs, hreads]
  rcases List.mem_append.1 hv with hv | hv
  · obtain ⟨a, ha, rfl⟩ := List.mem_map.1 hv
    exact ⟨a.valueType, List.mem_append_left _ (List.mem_map.2 ⟨a, ha, rfl⟩)⟩
  · have hzip : v ∈ (b.arguments.zip b.argumentTypes).map Prod.fst := by
      rwa [List.map_fst_zip (Nat.le_of_eq b.length_arguments)]
    obtain ⟨⟨_, t⟩, ht, rfl⟩ := List.mem_map.1 hzip
    exact ⟨t, List.mem_append_right _ ht⟩

theorem OfColumns.of_child (h : s.OfColumns id) {child : BindingId}
    (hchild : child ∈ s.children id) : s.OfColumns child where
  prebuilt _ _ _ hy := h.prebuilt (.head hchild hy)
  noExpr _ _ hy := h.noExpr (.head hchild hy)

/-- **The columns that such a tree refers to are its leaves.** -/
theorem OfColumns.refersTo_iff (h : s.OfColumns id) (n : String) :
    s.RefersTo id n ↔ ∃ x, s.Leaf id x ∧ x.leafName = n := by
  constructor
  · rintro ⟨y, r, hy, hr, rfl⟩
    induction hy using Relation.ReflTransGen.head_induction_on with
    | refl =>
      obtain ⟨t, ht⟩ := h.exists_mem_reads .refl hr
      exact ⟨_, .column ht, rfl⟩
    | head hchild _ ih =>
      obtain ⟨x, hx, hname⟩ := ih (h.of_child hchild)
      obtain ⟨t, ht⟩ := h.exists_mem_reads .refl (mem_children_iff.1 hchild)
      exact ⟨x, .nested ht hx, hname⟩
  · rintro ⟨x, hx, rfl⟩
    obtain ⟨y, ⟨v, t⟩, hy, hslot, ⟨e, rfl, -⟩ | ⟨r, rfl, rfl⟩⟩ := hx.exists_origin
    · exact absurd (mem_slotValues_of_reads hslot) (h.noExpr hy)
    · exact ⟨y, r, hy, mem_slotValues_of_reads hslot, rfl⟩

end Store

/-! ## 2. What the rules keep, the meaning of a binding has -/

section Keeps

variable {P : Expr → Prop} {known : BindingId → Option Expr}

/-- The expression that a value is has the property, or what the binding that it is means. -/
def Value.Carries (known : BindingId → Option Expr) (P : Expr → Prop) : Value → Prop
  | .expr e => P e
  | .binding id => ∀ e, known id = some e → P e
  | _ => True

variable (hconst : ∀ l : Literal, P (.const (.literal l) l.valueType))
variable (hcolumn : ∀ field t, P (.column field t))

include hconst hcolumn

theorem fills_of_fill? {t : ValueType} {acceptsNumeric : Bool} {v : Value} {e : Expr}
    (hv : v.Carries known P) (h : v.fill? known t acceptsNumeric = some e) :
    Fills P t acceptsNumeric (.expr e) := by
  obtain ⟨hraw, hfits⟩ := Value.fill?_eq_some_iff.1 h
  refine ⟨e, rfl, ?_, hfits⟩
  match v with
  | .binding id => exact hv e hraw
  | .expr _ =>
    obtain rfl := Option.some.inj hraw
    exact hv
  | .reference r =>
    obtain rfl := Option.some.inj hraw
    exact hcolumn _ _
  | .datum (.literal l) =>
    obtain ⟨m, rfl⟩ := Literal.exists_of_constantFor? hraw
    exact hconst m
  | .datum .absent | .datum (.text _) => cases hraw

theorem attributesFilled {attributes : List Attribute} {attrs : Table Value}
    (hall : ∀ a ∈ attributes, a.value.Carries known P)
    (h : attributes? known attributes = some attrs) : AttributesFilled P attributes attrs :=
  forall₂_of_attributes?
    (fun a ha _ he => ⟨rfl, fills_of_fill? hconst hcolumn (hall a ha) he⟩) h

theorem argumentsFilled {arguments : List (Value × ValueType)} {values : List Value}
    (hall : ∀ a ∈ arguments, a.1.Carries known P)
    (h : arguments? known arguments = some values) :
    ArgumentsFilled P (arguments.map Prod.snd) values :=
  List.forall₂_map_left_iff.2 <| forall₂_of_arguments?
    (fun a ha _ he => fills_of_fill? hconst hcolumn (hall a ha) he) h

/-- **What the rules keep, a binding's meaning has**, if constants, columns and the expressions in
    the binding's tree have it; the rest of the store may hold anything. -/
theorem Store.build?_keeps (hP : KeptByRules P) {s : Store} (hs : s.Recorded) {depth : Nat}
    {id : BindingId} {e : Expr}
    (hheld : ∀ y e, s.Reaches id y → .expr e ∈ s.slotValues y → P e)
    (h : s.build? depth id = some e) : P e := by
  induction depth generalizing id e with
  | zero => cases h
  | succ depth ih =>
    obtain ⟨b, scale, attrs, values, hb, hscale, hattrs, hvalues, he⟩ :=
      build?_succ_eq_some_iff.1 h
    have hslots := slotValues_of hb hscale
    have hcarries {v : Value} (hv : v ∈ s.slotValues id) : v.Carries (s.build? depth) P := by
      cases v with
      | expr e => exact hheld id e .refl hv
      | binding child =>
        exact fun e he => ih (fun y e hy => hheld y e (.head (mem_children_iff.2 hv) hy)) he
      | datum _ | reference _ => trivial
    have hattributes : AttributesFilled P scale.attributes attrs := by
      refine attributesFilled hconst hcolumn (fun a ha => hcarries ?_) hattrs
      rw [hslots]
      exact List.mem_append_left _ (List.mem_map_of_mem ha)
    have harguments : ArgumentsFilled P b.argumentTypes values := by
      have hfilled := argumentsFilled hconst hcolumn (fun a ha => hcarries ?_) hvalues
      · rwa [List.map_snd_zip (Nat.le_of_eq b.length_arguments.symm)] at hfilled
      · rw [hslots]
        exact List.mem_append_right _ (List.of_mem_zip ha).1
    obtain ⟨found, hfound, htypes, -⟩ := hs hb
    obtain rfl : found = scale := Option.some.inj (hfound.symm.trans hscale)
    exact Scale.build_keeps hP htypes ⟨hattributes, harguments⟩ he

end Keeps

/-! ## 3. What is read from the written text -/

namespace Store

variable {s after : Store} {id : BindingId} {e : Expr} {out : String}

/-- **What is written is read as the columns that the binding refers to, exactly if** these are
    called by identifiers that are no reserved words, and the one spellings of their names are these
    names again. The tree is any one of prebuilt scales over references and literals, and there is
    room for the brackets that are written. -/
theorem source_reads_columns_iff (hs : s.Recorded) (htree : s.OfColumns id)
    (h : s.resolve columnOf id = (.ok e, after)) (hout : e.source = .ok out)
    (hroom : Room 0 out.toList) :
    (∃ p, ParsedFormula.ofText out = .ok p ∧ ∀ n, n ∈ p.formula.names ↔ s.RefersTo id n) ↔
      (∀ n, s.RefersTo id n → Text.isIdentifier n.toList = true ∧ isKeyword n.toList = false) ∧
        ∀ n, s.RefersTo id n ↔ ∃ m, s.RefersTo id m ∧ nameOf m = n := by
  obtain ⟨entered, henter⟩ := exists_enter_of_resolve h
  have hbuild : s.build? s.bindings.length id = some e := gives_build _ id henter
  have hformed : e.Formed :=
    build?_keeps Expr.Formed.const Expr.Formed.column Expr.keptByRules_formed hs
      (fun y e hy he => absurd he (htree.noExpr hy)) hbuild
  have hcolumns (n : String) : s.RefersTo id n ↔ ∃ l ∈ e.leaves, l.leafName = n := by
    simp only [htree.refersTo_iff n, mem_leaves_build? hbuild]
  have hread (n : String) : n ∈ e.readNames ↔ ∃ m, s.RefersTo id m ∧ nameOf m = n := by
    simp only [Expr.readNames, List.mem_map, hcolumns]
    constructor
    · rintro ⟨l, hl, rfl⟩
      exact ⟨_, ⟨l, hl, rfl⟩, rfl⟩
    · rintro ⟨_, ⟨l, hl, rfl⟩, rfl⟩
      exact ⟨l, hl, rfl⟩
  constructor
  · rintro ⟨p, hp, hnames⟩
    have hidentifier (n : String) (hn : s.RefersTo id n) : Text.isIdentifier n.toList = true :=
      ParsedFormula.isIdentifier_of_reads hp ((p.formula.mem_names n).1 ((hnames n).2 hn))
    obtain ⟨hreads, hrefused⟩ :=
      hformed.ofText_source (fun l hl => hidentifier _ ((hcolumns _).2 ⟨l, hl, rfl⟩)) hout
    refine ⟨fun n hn => ⟨hidentifier n hn, ?_⟩, fun n => ?_⟩
    · obtain ⟨l, hl, rfl⟩ := (hcolumns n).1 hn
      exact (hrefused.1 ⟨p, hp⟩).2 l hl
    · rw [← hnames, p.formula.mem_names, hreads p hp, hread]
  · rintro ⟨hnames, hspelled⟩
    obtain ⟨hreads, haccepted⟩ :=
      hformed.ofText_source (fun l hl => (hnames _ ((hcolumns _).2 ⟨l, hl, rfl⟩)).1) hout
    obtain ⟨p, hp⟩ :=
      haccepted.2 ⟨hroom, fun l hl => (hnames _ ((hcolumns _).2 ⟨l, hl, rfl⟩)).2⟩
    refine ⟨p, hp, fun n => ?_⟩
    rw [p.formula.mem_names, hreads p hp, hread, hspelled]

/-- The sum of two references, not resolved yet. -/
def sumOf (a b : DataRef) : Store :=
  ⟨[.arithmetic .add],
    [⟨⟨0⟩, .float, [.float, .float], [.reference a, .reference b], .created, rfl⟩]⟩

theorem reachable_sumOf (a b : DataRef) : (sumOf a b).Reachable := by
  have hcreated : Reachable ⟨[.arithmetic .add], []⟩ :=
    Reachable.empty.step (.create (.arithmetic .add))
  have hinvoke : invoke ⟨[.arithmetic .add], []⟩ ⟨0⟩ [.reference a, .reference b] =
    .ok (⟨0⟩, sumOf a b) := rfl
  exact hcreated.step (.invoke hinvoke)

theorem ofColumns_sumOf (a b : DataRef) : (sumOf a b).OfColumns ⟨0⟩ := by
  have halone {y : BindingId} (hy : (sumOf a b).Reaches ⟨0⟩ y) : y = ⟨0⟩ := by
    rcases hy.cases_head with heq | ⟨child, hchild, -⟩
    · exact heq.symm
    · cases hchild
  constructor
  · intro y binding scale hy hb hs
    obtain rfl := halone hy
    obtain rfl := Option.some.inj hb
    obtain rfl := Option.some.inj hs
    rfl
  · intro y e hy he
    obtain rfl := halone hy
    simp [sumOf, slotValues, binding?, scale?, Scale.attributes] at he

/-- The sum of two columns that are called by names is read again. -/
theorem source_reads_columns_sum :
    let s := sumOf ⟨"a", none, by decide⟩ ⟨"b", none, by decide⟩
    ∃ after e, s.Recorded ∧ s.OfColumns ⟨0⟩ ∧ s.resolve columnOf ⟨0⟩ = (.ok e, after) ∧
      e.source = .ok "(a + b)" ∧ Room 0 "(a + b)".toList ∧
      ((∃ p, ParsedFormula.ofText "(a + b)" = .ok p ∧
          ∀ n, n ∈ p.formula.names ↔ s.RefersTo ⟨0⟩ n) ↔
        (∀ n, s.RefersTo ⟨0⟩ n → Text.isIdentifier n.toList = true ∧ isKeyword n.toList = false) ∧
          ∀ n, s.RefersTo ⟨0⟩ n ↔ ∃ m, s.RefersTo ⟨0⟩ m ∧ nameOf m = n) := by
  intro s
  have hs : s.Recorded := (reachable_sumOf _ _).recorded
  have htree : s.OfColumns ⟨0⟩ := ofColumns_sumOf _ _
  have hresolve : s.resolve columnOf ⟨0⟩ =
    (.ok (.binary "+" (.column "a" .float) (.column "b" .float) .float), s.mark ⟨0⟩) := rfl
  have hout : Expr.source (.binary "+" (.column "a" .float) (.column "b" .float) .float) =
    .ok "(a + b)" := rfl
  have hroom : Room 0 "(a + b)".toList := room_of_length (by decide)
  exact ⟨_, _, hs, htree, hresolve, hout, hroom,
    source_reads_columns_iff hs htree hresolve hout hroom⟩

/-- **A column may be called so that what is written of it is no formula**: here by two words. -/
theorem exists_not_source_reads_columns :
    ∃ (s after : Store) (e : Expr) (out : String), s.Reachable ∧ s.OfColumns ⟨0⟩ ∧
      s.resolve columnOf ⟨0⟩ = (.ok e, after) ∧ e.source = .ok out ∧ Room 0 out.toList ∧
      ¬ ∃ p, ParsedFormula.ofText out = .ok p ∧
        ∀ n, n ∈ p.formula.names ↔ s.RefersTo ⟨0⟩ n := by
  let s := sumOf ⟨"unit price", none, by decide⟩ ⟨"tax", none, by decide⟩
  have hresolve : s.resolve columnOf ⟨0⟩ =
    (.ok (.binary "+" (.column "unit price" .float) (.column "tax" .float) .float), s.mark ⟨0⟩) :=
    rfl
  have hout : Expr.source
    (.binary "+" (.column "unit price" .float) (.column "tax" .float) .float) =
      .ok "(unit price + tax)" := rfl
  have hroom : Room 0 "(unit price + tax)".toList := room_of_length (by decide)
  have hrefused : (ParsedFormula.ofText "(unit price + tax)").toOption.isNone = true := rfl
  refine ⟨s, _, _, _, reachable_sumOf _ _, ofColumns_sumOf _ _, hresolve, hout, hroom, ?_⟩
  rintro ⟨p, hp, -⟩
  rw [hp] at hrefused
  cases hrefused

end Store

end VisualScale
