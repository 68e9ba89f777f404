import VisualScale.Proofs.Failing
import VisualScale.Proofs.Resolution.Fold
import VisualScale.Proofs.Resolution.Typed

/-!
# Where the leaves of resolved expressions come from

The variables and columns at the leaves of what a binding resolves to come from what stands in the
slots that its scale reads (`Scale.reads`): all of them, if the scale is prebuilt; those that its
formula names, if it is a custom one. An expression in such a slot brings its own leaves, a
reference is a column, a literal brings nothing, and a nested binding brings what it has from its
own slots (`Store.Leaf`). None of these leaves is lost on the way, and no others come in: the
variables by which a custom scale finds its type are not among them.

* `Formula.leaves_compile` -- the leaves of what a formula compiles to, from left to right;
* `Scale.mem_leaves_build` -- the leaves of what a scale builds;
* `Resolver.mem_leaves_resolve` -- the leaves of what a binding resolves to.
-/

namespace VisualScale

/-! ## 1. Leaves of nodes -/

section Nodes

open VisualScale.Expr

theorem leaves_binaryNode {op : String} {l r e : Expr} (h : Build.binaryNode op l r = .ok e) :
    e.leaves = l.leaves ++ r.leaves := by
  obtain ⟨t, -, rfl⟩ := Outcome.of_map h
  rw [leaves]

theorem leaves_callNode {function : String} {es : List Expr} {e : Expr}
    (h : Build.callNode function es = .ok e) : e.leaves = es.flatMap leaves := by
  obtain ⟨t, -, rfl⟩ := Outcome.of_map h
  rw [leaves, leavesOfAll_eq]

theorem leaves_signNode {sign : Sign} {operand e : Expr}
    (h : Formula.signNode sign operand = .ok e) : e.leaves = operand.leaves := by
  cases sign with
  | plus =>
    obtain ⟨t, -, rfl⟩ := Outcome.of_map h
    rfl
  | minus =>
    obtain ⟨t, -, rfl⟩ := Outcome.of_map h
    rw [leaves]

theorem leaves_componentNode {value e : Expr} {field : String}
    (h : Formula.componentNode value field = .ok e) : e.leaves = value.leaves := by
  obtain ⟨-, rfl⟩ := componentNode_ok h
  rw [leaves]

end Nodes

namespace Formula

variable {source : String} {env : Environment}

/-- A node that is no name has the leaves of the expressions it is put together from. -/
theorem leaves_of_rule {f : Formula} {es : List Expr} {r : Except Fault Expr} {e : Expr}
    (h : Rule env f es r) (hr : r = .ok e) (hname : ∀ id span, f ≠ .name id span) :
    e.leaves = es.flatMap Expr.leaves := by
  cases h with
  | whole n s =>
    obtain ⟨d, -, rfl⟩ := Outcome.of_map hr
    rfl
  | real d s =>
    obtain rfl := Except.ok.inj hr
    rfl
  | bound s h | unbound s h => exact absurd rfl (hname _ s)
  | binary op left right s l r => simpa using leaves_binaryNode hr
  | signed sign operand s e => simpa using leaves_signNode hr
  | call function args s es => exact leaves_callNode hr
  | component value field s e => simpa using leaves_componentNode hr

/-- The leaves of what stands for a name. -/
def leavesOf (env : Environment) (n : String) : List Expr :=
  ((env.find? n).map Expr.leaves).getD []

theorem mem_leavesOf {n : String} {x : Expr} :
    x ∈ leavesOf env n ↔ ∃ e, env.find? n = some e ∧ x ∈ e.leaves := by
  unfold leavesOf
  cases env.find? n with
  | none => simp
  | some e => simp

/-- Formulas side by side, each of which has the leaves of what it reads. -/
theorem leaves_compileAll {fs : List Formula} {es : List Expr}
    (h : compileAll source env fs = .ok es)
    (hall : ∀ f ∈ fs, ∀ e, f.compile source env = .ok e →
      e.leaves = f.reads.flatMap (leavesOf env)) :
    es.flatMap Expr.leaves = (readsOfAll fs).flatMap (leavesOf env) := by
  rw [compileAll_eq_ok_iff] at h
  induction h with
  | nil => rfl
  | cons he _ ih =>
    obtain ⟨hfirst, hrest⟩ := List.forall_mem_cons.1 hall
    rw [readsOfAll, List.flatMap_append, List.flatMap_cons, hfirst _ he, ih hrest]

/-- **What a formula compiles to has the leaves of what stands for the names that it reads**, from
    left to right, and as often as it reads them. -/
theorem leaves_compile {f : Formula} {e : Expr} (h : f.compile source env = .ok e) :
    e.leaves = f.reads.flatMap (leavesOf env) := by
  induction f using below_induction generalizing e with
  | step f ih =>
    obtain ⟨-, es, hes, hr⟩ := exists_rule_of_compile h
    rcases f.name_cases with ⟨id, span, rfl⟩ | hno
    · unfold compile at h
      unfold reads leavesOf
      split at h
      · next found hfound =>
        obtain rfl := Except.ok.inj h
        simp [hfound]
      · cases h
    · rw [leaves_of_rule hr rfl hno, reads_eq_readsOfAll hno]
      exact leaves_compileAll hes fun child hchild e he => ih child hchild he

end Formula

/-! ## 2. Leaves of what a scale builds -/

namespace Scale

/-- What stands in the slots that a scale reads, with the types of the slots: all attributes and
    arguments of a prebuilt scale; of a custom one those whose names its formula lists. -/
def reads (s : Scale) (arguments : List (Value × ValueType)) : List (Value × ValueType) :=
  match s with
  | custom p attributes => p.formula.names.flatMap fun n =>
    if n = inputName then arguments
    else (attributes.find? n).toList.map fun a => (a.value, a.valueType)
  | s => s.attributes.map (fun a => (a.value, a.valueType)) ++ arguments

/-- What is read stands in an attribute or in an argument. -/
theorem mem_of_mem_reads {s : Scale} {arguments : List (Value × ValueType)}
    {slot : Value × ValueType} (h : slot ∈ s.reads arguments) :
    slot.1 ∈ s.attributes.map Attribute.value ∨ slot ∈ arguments := by
  have hprebuilt (h : slot ∈ s.attributes.map (fun a => (a.value, a.valueType)) ++ arguments) :
      slot.1 ∈ s.attributes.map Attribute.value ∨ slot ∈ arguments := by
    refine (List.mem_append.1 h).imp_left fun h => ?_
    obtain ⟨a, ha, rfl⟩ := List.mem_map.1 h
    exact List.mem_map_of_mem ha
  cases s with
  | linear d | log d | interpolate t v | arithmetic op => exact hprebuilt h
  | custom p attributes =>
    obtain ⟨n, -, h⟩ := List.mem_flatMap.1 h
    split at h
    · exact .inr h
    · obtain ⟨a, ha, rfl⟩ := List.mem_map.1 h
      have hentry := Table.mem_of_find? (Option.mem_toList.1 ha)
      exact .inl (List.mem_map.2 ⟨_, List.mem_map_of_mem hentry, rfl⟩)

/-- The value is an expression with the leaves that `L` tells of a slot. -/
def Brings (L : Value × ValueType → Expr → Prop) (slot : Value × ValueType) (v : Value) : Prop :=
  ∃ e, v = .expr e ∧ ∀ x, x ∈ e.leaves ↔ L slot x

/-- Attributes and arguments have become expressions with the leaves of their slots, in order. -/
structure Brought (L : Value × ValueType → Expr → Prop) (s : Scale)
    (arguments : List (Value × ValueType)) (attrs : Table Value) (values : List Value) : Prop where
  attributes : List.Forall₂ (fun a r => a.name = r.1 ∧ Brings L (a.value, a.valueType) r.2)
    s.attributes attrs
  arguments : List.Forall₂ (Brings L) arguments values

variable {L : Value × ValueType → Expr → Prop} {arguments : List (Value × ValueType)}
variable {attrs : Table Value} {values : List Value}

/-- An attribute that is looked up by its name brings its leaves. -/
theorem Brought.find? {s : Scale} (h : s.Brought L arguments attrs values) (name : String) :
    Option.Rel (fun a v => Brings L (a.value, a.valueType) v)
      (Table.find? (s.attributes.map fun a => (a.name, a)) name) (attrs.find? name) := by
  refine Table.find?_rel ?_ name
  exact List.forall₂_map_left_iff.2 h.attributes

theorem Brought.resolved {s : Scale} (h : s.Brought L arguments attrs values) (name : String)
    {a : Attribute} (ha : Table.find? (s.attributes.map fun a => (a.name, a)) name = some a) :
    ∃ e, resolved attrs name = .ok (.expr e) ∧ ∀ x, x ∈ e.leaves ↔ L (a.value, a.valueType) x := by
  have hfound := h.find? name
  rw [ha] at hfound
  unfold Scale.resolved
  generalize attrs.find? name = found at hfound ⊢
  obtain ⟨e, rfl, he⟩ := hfound
  exact ⟨e, rfl, he⟩

theorem leaves_mix {a b t e : Expr} (h : Build.mix (.expr a) (.expr b) (.expr t) = .ok e) :
    e.leaves = a.leaves ++ (b.leaves ++ t.leaves) := by
  have hnode : Build.callNode "mix" [a, b, t] = .ok e := h
  simpa using leaves_callNode hnode

theorem leaves_log {x e : Expr} (h : Build.log (.expr x) = .ok e) : e.leaves = x.leaves := by
  have hnode : Build.callNode "log" [x] = .ok e := h
  simpa using leaves_callNode hnode

section Position

variable {d0 d1 value p : Expr} (h0 : resolved attrs "d0" = .ok (.expr d0))
variable (h1 : resolved attrs "d1" = .ok (.expr d1))

include h0 h1

theorem mem_leaves_linearPosition (h : linearPosition attrs (.expr value) = .ok p) (x : Expr) :
    x ∈ p.leaves ↔ x ∈ d0.leaves ∨ x ∈ d1.leaves ∨ x ∈ value.leaves := by
  replace h := Outcome.of_bind_ok h0 h
  replace h := Outcome.of_bind_ok h1 h
  obtain ⟨above, habove, h⟩ := Outcome.of_bind h
  obtain ⟨width, hwidth, h⟩ := Outcome.of_bind h
  have hp : p.leaves = above.leaves ++ width.leaves := leaves_binaryNode h
  have habove : above.leaves = value.leaves ++ d0.leaves := leaves_binaryNode habove
  have hwidth : width.leaves = d1.leaves ++ d0.leaves := leaves_binaryNode hwidth
  simp only [hp, habove, hwidth, List.mem_append]
  tauto

theorem mem_leaves_logPosition (h : logPosition attrs (.expr value) = .ok p) (x : Expr) :
    x ∈ p.leaves ↔ x ∈ d0.leaves ∨ x ∈ d1.leaves ∨ x ∈ value.leaves := by
  replace h := Outcome.of_bind_ok h0 h
  replace h := Outcome.of_bind_ok h1 h
  obtain ⟨ratio, hratio, h⟩ := Outcome.of_bind h
  obtain ⟨above, habove, h⟩ := Outcome.of_bind h
  obtain ⟨whole, hwhole, h⟩ := Outcome.of_bind h
  obtain ⟨width, hwidth, h⟩ := Outcome.of_bind h
  have hp : p.leaves = above.leaves ++ width.leaves := leaves_binaryNode h
  have hratio : ratio.leaves = value.leaves ++ d0.leaves := leaves_binaryNode hratio
  have hwhole : whole.leaves = d1.leaves ++ d0.leaves := leaves_binaryNode hwhole
  simp only [hp, leaves_log habove, leaves_log hwidth, hratio, hwhole, List.mem_append]
  tauto

end Position

/-- A linear or logarithmic scale builds from all its bounds and its argument. -/
theorem mem_leaves_mapped {s : Scale} {d : DomainRange}
    (hs : s.attributes = domainRangeAttributes d)
    {position : Table Value → Value → Except Fault Expr}
    (hposition : ∀ {d0 d1 value p : Expr}, resolved attrs "d0" = .ok (.expr d0) →
      resolved attrs "d1" = .ok (.expr d1) → position attrs (.expr value) = .ok p → ∀ x,
        (x ∈ p.leaves ↔ x ∈ d0.leaves ∨ x ∈ d1.leaves ∨ x ∈ value.leaves))
    (h : s.Brought L arguments attrs values) {value e : Expr} {slot : Value × ValueType}
    (hvalue : ∀ x, x ∈ value.leaves ↔ L slot x)
    (he : mapped position attrs (.expr value) = .ok e) (x : Expr) :
    x ∈ e.leaves ↔
      ∃ slot' ∈ s.attributes.map (fun a => (a.value, a.valueType)) ++ [slot], L slot' x := by
  have hbound (name : String) {a : Attribute}
      (ha : Table.find? ((domainRangeAttributes d).map fun a => (a.name, a)) name = some a) :=
    h.resolved name (hs ▸ ha)
  obtain ⟨d0, hd0, ld0⟩ := hbound "d0" rfl
  obtain ⟨d1, hd1, ld1⟩ := hbound "d1" rfl
  obtain ⟨r0, hr0, lr0⟩ := hbound "r0" rfl
  obtain ⟨r1, hr1, lr1⟩ := hbound "r1" rfl
  replace he := Outcome.of_bind_ok hr0 he
  replace he := Outcome.of_bind_ok hr1 he
  obtain ⟨p, hp, he⟩ := Outcome.of_bind he
  rw [leaves_mix he, hs]
  simp only [domainRangeAttributes, List.map_cons, List.map_nil, List.cons_append, List.nil_append,
    List.exists_mem_cons_iff, List.not_mem_nil, false_and, exists_false, or_false, List.mem_append,
    hposition hd0 hd1 hp, ld0, ld1, lr0, lr1, hvalue]
  tauto

/-- A scale that builds was given as many values as it takes. -/
theorem length_of_build {s : Scale} {e : Expr} (he : s.build attrs values = .ok e) :
    values.length = s.arity := by
  unfold build at he
  split at he
  · rfl
  · rfl
  · rfl
  · rfl
  · rfl
  · cases he

/-- What was brought for the only argument. -/
theorem Brought.of_one {s : Scale} (h : s.Brought L arguments attrs values)
    (hlength : values.length = 1) :
    ∃ slot v, arguments = [slot] ∧ values = [.expr v] ∧ ∀ x, x ∈ v.leaves ↔ L slot x := by
  obtain ⟨_, rfl⟩ := List.length_eq_one_iff.1 hlength
  obtain ⟨slot, rest, ⟨v, rfl, hv⟩, hrest, rfl⟩ := List.forall₂_cons_right_iff.1 h.arguments
  obtain rfl := List.forall₂_nil_right_iff.1 hrest
  exact ⟨slot, v, rfl, rfl, hv⟩

/-- What was brought for two arguments. -/
theorem Brought.of_two {s : Scale} (h : s.Brought L arguments attrs values)
    (hlength : values.length = 2) :
    ∃ slot slot' v w, arguments = [slot, slot'] ∧ values = [.expr v, .expr w] ∧
      (∀ x, x ∈ v.leaves ↔ L slot x) ∧ ∀ x, x ∈ w.leaves ↔ L slot' x := by
  obtain ⟨_, _, rfl⟩ := List.length_eq_two.1 hlength
  obtain ⟨slot, _, ⟨v, rfl, hv⟩, hrest, rfl⟩ := List.forall₂_cons_right_iff.1 h.arguments
  obtain ⟨slot', _, ⟨w, rfl, hw⟩, hnone, rfl⟩ := List.forall₂_cons_right_iff.1 hrest
  obtain rfl := List.forall₂_nil_right_iff.1 hnone
  exact ⟨slot, slot', v, w, rfl, rfl, hv, hw⟩

/-- What stands for a name of a custom scale's formula has the leaves of the slot of that name. -/
theorem mem_leavesOf_custom {p : ParsedFormula} {attributes : Table CustomAttribute}
    {slot : Value × ValueType} {value : Expr} {env : Environment}
    (h : (custom p attributes).Brought L [slot] attrs [.expr value])
    (hvalue : ∀ x, x ∈ value.leaves ↔ L slot x)
    (henv : ParsedFormula.environmentOf (attrs.set inputName (.expr value)) = .ok env)
    (n : String) (x : Expr) :
    x ∈ Formula.leavesOf env n ↔ ∃ slot' ∈ (if n = inputName then [slot]
      else (attributes.find? n).toList.map fun a => (a.value, a.valueType)), L slot' x := by
  have hfound := ParsedFormula.find?_environmentOf henv n
  rw [Table.find?_set] at hfound
  rw [Formula.mem_leavesOf]
  by_cases hn : n = inputName
  · rw [if_pos hn] at hfound ⊢
    obtain ⟨e, he, heq⟩ := Option.map_eq_some_iff.1 hfound.symm
    obtain rfl := Value.expr.inj heq
    simp [he, hvalue]
  · rw [if_neg hn] at hfound ⊢
    have hattr := h.find? n
    have htable : Table.find? ((custom p attributes).attributes.map fun a => (a.name, a)) n =
        (attributes.find? n).map fun a => ⟨n, a.valueType, a.value, false⟩ := by
      rw [← Table.find?_map fun n (a : CustomAttribute) =>
        (⟨n, a.valueType, a.value, false⟩ : Attribute)]
      unfold Scale.attributes
      rw [List.map_map]
      rfl
    rw [htable, hfound] at hattr
    generalize attributes.find? n = declared, env.find? n = found at hattr ⊢
    match declared, found, hattr with
    | none, none, _ => simp
    | some a, some e, .some ⟨e', heq, he⟩ =>
      obtain rfl := Value.expr.inj heq
      simp [he]

/-- **What a scale builds has the leaves of the slots that it reads, and no others.** -/
theorem mem_leaves_build {s : Scale} {e : Expr} (h : s.Brought L arguments attrs values)
    (he : s.build attrs values = .ok e) (x : Expr) :
    x ∈ e.leaves ↔ ∃ slot ∈ s.reads arguments, L slot x := by
  have hlength := length_of_build he
  cases s with
  | linear d =>
    obtain ⟨slot, v, rfl, rfl, hv⟩ := h.of_one hlength
    exact mem_leaves_mapped rfl mem_leaves_linearPosition h hv (unplaced_ok he) x
  | log d =>
    obtain ⟨slot, v, rfl, rfl, hv⟩ := h.of_one hlength
    exact mem_leaves_mapped rfl mem_leaves_logPosition h hv (unplaced_ok he) x
  | interpolate u position =>
    obtain ⟨slot, slot', a, b, rfl, rfl, ha, hb⟩ := h.of_two hlength
    obtain ⟨t, ht, lt⟩ := h.resolved "t" rfl
    have hmix := Outcome.of_bind_ok ht (unplaced_ok he)
    simp only [leaves_mix hmix, reads, Scale.attributes, List.map_cons, List.map_nil,
      List.cons_append, List.nil_append, List.exists_mem_cons_iff, List.not_mem_nil, false_and,
      exists_false, or_false, List.mem_append, ha, hb, lt]
    tauto
  | arithmetic op =>
    obtain ⟨slot, slot', a, b, rfl, rfl, ha, hb⟩ := h.of_two hlength
    have hnode : e.leaves = a.leaves ++ b.leaves := by
      replace he := unplaced_ok he
      cases op with
      | add | sub | mul | div => exact leaves_binaryNode he
      | vector2 =>
        obtain rfl := Except.ok.inj he
        simp [Expr.leaves, Expr.leavesOfAll]
    simp [hnode, reads, Scale.attributes, ha, hb]
  | custom p attributes =>
    obtain ⟨slot, v, rfl, rfl, hv⟩ := h.of_one hlength
    obtain ⟨env, henv, hcompile⟩ := Outcome.of_bind he
    rw [Formula.leaves_compile hcompile, List.mem_flatMap]
    constructor
    · rintro ⟨n, hn, hx⟩
      obtain ⟨slot', hslot', hL⟩ := (mem_leavesOf_custom h hv henv n x).1 hx
      exact ⟨slot', List.mem_flatMap.2 ⟨n, (p.formula.mem_names n).2 hn, hslot'⟩, hL⟩
    · rintro ⟨slot', hslot', hL⟩
      obtain ⟨n, hn, hslot'⟩ := List.mem_flatMap.1 hslot'
      exact ⟨n, (p.formula.mem_names n).1 hn,
        (mem_leavesOf_custom h hv henv n x).2 ⟨slot', hslot', hL⟩⟩

end Scale

/-! ## 3. Leaves of what a binding means -/

namespace Store

variable {s : Store}

/-- What stands in the slots that the scale of a binding reads, with the types of the slots. -/
def reads (s : Store) (id : BindingId) : List (Value × ValueType) :=
  match s.binding? id with
  | none => []
  | some b => match s.scale? b.scale with
    | none => []
    | some scale => scale.reads (b.arguments.zip b.argumentTypes)

/-- The leaves that a binding has from the slots that its scale reads. -/
inductive Leaf (s : Store) : BindingId → Expr → Prop where
  | given {id : BindingId} {e : Expr} {t : ValueType} {x : Expr}
      (hslot : (.expr e, t) ∈ s.reads id) (hx : x ∈ e.leaves) : Leaf s id x
  | column {id : BindingId} {r : DataRef} {t : ValueType}
      (hslot : (.reference r, t) ∈ s.reads id) :
      Leaf s id (.column r.field (r.valueType.getD t))
  | nested {id child : BindingId} {t : ValueType} {x : Expr}
      (hslot : (.binding child, t) ∈ s.reads id) (hx : Leaf s child x) : Leaf s id x

/-- The leaves of what stands in a slot. -/
def LeafIn (s : Store) (slot : Value × ValueType) (x : Expr) : Prop :=
  match slot.1 with
  | .datum _ => False
  | .reference r => x = .column r.field (r.valueType.getD slot.2)
  | .expr e => x ∈ e.leaves
  | .binding id => s.Leaf id x

theorem leaf_iff {id : BindingId} {x : Expr} :
    s.Leaf id x ↔ ∃ slot ∈ s.reads id, s.LeafIn slot x := by
  constructor
  · rintro (⟨hslot, hx⟩ | ⟨hslot⟩ | ⟨hslot, hx⟩)
    · exact ⟨_, hslot, hx⟩
    · exact ⟨_, hslot, rfl⟩
    · exact ⟨_, hslot, hx⟩
  · rintro ⟨⟨v, t⟩, hslot, hx⟩
    cases v with
    | datum d => cases hx
    | reference r =>
      obtain rfl : x = .column r.field (r.valueType.getD t) := hx
      exact .column hslot
    | expr e => exact .given hslot hx
    | binding child => exact .nested hslot hx

theorem reads_of {id : BindingId} {b : Binding} {scale : Scale} (hb : s.binding? id = some b)
    (hs : s.scale? b.scale = some scale) :
    s.reads id = scale.reads (b.arguments.zip b.argumentTypes) := by
  unfold reads
  rw [hb]
  show (match s.scale? b.scale with | none => [] | some scale => _) = _
  rw [hs]

/-- What a scale reads stands in a slot. -/
theorem mem_slotValues_of_reads {id : BindingId} {slot : Value × ValueType}
    (h : slot ∈ s.reads id) : slot.1 ∈ s.slotValues id := by
  unfold reads at h
  split at h
  · cases h
  · next b hb =>
    split at h
    · cases h
    · next scale hs =>
      rw [slotValues_of hb hs, List.mem_append]
      exact (Scale.mem_of_mem_reads h).imp_right fun h => (List.of_mem_zip h).1

/-- A binding that stands in a slot that is read stands right behind. -/
theorem mem_children_of_reads {id child : BindingId} {t : ValueType}
    (h : (.binding child, t) ∈ s.reads id) : child ∈ s.children id :=
  mem_children_iff.2 (mem_slotValues_of_reads h)

/-- A leaf comes from an expression that stands in a slot that is read, or is the column of a
    reference in such a slot, of the binding or of one behind it. -/
theorem Leaf.exists_origin {id : BindingId} {x : Expr} (h : s.Leaf id x) :
    ∃ y slot, s.Reaches id y ∧ slot ∈ s.reads y ∧
      ((∃ e, slot.1 = .expr e ∧ x ∈ e.leaves) ∨
        ∃ r, slot.1 = .reference r ∧ x = .column r.field (r.valueType.getD slot.2)) := by
  induction h with
  | given hslot hx => exact ⟨_, _, .refl, hslot, .inl ⟨_, rfl, hx⟩⟩
  | column hslot => exact ⟨_, _, .refl, hslot, .inr ⟨_, rfl, rfl⟩⟩
  | nested hslot _ ih =>
    obtain ⟨y, slot, hy, hread, horigin⟩ := ih
    exact ⟨y, slot, .head (mem_children_of_reads hslot) hy, hread, horigin⟩

section Known

variable {known : BindingId → Option Expr}
variable (hknown : ∀ {id e}, known id = some e → ∀ x, x ∈ e.leaves ↔ s.Leaf id x)

include hknown

/-- What a value means in a slot has the leaves of the slot. -/
theorem brings_of_fill? {t : ValueType} {acceptsNumeric : Bool} {v : Value} {e : Expr}
    (h : v.fill? known t acceptsNumeric = some e) : Scale.Brings s.LeafIn (v, t) (.expr e) := by
  obtain ⟨hraw, -⟩ := Value.fill?_eq_some_iff.1 h
  refine ⟨e, rfl, fun x => ?_⟩
  match v with
  | .binding id => exact hknown hraw x
  | .expr _ =>
    obtain rfl := Option.some.inj hraw
    exact .rfl
  | .reference r =>
    obtain rfl := Option.some.inj hraw
    exact List.mem_singleton
  | .datum (.literal l) =>
    obtain ⟨m, rfl⟩ := Literal.exists_of_constantFor? hraw
    exact iff_of_false List.not_mem_nil id
  | .datum .absent | .datum (.text _) => cases hraw

theorem brought_attributes {attributes : List Attribute} {attrs : Table Value}
    (h : attributes? known attributes = some attrs) :
    List.Forall₂ (fun a r => a.name = r.1 ∧ Scale.Brings s.LeafIn (a.value, a.valueType) r.2)
      attributes attrs :=
  forall₂_of_attributes? (fun _ _ _ he => ⟨rfl, brings_of_fill? hknown he⟩) h

theorem brought_arguments {arguments : List (Value × ValueType)} {values : List Value}
    (h : arguments? known arguments = some values) :
    List.Forall₂ (Scale.Brings s.LeafIn) arguments values :=
  forall₂_of_arguments? (fun _ _ _ he => brings_of_fill? hknown he) h

end Known

/-- **What a binding means has the leaves that it has from its slots, and no others.** -/
theorem mem_leaves_build? {depth : Nat} {id : BindingId} {e : Expr}
    (h : s.build? depth id = some e) (x : Expr) : x ∈ e.leaves ↔ s.Leaf id x := by
  induction depth generalizing id e x with
  | zero => cases h
  | succ depth ih =>
    obtain ⟨b, scale, attrs, values, hb, hs, hattrs, hvalues, he⟩ := build?_succ_eq_some_iff.1 h
    have hbrought : scale.Brought s.LeafIn (b.arguments.zip b.argumentTypes) attrs values :=
      ⟨brought_attributes ih hattrs, brought_arguments ih hvalues⟩
    rw [leaf_iff, reads_of hb hs]
    exact Scale.mem_leaves_build hbrought he x

end Store

/-! ## 4. Resolving -/

/-- **No leaf is invented, leaked or lost.** Whatever calls a resolver has served: if resolving a
    binding gives an expression, the leaves of the expression are those that the binding has from
    the slots that its scale reads. So a variable among them stands in an expression that was given
    to such a slot, of the binding or of one behind it. -/
theorem Resolver.mem_leaves_resolve (calls : List Resolver.Call) {s : Store} {id : BindingId}
    {e : Expr} (h : (((Resolver.new columnOf).after calls).resolve s id).1 = .ok e) :
    (∀ x, x ∈ e.leaves ↔ s.Leaf id x) ∧
    ∀ n t, .var n t ∈ e.leaves → ∃ y given slotType, s.Reaches id y ∧
      (.expr given, slotType) ∈ s.reads y ∧ .var n t ∈ given.leaves := by
  have hidle := Resolver.idle_after calls (r := Resolver.new columnOf) rfl
  obtain ⟨-, depth, hmeans⟩ :=
    (Resolver.resolve_ok_iff_of_idle hidle (Resolver.references_after _ calls) s id e).1 h
  have hleaves (x : Expr) : x ∈ e.leaves ↔ s.Leaf id x := Store.mem_leaves_build? hmeans x
  refine ⟨hleaves, fun n t hvar => ?_⟩
  obtain ⟨y, ⟨v, slotType⟩, hy, hread, horigin⟩ := ((hleaves _).1 hvar).exists_origin
  obtain ⟨given, rfl, hgiven⟩ | ⟨r, -, heq⟩ := horigin
  · exact ⟨y, given, slotType, hy, hread, hgiven⟩
  · cases heq

/-- A gain that is a column without a type, over a sum with a variable that is called like the gain;
    the attribute that the formula does not name leaves nothing. -/
theorem Resolver.mem_leaves_resolve_gain :
    let p : ParsedFormula :=
      ⟨"gain * value", .binary .mul (.name "gain" default) (.name "value" default) default⟩
    let scale : Scale := .custom p [("gain", ⟨.float, .reference ⟨"g", none, by decide⟩⟩),
      ("idle", ⟨.float, .expr (.var "i" .float)⟩)]
    let sum : List Value := [.expr (.var "gain" .int), Scale.floatValue 1]
    let s : Store := ⟨[scale, .arithmetic .add],
      [⟨⟨0⟩, .float, [.float], [.binding ⟨1⟩], .created, rfl⟩,
        ⟨⟨1⟩, .float, [.float, .float], sum, .created, rfl⟩]⟩
    let one : Expr := .const (.literal (.scalar (.float (.ofInt 1)))) .float
    let e : Expr :=
      .binary "*" (.column "g" .float) (.binary "+" (.var "gain" .int) one .float) .float
    (((Resolver.new columnOf).after []).resolve s ⟨0⟩).1 = .ok e ∧
      (∀ x, x ∈ e.leaves ↔ s.Leaf ⟨0⟩ x) ∧
      ∀ n t, .var n t ∈ e.leaves → ∃ y given slotType, s.Reaches ⟨0⟩ y ∧
        (.expr given, slotType) ∈ s.reads y ∧ .var n t ∈ given.leaves := by
  intro p scale sum s one e
  have h : (((Resolver.new columnOf).after []).resolve s ⟨0⟩).1 = .ok e := rfl
  exact ⟨h, Resolver.mem_leaves_resolve [] h⟩

end VisualScale
