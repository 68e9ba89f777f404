import Mathlib.Data.List.Nodup
import Mathlib.Data.List.Perm.Basic
import VisualScale.Proofs.Language.Accepted
import VisualScale.Proofs.Lookups
import VisualScale.Proofs.Place.Layout
import VisualScale.Proofs.Uses

/-!
# The order of the names

The names of a formula are listed by their depth in the tree, and only where the depth is equal from
left to right. Compiling looks them up from left to right, as they stand in the text. A name may be
used more than once, and then its first use decides; which one is the first depends on the order.

* `Formula.idxOf_names_lt_iff` -- which of two names is listed first;
* `Formula.names_eq_distinct_reads_iff` -- the names are listed in the order of their first uses in
  the text if and only if of any two names the one used first in the text is also found first by
  depth;
* `Formula.names_eq_distinct_reads` -- so they are where no use is nearer to the root than one
  further left;
* `ParsedFormula.names_order` -- the order of the words, of the lookups and of the list, for the
  formula of a text.
-/

namespace VisualScale

/-! ## 1. First places in a list -/

section

variable {α : Type} [DecidableEq α]

/-- What a list with one more element in front finds first. -/
theorem idxOf_cons_lt_iff (a : α) (l : List α) (n m : α) :
    (a :: l).idxOf n < (a :: l).idxOf m ↔ a ≠ m ∧ (a = n ∨ l.idxOf n < l.idxOf m) := by
  by_cases hm : a = m
  · subst hm
    simp
  by_cases hn : a = n
  · subst hn
    simp [List.idxOf_cons_ne l hm, hm]
  · simp [List.idxOf_cons_ne l hm, List.idxOf_cons_ne l hn, hm, hn]

/-- Without a third element, two elements of a list keep their order. -/
theorem idxOf_filter_lt_iff (l : List α) {a n m : α} (hn : a ≠ n) (hm : a ≠ m) :
    (l.filter (· ≠ a)).idxOf n < (l.filter (· ≠ a)).idxOf m ↔ l.idxOf n < l.idxOf m := by
  induction l with
  | nil => exact Iff.rfl
  | cons b l ih =>
    by_cases hb : b = a
    · subst hb
      simpa [idxOf_cons_lt_iff, hn, hm] using ih
    · rw [List.filter_cons_of_pos (by simpa using hb), idxOf_cons_lt_iff, idxOf_cons_lt_iff, ih]

/-- Without those that came before, the elements of a list keep their order. -/
theorem idxOf_distinct_lt_iff (l : List α) (n m : α) :
    (distinct l).idxOf n < (distinct l).idxOf m ↔ l.idxOf n < l.idxOf m := by
  induction l with
  | nil => exact Iff.rfl
  | cons a l ih =>
    rw [distinct, idxOf_cons_lt_iff, idxOf_cons_lt_iff]
    refine and_congr_right fun hm => ?_
    by_cases hn : a = n
    · exact iff_of_true (.inl hn) (.inl hn)
    · rw [idxOf_filter_lt_iff _ hn hm, ih]

theorem pairwise_idxOf_distinct (l : List α) :
    (distinct l).Pairwise fun n m => l.idxOf n < l.idxOf m := by
  refine List.pairwise_iff_getElem.2 fun i j hi hj hij => ?_
  rw [← idxOf_distinct_lt_iff, (nodup_distinct l).idxOf_getElem, (nodup_distinct l).idxOf_getElem]
  exact hij

/-- Lists with the same elements list them in the same order of first places if and only if what
    comes first in the one comes first in the other. -/
theorem distinct_eq_iff {l l' : List α} (h : ∀ a, a ∈ l ↔ a ∈ l') :
    distinct l = distinct l' ↔ ∀ n m, l'.idxOf n < l'.idxOf m → l.idxOf n < l.idxOf m := by
  constructor
  · intro heq n m hlt
    rw [← idxOf_distinct_lt_iff, heq, idxOf_distinct_lt_iff]
    exact hlt
  · intro hkeep
    have hperm : (distinct l).Perm (distinct l') := by
      refine (List.perm_ext_iff_of_nodup (nodup_distinct l) (nodup_distinct l')).2 fun a => ?_
      rw [mem_distinct, mem_distinct, h]
    refine hperm.eq_of_pairwise (fun a b _ _ hab hba => ?_) (pairwise_idxOf_distinct l)
      ((pairwise_idxOf_distinct l').imp (hkeep _ _))
    exact absurd hab hba.asymm

end

/-! ## 2. Two orders of uses -/

/-- A position comes before another in a text. -/
def Position.Before (p q : Position) : Prop :=
  p.line < q.line ∨ p.line = q.line ∧ p.column < q.column

theorem Position.Before.trans {p q r : Position} (h : p.Before q) (h' : q.Before r) :
    p.Before r := by
  unfold Before at *
  omega

theorem Position.Before.asymm {p q : Position} (h : p.Before q) : ¬ q.Before p := by
  unfold Before at *
  omega

namespace NameUse

/-- A use stands further left in the text than another. -/
def Lefter (u v : NameUse) : Prop := u.span.start.Before v.span.start

/-- A use is nearer to the root of the tree than another, or as near and further left. -/
def Nearer (u v : NameUse) : Prop := u.depth < v.depth ∨ u.depth = v.depth ∧ u.Lefter v

theorem Lefter.asymm {u v : NameUse} (h : u.Lefter v) : ¬ v.Lefter u := Position.Before.asymm h

theorem Nearer.asymm {u v : NameUse} (h : u.Nearer v) : ¬ v.Nearer u := by
  rintro (hlt | ⟨heq, hleft⟩)
  · rcases h with h | ⟨h, -⟩
    · exact absurd h hlt.asymm
    · exact absurd h hlt.ne'
  · rcases h with h | ⟨-, h⟩
    · exact absurd heq h.ne'
    · exact hleft.asymm h

/-- One of the uses of a name comes, in an order, before all the uses of another. -/
def First (R : NameUse → NameUse → Prop) (us : List NameUse) (n m : String) : Prop :=
  ∃ u ∈ us, u.name = n ∧ ∀ v ∈ us, v.name = m → R u v

theorem first_cons_iff {R : NameUse → NameUse → Prop} (hasymm : ∀ {u v}, R u v → ¬ R v u)
    {w : NameUse} {us : List NameUse} (hw : ∀ u ∈ us, R w u) {n m : String} :
    First R (w :: us) n m ↔ w.name ≠ m ∧ (w.name = n ∨ First R us n m) := by
  constructor
  · rintro ⟨u, hu, hn, hall⟩
    refine ⟨fun hm => ?_, ?_⟩
    · -- then the use in front would come behind another, or behind itself
      have huw := hall w List.mem_cons_self hm
      rcases List.mem_cons.1 hu with rfl | hu
      · exact hasymm huw huw
      · exact hasymm huw (hw u hu)
    · rcases List.mem_cons.1 hu with rfl | hu
      · exact .inl hn
      · exact .inr ⟨u, hu, hn, fun v hv => hall v (List.mem_cons_of_mem _ hv)⟩
  · rintro ⟨hm, hn | ⟨u, hu, hn, hall⟩⟩
    · refine ⟨w, List.mem_cons_self, hn, fun v hv hvm => ?_⟩
      rcases List.mem_cons.1 hv with rfl | hv
      · exact absurd hvm hm
      · exact hw v hv
    · refine ⟨u, List.mem_cons_of_mem _ hu, hn, fun v hv hvm => ?_⟩
      rcases List.mem_cons.1 hv with rfl | hv
      · exact absurd hvm hm
      · exact hall v hv hvm

/-- In uses that follow an order, a name is found before another if its first use comes before all
    the uses of the other. -/
theorem idxOf_lt_iff {R : NameUse → NameUse → Prop} (hasymm : ∀ {u v}, R u v → ¬ R v u)
    {us : List NameUse} (hus : us.Pairwise R) (n m : String) :
    (us.map name).idxOf n < (us.map name).idxOf m ↔ First R us n m := by
  induction hus with
  | nil => simp [First]
  | cons hw _ ih => rw [List.map_cons, idxOf_cons_lt_iff, ih, first_cons_iff hasymm hw]

theorem first_congr {R : NameUse → NameUse → Prop} {us vs : List NameUse}
    (h : ∀ u, u ∈ us ↔ u ∈ vs) (n m : String) : First R us n m ↔ First R vs n m := by
  simp only [First, h]

end NameUse

/-! ## 3. The order of the names -/

namespace Formula

open NameUse

variable {f : Formula}

/-- The uses nearest to the root come first among those that are listed by their depth. -/
theorem pairwise_byDepth (h : f.uses.Pairwise Lefter) : f.byDepth.Pairwise Nearer := by
  have hdepth {k : Nat} {u : NameUse} (hu : u ∈ f.usesAt k) : u.depth = k :=
    (mem_usesAt_iff.1 hu).2
  refine List.pairwise_flatMap.2 ⟨fun k _ => ?_, List.pairwise_lt_range.imp ?_⟩
  · have hlefter : (f.usesAt k).Pairwise Lefter := h.filter _
    exact hlefter.imp_of_mem fun hu hv huv => .inr ⟨(hdepth hu).trans (hdepth hv).symm, huv⟩
  · exact fun hlt u hu v hv => .inl (by rwa [hdepth hu, hdepth hv])

/-- A name is listed before another if it has a use nearer to the root than all uses of the other,
    or as near and further left. -/
theorem idxOf_names_lt_iff (h : f.uses.Pairwise Lefter) (n m : String) :
    f.names.idxOf n < f.names.idxOf m ↔ First Nearer f.uses n m := by
  rw [names, idxOf_distinct_lt_iff, ← map_name_byDepth,
    idxOf_lt_iff Nearer.asymm (pairwise_byDepth h), first_congr f.mem_byDepth_iff]

/-- **The names are listed in the order of their first uses in the text if and only if** a name that
    is used further left than all uses of another is also found nearer to the root than all of them,
    or as near and further left. -/
theorem names_eq_distinct_reads_iff (h : f.uses.Pairwise Lefter) :
    f.names = distinct f.reads ↔
      ∀ n m, First Lefter f.uses n m → First Nearer f.uses n m := by
  unfold names
  rw [distinct_eq_iff fun n => f.mem_levels n]
  simp only [← map_name_byDepth, ← map_name_uses, idxOf_lt_iff Nearer.asymm (pairwise_byDepth h),
    idxOf_lt_iff Lefter.asymm h, first_congr f.mem_byDepth_iff]

/-- Where no use is nearer to the root than one further left, the names are listed in the order of
    the text. -/
theorem names_eq_distinct_reads (h : f.uses.Pairwise Lefter)
    (hdepth : f.uses.Pairwise (·.depth ≤ ·.depth)) : f.names = distinct f.reads := by
  refine (names_eq_distinct_reads_iff h).2 fun n m => ?_
  rintro ⟨u, hu, hun, hall⟩
  refine ⟨u, hu, hun, fun v hv hvm => ?_⟩
  have huv := hall v hv hvm
  have hle : u.depth ≤ v.depth := by
    obtain ⟨i, hi, rfl⟩ := List.getElem_of_mem hu
    obtain ⟨j, hj, rfl⟩ := List.getElem_of_mem hv
    rcases Nat.lt_trichotomy i j with hij | rfl | hij
    · exact List.pairwise_iff_getElem.1 hdepth i j hi hj hij
    · exact Nat.le_refl _
    · exact absurd huv (List.pairwise_iff_getElem.1 h j i hj hi hij).asymm
  exact (Nat.lt_or_eq_of_le hle).imp_right fun heq => ⟨heq, huv⟩

end Formula

/-! ## 4. Words in the text -/

theorem Position.before_after (p : Position) {cs : List Char} (h : cs ≠ []) :
    p.Before (p.after cs) := by
  have hstep (p : Position) (c : Char) : p.Before (p.after [c]) := by
    have hsize := c.utf8Size_pos
    unfold after Before
    simp only [List.foldl_cons, List.foldl_nil]
    split
    · exact .inl (Nat.lt_succ_self _)
    · exact .inr ⟨rfl, Nat.lt_add_of_pos_right hsize⟩
  induction cs generalizing p with
  | nil => exact absurd rfl h
  | cons c cs ih =>
    cases cs with
    | nil => exact hstep p c
    | cons d cs => exact (hstep p c).trans (ih (p.after [c]) (List.cons_ne_nil _ _))

theorem Laid.exists_start {p : Position} {cs : List Char} {tokens : List Token}
    (h : Laid p cs tokens) {t : Token} (ht : t ∈ tokens) : ∃ gap, t.span.start = p.after gap := by
  induction h with
  | nil => cases ht
  | @cons p gap piece rest t' ts _ hspan _ ih =>
    rcases List.mem_cons.1 ht with rfl | ht
    · exact ⟨gap, congrArg Span.start hspan⟩
    · obtain ⟨gap', hgap'⟩ := ih ht
      exact ⟨gap ++ piece ++ gap', by rw [hgap', Position.after_append _ _ gap']⟩

/-- Words stand in the text one behind the other. -/
theorem Laid.pairwise_before {p : Position} {cs : List Char} {tokens : List Token}
    (h : Laid p cs tokens) : tokens.Pairwise fun t t' => t.span.start.Before t'.span.start := by
  induction h with
  | nil => exact .nil
  | @cons p gap piece rest t ts hsolid hspan h ih =>
    refine List.pairwise_cons.2 ⟨fun t' ht' => ?_, ih⟩
    obtain ⟨gap', hgap'⟩ := h.exists_start ht'
    rw [hspan, hgap', ← Position.after_append, List.append_assoc]
    show (p.after gap).Before _
    rw [Position.after_append p gap]
    exact Position.before_after _ (List.append_ne_nil_of_left_ne_nil hsolid.ne_nil _)

/-! ## 5. The names of a text -/

namespace ParsedFormula

open Formula NameUse

variable {text : String} {p : ParsedFormula}

/-- **The order of the names of a text.** The uses of names are words of the text, one further right
    than the other, and what is read from left to right is their names. Compiling looks the names up
    in this order, all of them if it comes to an expression. They are listed in another: nearest to
    the root first, and only where the depth is equal from left to right. So the list has the order
    of the first uses in the text, which is that of the first lookups, if and only if every name
    whose first use is left of all uses of another also has a use nearer to the root than all of
    these, or as near and further left. -/
theorem names_order (h : ofText text = .ok p) :
    (∃ tokens, Lexer.lex (Text.trim text.toList) = some tokens ∧
      (p.formula.uses.map token).Sublist tokens) ∧
    p.formula.uses.Pairwise Lefter ∧ p.formula.uses.map NameUse.name = p.formula.reads ∧
    (∀ env, Notes (p.formula.compileVia p.source (noting env)) (p.compile env) p.formula.reads) ∧
    (∀ n m, p.formula.names.idxOf n < p.formula.names.idxOf m ↔
      First Nearer p.formula.uses n m) ∧
    (p.formula.names = distinct p.formula.reads ↔
      ∀ n m, First Lefter p.formula.uses n m → First Nearer p.formula.uses n m) := by
  obtain ⟨tokens, o, hlex, ho, hformula⟩ := writes_of_ofText h
  have hsublist := hformula ▸ ho.sublist_uses
  have hlefter : p.formula.uses.Pairwise Lefter := by
    have hbefore := (Lexer.laid_lex hlex).pairwise_before.sublist hsublist
    rw [List.pairwise_map] at hbefore
    exact hbefore
  exact ⟨⟨tokens, hlex, hsublist⟩, hlefter, p.formula.map_name_uses,
    fun env => notes_compileVia p.source env p.formula, idxOf_names_lt_iff hlefter,
    names_eq_distinct_reads_iff hlefter⟩

/-- The names of a call: of the two uses of `b` the first one decides in both orders. -/
theorem names_order_call :
    let p : ParsedFormula := ⟨"min(b, a * b)", .call "min" [.name "b" ⟨⟨1, 4⟩, ⟨1, 5⟩⟩,
      .binary .mul (.name "a" ⟨⟨1, 7⟩, ⟨1, 8⟩⟩) (.name "b" ⟨⟨1, 11⟩, ⟨1, 12⟩⟩) ⟨⟨1, 7⟩, ⟨1, 12⟩⟩]
      ⟨⟨1, 0⟩, ⟨1, 13⟩⟩⟩
    ofText "min(b, a * b)" = .ok p ∧ p.formula.names = ["b", "a"] ∧
      p.formula.uses.Pairwise Lefter ∧ First Nearer p.formula.uses "b" "a" ∧
      ∀ n m, First Lefter p.formula.uses n m → First Nearer p.formula.uses n m := by
  intro p
  have h : ofText "min(b, a * b)" = .ok p := rfl
  obtain ⟨-, hlefter, -, -, hfirst, hiff⟩ := names_order h
  exact ⟨h, by decide, hlefter, (hfirst "b" "a").1 (by decide), hiff.1 (by decide)⟩

/-- **A name that comes last may be listed first**: here it is the only one right below the root.
    Compiling looks it up last. -/
theorem names_not_in_order :
    let p : ParsedFormula := ⟨"a * b + c", .binary .add (.binary .mul (.name "a" ⟨⟨1, 0⟩, ⟨1, 1⟩⟩)
      (.name "b" ⟨⟨1, 4⟩, ⟨1, 5⟩⟩) ⟨⟨1, 0⟩, ⟨1, 5⟩⟩) (.name "c" ⟨⟨1, 8⟩, ⟨1, 9⟩⟩) ⟨⟨1, 0⟩, ⟨1, 9⟩⟩⟩
    let env : Environment := ["a", "b", "c"].map fun n => (n, .column n .float)
    ofText "a * b + c" = .ok p ∧ p.formula.names = ["c", "a", "b"] ∧
      distinct p.formula.reads = ["a", "b", "c"] ∧
      ((p.formula.compileVia p.source (noting env)).run.run []).2 = ["a", "b", "c"] :=
  ⟨rfl, by decide, by decide, rfl⟩

end ParsedFormula

end VisualScale
