import VisualScale.Formula.Names

/-!
# The nodes of a formula

A formula is a tree: below each node stand the formulas that it is put together from, from left to
right (`Formula.children`), and a path says at each step which of them to take (`Formula.node?`).

* `Formula.below_induction` -- what a formula has as soon as all formulas right below it have it,
  every formula has;
* `Formula.mem_reads_iff` -- a formula reads a name if and only if the name is one of its nodes. The
  function of a call is none: it belongs to the node of the call.
-/

namespace VisualScale

namespace Formula

/-- The formulas right below a formula, from left to right. -/
def children : Formula → List Formula
  | whole _ _ | real _ _ | name _ _ => []
  | binary _ left right _ => [left, right]
  | signed _ operand _ => [operand]
  | call _ args _ => args
  | component value _ _ => [value]

/-- The node at the end of a path, which takes the formula of a number at each step. -/
def node? (f : Formula) : (path : List Nat) → Option Formula
  | [] => some f
  | i :: path => (f.children[i]?).bind fun child => child.node? path

/-- The name is one of the nodes. -/
def Uses (f : Formula) (n : String) : Prop := ∃ path span, f.node? path = some (.name n span)

/-! ## 1. Going down -/

theorem sizeOf_lt_of_mem_children {f child : Formula} (h : child ∈ f.children) :
    sizeOf child < sizeOf f := by
  cases f with
  | whole n s | real d s | name id s => cases h
  | binary op left right s =>
    simp only [children, List.mem_cons, List.not_mem_nil, or_false] at h
    rcases h with rfl | rfl
    · simp +arith
    · simp +arith
  | signed sign operand s =>
    obtain rfl := List.mem_singleton.1 h
    simp +arith
  | call function args s =>
    have hmem : sizeOf child < sizeOf args := List.sizeOf_lt_of_mem h
    simp only [call.sizeOf_spec]
    omega
  | component value field s =>
    obtain rfl := List.mem_singleton.1 h
    simp +arith

/-- What a formula has as soon as all formulas right below it have it, every formula has. -/
theorem below_induction {P : Formula → Prop} (step : ∀ f, (∀ child ∈ f.children, P child) → P f)
    (f : Formula) : P f :=
  step f fun child hchild =>
    have := sizeOf_lt_of_mem_children hchild
    below_induction step child
termination_by sizeOf f

theorem node?_cons {f child : Formula} {i : Nat} (h : f.children[i]? = some child)
    (path : List Nat) : f.node? (i :: path) = child.node? path := by
  show (f.children[i]?).bind _ = _
  rw [h]
  rfl

theorem exists_of_node?_cons {f node : Formula} {i : Nat} {path : List Nat}
    (h : f.node? (i :: path) = some node) :
    ∃ child, f.children[i]? = some child ∧ child.node? path = some node :=
  Option.bind_eq_some_iff.1 h

theorem Uses.of_child {f child : Formula} {n : String} (hchild : child ∈ f.children)
    (h : child.Uses n) : f.Uses n := by
  obtain ⟨i, hi⟩ := List.mem_iff_getElem?.1 hchild
  obtain ⟨path, span, hpath⟩ := h
  exact ⟨i :: path, span, (node?_cons hi path).trans hpath⟩

/-! ## 2. Names -/

/-- A formula is a name, or is none. -/
theorem name_cases (f : Formula) :
    (∃ id span, f = .name id span) ∨ ∀ id span, f ≠ .name id span := by
  cases f with
  | name id s => exact .inl ⟨id, s, rfl⟩
  | whole | real | binary | signed | call | component => exact .inr nofun

theorem readsOfAll_eq (fs : List Formula) : readsOfAll fs = fs.flatMap reads := by
  induction fs with
  | nil => simp [readsOfAll]
  | cons f rest ih => simp [readsOfAll, ih]

/-- A formula that is no name reads what the formulas below it read. -/
theorem reads_eq_readsOfAll {f : Formula} (h : ∀ n span, f ≠ .name n span) :
    f.reads = readsOfAll f.children := by
  cases f with
  | name id s => exact absurd rfl (h id s)
  | whole | real | binary | signed | call | component => simp [children, reads, readsOfAll]

theorem reads_subset_of_mem_children {f child : Formula} (h : child ∈ f.children) :
    child.reads ⊆ f.reads := by
  have hname : ∀ n span, f ≠ .name n span := by
    rintro n span rfl
    cases h
  rw [reads_eq_readsOfAll hname, readsOfAll_eq]
  exact fun n hn => List.mem_flatMap.2 ⟨child, h, hn⟩

/-- **A formula reads the names among its nodes.** -/
theorem mem_reads_iff (f : Formula) (n : String) : n ∈ f.reads ↔ f.Uses n := by
  induction f using below_induction with
  | step f ih =>
    constructor
    · intro hn
      rcases f.name_cases with ⟨id, span, rfl⟩ | hno
      · obtain rfl := List.mem_singleton.1 hn
        exact ⟨[], span, rfl⟩
      · rw [reads_eq_readsOfAll hno, readsOfAll_eq] at hn
        obtain ⟨child, hchild, hn⟩ := List.mem_flatMap.1 hn
        exact .of_child hchild ((ih child hchild).1 hn)
    · rintro ⟨path, span, hpath⟩
      cases path with
      | nil =>
        obtain rfl := Option.some.inj hpath
        exact List.mem_singleton_self n
      | cons i path =>
        obtain ⟨child, hi, hpath⟩ := exists_of_node?_cons hpath
        have hchild := List.mem_of_getElem? hi
        exact reads_subset_of_mem_children hchild ((ih child hchild).2 ⟨path, span, hpath⟩)

/-- The names of a formula are those among its nodes. -/
theorem mem_names_iff (f : Formula) (n : String) : n ∈ f.names ↔ f.Uses n :=
  (f.mem_names n).trans (f.mem_reads_iff n)

end Formula

end VisualScale
