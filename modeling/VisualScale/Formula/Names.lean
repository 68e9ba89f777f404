import VisualScale.Formula.Parsed

/-!
# The names of a formula

Which names a formula reads. A name that is only called is not read. The names are listed in the
order of their depth in the tree, and from left to right where the depth is equal (`levels`); each
is listed once, where it comes first.
-/

namespace VisualScale

/-- The elements of a list without those that came before. -/
def distinct {α : Type} [DecidableEq α] : List α → List α
  | [] => []
  | a :: rest => a :: (distinct rest).filter (· ≠ a)

theorem mem_distinct {α : Type} [DecidableEq α] (l : List α) (a : α) :
    a ∈ distinct l ↔ a ∈ l := by
  induction l with
  | nil => simp [distinct]
  | cons b rest ih =>
    by_cases h : a = b
    · simp [distinct, h]
    · simp [distinct, h, ih]

theorem nodup_distinct {α : Type} [DecidableEq α] (l : List α) : (distinct l).Nodup := by
  induction l with
  | nil => simp [distinct]
  | cons a rest ih =>
    simp only [distinct, List.nodup_cons, List.mem_filter]
    exact ⟨by simp, ih.filter _⟩

/-- Lists joined place by place: the first entries, the second entries, and so on. -/
def zipLevels : List (List String) → List (List String) → List (List String)
  | [], bs => bs
  | as, [] => as
  | a :: as, b :: bs => (a ++ b) :: zipLevels as bs

@[simp] theorem zipLevels_nil_left (bs : List (List String)) : zipLevels [] bs = bs := by
  simp [zipLevels]

@[simp] theorem zipLevels_nil_right (as : List (List String)) : zipLevels as [] = as := by
  cases as <;> simp [zipLevels]

theorem mem_flatten_zipLevels (as bs : List (List String)) (s : String) :
    s ∈ (zipLevels as bs).flatten ↔ s ∈ as.flatten ∨ s ∈ bs.flatten := by
  induction as generalizing bs with
  | nil => simp
  | cons a as ih =>
    cases bs with
    | nil => simp
    | cons b bs =>
      simp only [zipLevels, List.flatten_cons, List.mem_append, ih]
      grind

namespace Formula

mutual

/-- The names that a formula reads, level by level from the root. -/
def levels : Formula → List (List String)
  | whole _ _ | real _ _ => []
  | name id _ => [[id]]
  | binary _ left right _ => [] :: zipLevels left.levels right.levels
  | signed _ operand _ => [] :: operand.levels
  | call _ args _ => [] :: levelsOfAll args
  | component value _ _ => [] :: value.levels

/-- The names that formulas side by side read, level by level. -/
def levelsOfAll : List Formula → List (List String)
  | [] => []
  | f :: rest => zipLevels f.levels (levelsOfAll rest)

end

mutual

/-- The names that a formula reads, from left to right. -/
def reads : Formula → List String
  | whole _ _ | real _ _ => []
  | name id _ => [id]
  | binary _ left right _ => left.reads ++ right.reads
  | signed _ operand _ => operand.reads
  | call _ args _ => readsOfAll args
  | component value _ _ => value.reads

/-- The names that formulas side by side read, from left to right. -/
def readsOfAll : List Formula → List String
  | [] => []
  | f :: rest => f.reads ++ readsOfAll rest

end

/-- The names that a formula reads, each listed once. -/
def names (f : Formula) : List String := distinct f.levels.flatten

theorem nodup_names (f : Formula) : f.names.Nodup := nodup_distinct _

mutual

theorem mem_levels (f : Formula) (s : String) : s ∈ f.levels.flatten ↔ s ∈ f.reads := by
  cases f with
  | whole | real => simp [levels, reads]
  | name => simp [levels, reads]
  | binary op left right span =>
    simp only [levels, reads, List.flatten_cons, List.nil_append, List.mem_append,
      mem_flatten_zipLevels, mem_levels left, mem_levels right]
  | signed sign operand span =>
    simp only [levels, reads, List.flatten_cons, List.nil_append, mem_levels operand]
  | call function args span =>
    simp only [levels, reads, List.flatten_cons, List.nil_append, mem_levelsOfAll args]
  | component value field span =>
    simp only [levels, reads, List.flatten_cons, List.nil_append, mem_levels value]

theorem mem_levelsOfAll (fs : List Formula) (s : String) :
    s ∈ (levelsOfAll fs).flatten ↔ s ∈ readsOfAll fs := by
  cases fs with
  | nil => simp [levelsOfAll, readsOfAll]
  | cons f rest =>
    simp only [levelsOfAll, readsOfAll, List.mem_append, mem_flatten_zipLevels, mem_levels f,
      mem_levelsOfAll rest]

end

/-- The names of a formula are those that it reads, whatever the order. -/
theorem mem_names (f : Formula) (s : String) : s ∈ f.names ↔ s ∈ f.reads := by
  rw [names, mem_distinct, mem_levels]

end Formula

end VisualScale
