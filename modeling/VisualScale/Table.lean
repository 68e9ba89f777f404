/-!
# Tables in order

Entries under names, in the order in which the names were first set. Setting a name again changes
its entry and leaves its place.
-/

namespace VisualScale

/-- Entries under names, in order. -/
abbrev Table (α : Type) := List (String × α)

namespace Table

variable {α : Type}

/-- The entry of a name. -/
def find? : Table α → String → Option α
  | [], _ => none
  | (n, a) :: rest, name => if n = name then some a else find? rest name

/-- Sets the entry of a name. -/
def set : Table α → String → α → Table α
  | [], name, a => [(name, a)]
  | (n, b) :: rest, name, a => if n = name then (n, a) :: rest else (n, b) :: set rest name a

/-- The names of a table in order. -/
def names (t : Table α) : List String := t.map Prod.fst

@[simp] theorem find?_nil (name : String) : find? ([] : Table α) name = none := rfl

@[simp] theorem names_nil : names ([] : Table α) = [] := rfl

theorem find?_set (t : Table α) (name : String) (a : α) (s : String) :
    (t.set name a).find? s = if s = name then some a else t.find? s := by
  induction t with
  | nil => by_cases h : s = name <;> simp [set, find?, h, Ne.symm]
  | cons e rest ih =>
    obtain ⟨n, b⟩ := e
    by_cases hn : n = name
    · subst hn
      by_cases hs : s = n <;> simp [set, find?, hs, Ne.symm]
    · by_cases hs : s = n
      · subst hs; simp [set, find?, hn]
      · simp [set, find?, hn, Ne.symm hs, ih]

theorem names_set (t : Table α) (name : String) (a : α) :
    (t.set name a).names = if name ∈ t.names then t.names else t.names ++ [name] := by
  induction t with
  | nil => simp [set, names]
  | cons e rest ih =>
    obtain ⟨n, b⟩ := e
    by_cases hn : n = name
    · subst hn; simp [set, names]
    · have ih' := ih
      simp only [names] at ih'
      by_cases hm : name ∈ rest.map Prod.fst <;>
        simp [set, names, hn, Ne.symm hn, hm, ih']

/-- The table of a list of entries, the later ones setting names again. -/
def ofEntries (entries : List (String × α)) : Table α :=
  entries.foldl (fun t (name, a) => t.set name a) []

end Table

end VisualScale
