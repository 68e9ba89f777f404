import VisualScale.Scale

/-!
# Declaring attributes, one call after another

The attributes of a custom scale come from a history of calls, each of which declares an attribute
or sets its value, or fails and changes nothing (`Scale.declare`, `Scale.after`). What a call keeps,
every history keeps: the formula stays (`Scale.after_custom`), and an attribute once declared stays
declared (`find?_isSome_afterAll`).
-/

namespace VisualScale

/-- One call that declares an attribute or sets its value. -/
structure Declaration where
  name : String
  value : Value
  typeName : Option String

/-- A table of attributes after a call. -/
def attributesAfter (attributes : Table CustomAttribute) (d : Declaration) :
    Table CustomAttribute :=
  match Scale.declare attributes d.name d.value d.typeName with
  | .ok after => after
  | .error _ => attributes

/-- A table of attributes after calls. -/
def attributesAfterAll (attributes : Table CustomAttribute) (ds : List Declaration) :
    Table CustomAttribute := ds.foldl attributesAfter attributes

namespace Scale

/-- A scale after a call; a call that fails leaves it as it was. -/
def after (s : Scale) (d : Declaration) : Scale :=
  match s.setAttribute d.name d.value d.typeName with
  | .ok (changed, _) => changed
  | .error _ => s

/-- A scale after calls. -/
def afterAll (s : Scale) (ds : List Declaration) : Scale := ds.foldl after s

/-! ## 1. One call -/

/-- A call changes the attributes alone. -/
theorem after_custom (p : ParsedFormula) (attributes : Table CustomAttribute) (d : Declaration) :
    (custom p attributes).after d = custom p (attributesAfter attributes d) := by
  unfold after setAttribute attributesAfter
  dsimp only
  cases declare attributes d.name d.value d.typeName with
  | ok changed => rfl
  | error fault => rfl

/-- A call that succeeds sets the entry of its name, and the name is not that of the input. -/
theorem declare_ok {attributes changed : Table CustomAttribute} {name : String} {value : Value}
    {typeName : Option String} (h : declare attributes name value typeName = .ok changed) :
    name ≠ inputName ∧ Text.isIdentifier name.toList = true ∧
      ∃ t, declaredType (attributes.find? name) typeName = .ok t ∧
        changed = attributes.set name ⟨t, value⟩ := by
  unfold declare at h
  split at h
  · cases h
  · next hn =>
    split at h
    · cases h
    · next hi =>
      cases ht : declaredType (attributes.find? name) typeName with
      | error fault => rw [ht] at h; cases h
      | ok t =>
        rw [ht] at h
        cases h
        exact ⟨hn, by simpa using hi, t, rfl, rfl⟩

/-- A call for an identifier that is not the name of the input succeeds, if its type is known. -/
theorem declare_of_isIdentifier {attributes : Table CustomAttribute} {name : String}
    {typeName : Option String} {t : ValueType} (hn : name ≠ inputName)
    (hi : Text.isIdentifier name.toList = true)
    (ht : declaredType (attributes.find? name) typeName = .ok t) (value : Value) :
    declare attributes name value typeName = .ok (attributes.set name ⟨t, value⟩) := by
  unfold declare
  rw [if_neg hn, hi, ht]
  rfl

/-- What is declared stays declared. -/
theorem find?_isSome_after {attributes : Table CustomAttribute} {name : String} (d : Declaration)
    (h : (attributes.find? name).isSome = true) :
    ((attributesAfter attributes d).find? name).isSome = true := by
  unfold attributesAfter
  cases hd : declare attributes d.name d.value d.typeName with
  | error fault => exact h
  | ok changed =>
    obtain ⟨-, -, t, -, rfl⟩ := declare_ok hd
    show ((attributes.set d.name ⟨t, d.value⟩).find? name).isSome = true
    rw [Table.find?_set]
    split
    · rfl
    · exact h

/-! ## 2. A history of calls -/

theorem afterAll_custom (p : ParsedFormula) (attributes : Table CustomAttribute)
    (ds : List Declaration) :
    (custom p attributes).afterAll ds = custom p (attributesAfterAll attributes ds) := by
  induction ds generalizing attributes with
  | nil => rfl
  | cons d rest ih =>
    show ((custom p attributes).after d).afterAll rest = _
    rw [after_custom]
    exact ih _

theorem afterAll_append (s : Scale) (ds es : List Declaration) :
    s.afterAll (ds ++ es) = (s.afterAll ds).afterAll es := List.foldl_append

theorem find?_isSome_afterAll {attributes : Table CustomAttribute} {name : String}
    (ds : List Declaration) (h : (attributes.find? name).isSome = true) :
    ((attributesAfterAll attributes ds).find? name).isSome = true := by
  induction ds generalizing attributes with
  | nil => exact h
  | cons d rest ih => exact ih (find?_isSome_after d h)

end Scale

end VisualScale
