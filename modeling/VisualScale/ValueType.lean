/-!
# Value types

The seven types of values that scales map between: numbers with and without a fraction, truth
values, vectors of two to four components, and colors. Every node of an expression carries one.
-/

namespace VisualScale

/-- The type of a value. -/
inductive ValueType where
  | float
  | int
  | bool
  | vector2
  | vector3
  | vector4
  | color
  deriving DecidableEq, Repr, Inhabited

namespace ValueType

/-! ## 1. Names -/

/-- All value types, in the order in which they are listed to a reader. -/
def all : List ValueType := [float, int, bool, vector2, vector3, vector4, color]

theorem mem_all (t : ValueType) : t ∈ all := by cases t <;> decide

/-- The name of a value type. -/
def name : ValueType → String
  | float => "float"
  | int => "int"
  | bool => "bool"
  | vector2 => "Vector2"
  | vector3 => "Vector3"
  | vector4 => "Vector4"
  | color => "Color"

/-- The value type of a name. -/
def ofName? (name : String) : Option ValueType := all.find? fun t => t.name == name

@[simp] theorem ofName?_name (t : ValueType) : ofName? t.name = some t := by cases t <;> decide

theorem name_of_ofName? {s : String} {t : ValueType} (h : ofName? s = some t) : t.name = s := by
  have h' : all.find? (fun t => t.name == s) = some t := h
  have := List.find?_some h'
  exact eq_of_beq this

/-! ## 2. Shapes -/

/-- Values of the type are numbers. -/
def isNumeric : ValueType → Bool
  | float | int => true
  | _ => false

/-- The names of the components of a vector or color, in order; scalars have none. -/
def components : ValueType → List String
  | vector2 => ["x", "y"]
  | vector3 => ["x", "y", "z"]
  | vector4 => ["x", "y", "z", "w"]
  | color => ["r", "g", "b", "a"]
  | _ => []

/-- Values of the type have components. -/
def isVectorLike (t : ValueType) : Bool := t.components ≠ []

/-- The type is one of the vector types; a color is none. -/
def isVector : ValueType → Bool
  | vector2 | vector3 | vector4 => true
  | _ => false

theorem isVectorLike_iff (t : ValueType) :
    t.isVectorLike = true ↔ t.isVector = true ∨ t = color := by cases t <;> decide

/-- No type is numeric and has components as well. -/
theorem not_numeric_and_vectorLike (t : ValueType) :
    ¬ (t.isNumeric = true ∧ t.isVectorLike = true) := by cases t <;> decide

end ValueType

end VisualScale
