import VisualScale.Number.Double
import VisualScale.ValueType

/-!
# Literal values

The constants that a caller can hand in: a truth value, an integer, a double, and vectors and colors
of these. The components of a vector keep the kind in which they were given.
-/

namespace VisualScale

/-- A constant without components. -/
inductive Scalar where
  | bool (b : Bool)
  | int (n : Int)
  | float (d : Double)
  deriving DecidableEq

/-- A constant. -/
inductive Literal where
  | scalar (s : Scalar)
  | vector2 (x y : Scalar)
  | vector3 (x y z : Scalar)
  | vector4 (x y z w : Scalar)
  | color (r g b a : Scalar)
  deriving DecidableEq

/-- The type of a scalar. -/
def Scalar.valueType : Scalar → ValueType
  | bool _ => .bool
  | int _ => .int
  | float _ => .float

namespace Literal

/-- The type of a constant. -/
def valueType : Literal → ValueType
  | scalar s => s.valueType
  | vector2 .. => .vector2
  | vector3 .. => .vector3
  | vector4 .. => .vector4
  | color .. => .color

/-- The parts of a constant in order; a scalar has none. -/
def parts : Literal → List Scalar
  | scalar _ => []
  | vector2 x y => [x, y]
  | vector3 x y z => [x, y, z]
  | vector4 x y z w => [x, y, z, w]
  | color r g b a => [r, g, b, a]

/-- A constant has a part for every component of its type. -/
theorem length_parts (l : Literal) : l.parts.length = l.valueType.components.length := by
  cases l with
  | scalar s => cases s <;> rfl
  | _ => rfl

/-- The vector or color of a type with the given parts. A color without its fourth part is opaque:
    the part is the double one. -/
def ofParts? (opaqueAlpha : Scalar) : ValueType → List Scalar → Option Literal
  | .vector2, [x, y] => some (.vector2 x y)
  | .vector3, [x, y, z] => some (.vector3 x y z)
  | .vector4, [x, y, z, w] => some (.vector4 x y z w)
  | .color, [r, g, b] => some (.color r g b opaqueAlpha)
  | .color, [r, g, b, a] => some (.color r g b a)
  | _, _ => none

/-- A vector or color is made of its own parts. -/
theorem ofParts?_parts (o : Scalar) (l : Literal) (h : l.parts ≠ []) :
    ofParts? o l.valueType l.parts = some l := by
  cases l with
  | scalar s => exact absurd rfl h
  | _ => rfl

end Literal

end VisualScale
