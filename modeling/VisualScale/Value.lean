import VisualScale.Fault
import VisualScale.Value.Shown

/-!
# Values that are bound

What can be handed to a scale, as an argument or for an attribute: a literal, a reference to a
column of the data, an expression, or the binding of another scale. A place may also be left
unbound. What a binding is stands in the store of the session.
-/

namespace VisualScale

/-- The reference to a column, unless the column has no name. -/
def DataRef.make (field : String) (valueType : Option ValueType) : Except Fault DataRef :=
  if h : field = "" then .error .emptyField else .ok ⟨field, valueType, h⟩

namespace Value

/-- Nothing is bound. -/
def unbound : Value := .datum .absent

instance : Inhabited Value := ⟨unbound⟩

/-- Nothing is bound to the place. -/
def isUnbound : Value → Bool
  | .datum .absent => true
  | _ => false

/-- The kinds of values. -/
inductive Kind where
  | constant
  | reference
  | expression
  | scale
  deriving DecidableEq, Repr

/-- The name of a kind. -/
def Kind.name : Kind → String
  | constant => "constant"
  | reference => "reference"
  | expression => "expression"
  | scale => "scale"

/-- The literal that a value is. -/
def asLiteral : Value → Except Fault Literal
  | .literal l => .ok l
  | v => .error (.notLiteral v.shown)

@[simp] theorem asLiteral_literal (l : Literal) : asLiteral (literal l) = .ok l := rfl

/-- The type of a literal value. -/
def literalType (v : Value) : Except Fault ValueType := v.asLiteral.map Literal.valueType

/-- The kind of a value; what is no literal has none. -/
def kind : Value → Except Fault Kind
  | .binding _ => .ok .scale
  | .expr _ => .ok .expression
  | .reference _ => .ok .reference
  | v@(.datum _) => v.asLiteral.map fun _ => .constant

/-- What a message calls a scalar. -/
def scalarNoun : Scalar → String
  | .bool _ => "bool"
  | .int _ => "int"
  | .float _ => "float"

/-- What a message calls a value that stands where an expression belongs. -/
def noun : Value → String
  | .datum .absent => "NoneType"
  | .datum (.text _) => "str"
  | .datum (.literal (.scalar s)) => scalarNoun s
  | .datum (.literal l) => l.valueType.name
  | .reference _ => "DataRef"
  | .expr _ => "Expr"
  | .binding _ => "ScaleBinding"

/-- A value in the place of an expression: itself if it is one, and a stray leaf otherwise. -/
def asNode : Value → Expr
  | .expr e => e
  | v => .stray v

end Value

end VisualScale
