import VisualScale.Formula.Lexeme

/-!
# Formulas

The tree of a formula: numbers, names, the four operations, the two signs, calls of functions by
their name, and components. Every node knows its place in the text; a node in brackets has its own
place, without the brackets, and the node around it begins and ends with them.
-/

namespace VisualScale

/-- The operations of formulas. -/
inductive Operator where
  | add
  | sub
  | mul
  | div
  deriving DecidableEq, Repr

/-- The sign of an operation in expressions. -/
def Operator.symbol : Operator → String
  | add => "+"
  | sub => "-"
  | mul => "*"
  | div => "/"

/-- The operation of formulas that a binary operator of the wider language is. -/
def Operator.ofKind? : String → Option Operator
  | "Add" => some .add
  | "Sub" => some .sub
  | "Mult" => some .mul
  | "Div" => some .div
  | _ => none

/-- The signs that may stand before a value. -/
inductive Sign where
  | plus
  | minus
  deriving DecidableEq, Repr

/-- The sign of formulas that a unary operator of the wider language is. -/
def Sign.ofKind? : String → Option Sign
  | "UAdd" => some .plus
  | "USub" => some .minus
  | _ => none

/-- A formula. -/
inductive Formula where
  | whole (n : Nat) (span : Span)
  | real (d : Double) (span : Span)
  | name (id : String) (span : Span)
  | binary (op : Operator) (left right : Formula) (span : Span)
  | signed (sign : Sign) (operand : Formula) (span : Span)
  | call (function : String) (args : List Formula) (span : Span)
  | component (value : Formula) (field : String) (span : Span)

namespace Formula

instance : Inhabited Formula := ⟨.whole 0 default⟩

/-- The place of a formula. -/
def span : Formula → Span
  | whole _ s | real _ s | name _ s | binary _ _ _ s | signed _ _ s | call _ _ s
  | component _ _ s => s

end Formula

end VisualScale
