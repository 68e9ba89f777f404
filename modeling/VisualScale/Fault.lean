import VisualScale.ValueType

/-!
# Faults

Everything that can go wrong, by cause (`Fault`), the kinds of fault that a caller tells apart
(`Fault.kind`), and the one place where faults are put into words (`Fault.message`).
-/

namespace VisualScale

/-! ## 1. Causes -/

/-- Why the language of formulas has no place for a well-formed expression. -/
inductive Refusal where
  | nonNumericConstant
  | binaryOperator (name : String)
  | unaryOperator (name : String)
  | calleeNotName
  | keywordArguments (callee : String)
  | argumentUnpacking
  | form (name : String)
  deriving DecidableEq, Repr

/-- A cause of failure. -/
inductive Fault where
  -- Reading a formula.
  | emptyFormula
  | malformedFormula
  | nulCharacter
  | refused (why : Refusal)
  -- Types and values.
  | unknownType (name : String)
  | operatorUndefined (op : String) (left right : ValueType)
  | signUndefined (op : String) (operand : ValueType)
  | unknownFunction (name : String)
  | wrongArity (function : String) (expected : List Nat) (given : Nat)
  | functionUndefined (function : String) (types : List ValueType)
  | notLiteral (shown : String)
  | unboundValue
  | notExpression (name kind : String)
  | unknownIdentifier (name : String)
  | noComponent (type : ValueType) (field : String)
  | notNode (kind : String)
  | booleanSource
  | nonFiniteSource (text : String)
  | slotMismatch (label : String) (expected given : ValueType)
  | integerTooLarge
  | notReal (noun : String)
  | notStorable (noun : String)
  -- Scales and bindings.
  | emptyField
  | boundCount (label : String) (given : Nat)
  | valueCount (scale : String) (expected given : Nat)
  | attributeMissing (name : String)
  | attributeUnbound (name scale : String)
  | attributeUnknown (name : String)
  | nameReserved (name : String)
  | nameNotIdentifier (name : String)
  | alreadyResolved
  | usedTwice
  -- Handles that name nothing, and bindings that contain themselves.
  | noSuchScale
  | noSuchBinding
  | settingUnknown (scale setting : String)
  | endless
  deriving DecidableEq, Repr

/-- The kinds of fault that a caller tells apart. -/
inductive FaultKind where
  | wording
  | typing
  | arity
  | configuration
  | binding
  | value
  | overflow
  | unfit
  | endless
  deriving DecidableEq, Repr

namespace Fault

/-! ## 2. Kinds -/

/-- The kind of a fault. -/
def kind : Fault → FaultKind
  | emptyFormula | malformedFormula | refused _ => .wording
  | unknownType _ | operatorUndefined .. | signUndefined .. | unknownFunction _ | wrongArity ..
  | functionUndefined .. | notLiteral _ | unboundValue | notExpression .. | unknownIdentifier _
  | noComponent .. | notNode _ | booleanSource | nonFiniteSource _ | slotMismatch .. => .typing
  | valueCount .. => .arity
  | attributeMissing _ | attributeUnbound .. | attributeUnknown _ | nameReserved _
  | nameNotIdentifier _ | settingUnknown .. => .configuration
  | alreadyResolved | usedTwice | noSuchScale | noSuchBinding => .binding
  | nulCharacter | emptyField | boundCount .. => .value
  | integerTooLarge => .overflow
  | notReal _ | notStorable _ => .unfit
  | endless => .endless

/-! ## 3. Words -/

/-- Type names with commas between them. -/
def typeList (types : List ValueType) : String := ", ".intercalate (types.map ValueType.name)

/-- A refusal in words. -/
def refusalMessage : Refusal → String
  | .nonNumericConstant => "Only numeric constants are allowed."
  | .binaryOperator name => s!"Unsupported binary operator: {name}"
  | .unaryOperator name => s!"Unsupported unary operator: {name}"
  | .calleeNotName => "Only plain function names can be called."
  | .keywordArguments callee => s!"{callee}(...) does not accept keyword arguments."
  | .argumentUnpacking => "Argument unpacking is not supported."
  | .form name => s!"Unsupported expression: {name}"

/-- A fault in words. -/
def message : Fault → String
  | emptyFormula => "Expression is empty."
  | malformedFormula => "Invalid expression syntax"
  | nulCharacter => "source code string cannot contain null bytes"
  | refused why => refusalMessage why
  | unknownType name =>
    let known := typeList ValueType.all
    s!"Unknown value type '{name}'. Expected one of: {known}."
  | operatorUndefined op left right =>
    s!"Operator '{op}' is not defined for {left.name} and {right.name}."
  | signUndefined op operand => s!"Unary operator '{op}' is not defined for {operand.name}."
  | unknownFunction name => s!"Unknown function '{name}'."
  | wrongArity function expected given =>
    let counts := " or ".intercalate (expected.map Nat.repr)
    s!"{function}(...) expects {counts} arguments, got {given.repr}."
  | functionUndefined function types =>
    let listed := typeList types
    s!"{function}(...) is not defined for argument types ({listed})."
  | notLiteral shown => s!"Unsupported constant value: {shown}"
  | unboundValue => "Cannot build an expression from an unbound value."
  | notExpression name kind =>
    s!"Variable '{name}' must be bound to an expression, got {kind}."
  | unknownIdentifier name => s!"Unknown identifier '{name}'."
  | noComponent type field => s!"{type.name} has no component '{field}'."
  | notNode kind => s!"Unsupported expression IR node: {kind}"
  | booleanSource => "Boolean constants cannot be emitted as expression source."
  | nonFiniteSource text => s!"Non-finite constant {text} cannot be emitted as expression source."
  | slotMismatch label expected given => s!"{label} expects {expected.name}, got {given.name}."
  | integerTooLarge => "int too large to convert to float"
  | notReal noun => s!"must be real number, not {noun}"
  | notStorable noun => s!"Object of type {noun} is not JSON serializable"
  | emptyField => "DataRef field name cannot be empty."
  | boundCount label given => s!"{label} expects exactly two bounds, got {given.repr}."
  | valueCount scale expected given =>
    let noun := if expected = 1 then "value" else "values"
    s!"{scale} expects {expected.repr} {noun}, got {given.repr}."
  | attributeMissing name => s!"Missing resolved attribute '{name}'."
  | attributeUnbound name scale => s!"Attribute '{name}' of {scale} has no binding."
  | attributeUnknown name => s!"Custom scale has no attribute '{name}'."
  | nameReserved name => s!"'{name}' is reserved for the scale input and cannot be an attribute."
  | nameNotIdentifier name => s!"Attribute name '{name}' is not an identifier."
  | alreadyResolved => "Scale binding has already been resolved."
  | usedTwice => "Scale binding is used more than once in one resolution."
  | noSuchScale => "There is no such scale."
  | noSuchBinding => "There is no such scale binding."
  | settingUnknown scale setting => s!"{scale} has no setting '{setting}'."
  | endless => "maximum recursion depth exceeded"

end Fault

end VisualScale
