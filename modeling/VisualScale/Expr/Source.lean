import VisualScale.Expr.Build
import VisualScale.Number.Shortest

/-!
# The source of an expression

How an expression is written as a formula (`Expr.source`): operations and signs stand in brackets of
their own, so the text needs no rule of precedence to be read back; a column is written by its bare
name, for the surrounding code to bind; a negative number stands in brackets. Truth values, numbers
that are not finite and constants that hold no literal have no source. Whatever has parts is taken
apart into numbers, and so is a reference, an expression or a binding that a constant holds; none of
these has parts that are numbers only.
-/

namespace VisualScale

/-! ## 1. Numbers -/

/-- The source of a double. -/
def doubleSource (d : Double) : Except Fault (List Char) :=
  if d.isFinite then .ok d.text.toList else .error (.nonFiniteSource d.text)

/-- The source of a number, written with a fraction if it stands for a float. An integer past the
    largest double has no source either way. -/
def numberSource (asFloat : Bool) (s : Scalar) : Except Fault (List Char) := do
  let d ← Build.toDouble s
  match s with
  | .int n => if asFloat then doubleSource d else .ok (intText n)
  | _ => doubleSource d

/-- A text in brackets if it begins with a minus sign. -/
def shielded : List Char → List Char
  | '-' :: rest => '(' :: '-' :: (rest ++ [')'])
  | text => text

/-! ## 2. Constants and lists -/

/-- Texts with a comma and a blank between them. -/
def joined : List (List Char) → List Char
  | [] => []
  | [text] => text
  | text :: rest => text ++ ',' :: ' ' :: joined rest

/-- A part of a value where numbers are expected: a number, or something of another kind. -/
inductive Part where
  | number (s : Scalar)
  | other (noun : String)

/-- What a value is as a part of another one; one that has parts itself is taken apart by then. -/
def Value.asPart : Value → Part
  | .literal (.scalar s) => .number s
  | .datum .absent => .other "NoneType"
  | .datum (.text _) => .other "str"
  | .literal _ | .reference _ | .expr _ | .binding _ => .other "tuple"

/-- The parts of an expression, its type among them. -/
def Expr.parts : Expr → List Part
  | .const v _ => [v.asPart, .other "ValueType"]
  | .var _ _ | .column _ _ => [.other "str", .other "ValueType"]
  | .unary _ _ _ | .call _ _ _ => [.other "str", .other "tuple", .other "ValueType"]
  | .binary _ _ _ _ => [.other "str", .other "tuple", .other "tuple", .other "ValueType"]
  | .component (.stray v) _ _ => [v.asPart, .other "str", .other "ValueType"]
  | .component _ _ _ => [.other "tuple", .other "str", .other "ValueType"]
  | .stray v => [.other v.noun]

/-- The parts of a value. -/
def Value.parts : Value → List Part
  | .literal l => l.parts.map .number
  | .datum _ => []
  | .reference r =>
    [.other "str", .other (if r.valueType.isSome then "ValueType" else "NoneType")]
  | .expr e => e.parts
  | .binding _ =>
    [ .other "Scale", .other "ValueType", .other "tuple", .other "tuple", .other "BindingState" ]

/-- The source of a part, written with a fraction. -/
def partSource : Part → Except Fault (List Char)
  | .number s => numberSource true s
  | .other noun => .error (.notReal noun)

/-- The sources of the parts of a value. -/
def partSources : List Part → Except Fault (List (List Char))
  | [] => .ok []
  | part :: rest => do
    let text ← partSource part
    let texts ← partSources rest
    .ok (text :: texts)

/-- The source of a constant of a type. -/
def constantSource (type : ValueType) : Value → Except Fault (List Char)
  | .literal (.scalar (.bool _)) => .error .booleanSource
  | .literal (.scalar s) => (numberSource (type = .float) s).map shielded
  | v@(.datum .absent) | v@(.datum (.text _)) => .error (.notLiteral v.shown)
  | v => (partSources v.parts).map fun texts =>
      type.name.toList ++ '(' :: (joined texts ++ [')'])

/-! ## 3. Expressions -/

namespace Expr

mutual

/-- The source of an expression, character by character. -/
def sourceChars : Expr → Except Fault (List Char)
  | const value type => constantSource type value
  | var name _ => .ok name.toList
  | column field _ => .ok field.toList
  | unary op operand _ => do
    let text ← operand.sourceChars
    .ok ('(' :: (op.toList ++ (text ++ [')'])))
  | binary op left right _ => do
    let l ← left.sourceChars
    let r ← right.sourceChars
    .ok ('(' :: (l ++ ' ' :: (op.toList ++ ' ' :: (r ++ [')']))))
  | call name args _ => do
    let texts ← sourcesOfAll args
    .ok (name.toList ++ '(' :: (joined texts ++ [')']))
  | component value field _ => do
    let text ← value.sourceChars
    .ok (text ++ '.' :: field.toList)
  | stray v => .error (.notNode v.noun)

/-- The sources of expressions, from the first to the last. -/
def sourcesOfAll : List Expr → Except Fault (List (List Char))
  | [] => .ok []
  | e :: rest => do
    let text ← e.sourceChars
    let texts ← sourcesOfAll rest
    .ok (text :: texts)

end

/-- The source of an expression. -/
def source (e : Expr) : Except Fault String := e.sourceChars.map String.ofList

end Expr

end VisualScale
