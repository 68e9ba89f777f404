import VisualScale.Fault

/-!
# Signatures

The type rules of the expression language: for the four operators (`operatorType`), for signs
(`signType`) and for the intrinsic functions (`callType`). Whatever builds a node, by hand or from a
formula, asks these rules, so that the same node has the same type however it was built.
-/

namespace VisualScale

namespace ValueType

/-- The value type of a name, or the fault that there is none. -/
def parse (name : String) : Except Fault ValueType :=
  match ofName? name with
  | some t => .ok t
  | none => .error (.unknownType name)

@[simp] theorem parse_name (t : ValueType) : parse t.name = .ok t := by simp [parse]

end ValueType

namespace Signature

open ValueType

/-! ## 1. Operators and signs -/

/-- The type of a binary operation. Numbers mix freely, and stay whole unless they are divided;
    vectors and colors go with their like; `*` and `/` also scale a vector by a number. -/
def operatorType (op : String) (left right : ValueType) : Except Fault ValueType :=
  if left.isNumeric && right.isNumeric then
    .ok (if left == .int && right == .int && op != "/" then .int else .float)
  else if left.isVectorLike && left == right then .ok left
  else if (op == "*" || op == "/") && left.isVectorLike && right.isNumeric then .ok left
  else if op == "*" && left.isNumeric && right.isVectorLike then .ok right
  else .error (.operatorUndefined op left right)

/-- The type of a number, vector or color with a sign. -/
def signType (op : String) (operand : ValueType) : Except Fault ValueType :=
  if operand.isNumeric || operand.isVectorLike then .ok operand
  else .error (.signUndefined op operand)

/-! ## 2. Intrinsic functions -/

/-- The functions that an expression can call. -/
inductive Intrinsic where
  | log | exp | sqrt | sin | cos | tan | floor | ceil
  | abs | pow | min | max | clamp | mix
  | length | dot | normalize
  | vector2 | vector3 | vector4 | color
  deriving DecidableEq, Repr

namespace Intrinsic

/-- All functions. -/
def all : List Intrinsic :=
  [ log, exp, sqrt, sin, cos, tan, floor, ceil, abs, pow, min, max, clamp, mix, length, dot
  , normalize, vector2, vector3, vector4, color ]

theorem mem_all (f : Intrinsic) : f ∈ all := by cases f <;> decide

/-- The name of a function. -/
def name : Intrinsic → String
  | log => "log"
  | exp => "exp"
  | sqrt => "sqrt"
  | sin => "sin"
  | cos => "cos"
  | tan => "tan"
  | floor => "floor"
  | ceil => "ceil"
  | abs => "abs"
  | pow => "pow"
  | min => "min"
  | max => "max"
  | clamp => "clamp"
  | mix => "mix"
  | length => "length"
  | dot => "dot"
  | normalize => "normalize"
  | vector2 => "Vector2"
  | vector3 => "Vector3"
  | vector4 => "Vector4"
  | color => "Color"

/-- The function of a name. -/
def ofName? (name : String) : Option Intrinsic := all.find? fun f => f.name == name

@[simp] theorem ofName?_name (f : Intrinsic) : ofName? f.name = some f := by cases f <;> decide

theorem name_of_ofName? {s : String} {f : Intrinsic} (h : ofName? s = some f) : f.name = s := by
  have h' : all.find? (fun f => f.name == s) = some f := h
  have := List.find?_some h'
  exact eq_of_beq this

/-- How many arguments a function takes. -/
def arities : Intrinsic → List Nat
  | log | exp | sqrt | sin | cos | tan | floor | ceil | abs | length | normalize => [1]
  | pow | min | max | dot | vector2 => [2]
  | clamp | mix | vector3 => [3]
  | vector4 => [4]
  | color => [3, 4]

/-- The type that arguments share: numbers are floats together, vectors and colors go with their
    like. -/
def common (function : String) (types : List ValueType) : Except Fault ValueType :=
  if types.all isNumeric then .ok .float
  else match types with
    | first :: rest =>
      if first.isVectorLike && rest.all (· == first) then .ok first
      else .error (.functionUndefined function types)
    | [] => .error (.functionUndefined function types)

/-- The type of a call of `function` with numbers only. -/
def ofNumbers (function : String) (result : ValueType) (types : List ValueType) :
    Except Fault ValueType :=
  if types.all isNumeric then .ok result else .error (.functionUndefined function types)

/-- The type of a call with a fitting number of arguments. -/
def rule (f : Intrinsic) (types : List ValueType) : Except Fault ValueType :=
  let undefined := .error (.functionUndefined f.name types)
  match f, types with
  | .abs, _ | .min, _ | .max, _ => common f.name types
  | .clamp, value :: bounds => do
    let result ← common f.name [value]
    if bounds.all isNumeric then .ok result else undefined
  | .mix, [a, b, t] => if t.isNumeric then common f.name [a, b] else undefined
  | .length, [a] => if a.isVector then .ok .float else undefined
  | .dot, [a, b] => if a.isVector && a == b then .ok .float else undefined
  | .normalize, [a] => if a.isVector then .ok a else undefined
  | .vector2, _ => ofNumbers f.name .vector2 types
  | .vector3, _ => ofNumbers f.name .vector3 types
  | .vector4, _ => ofNumbers f.name .vector4 types
  | .color, _ => ofNumbers f.name .color types
  | _, _ => ofNumbers f.name .float types

/-- The type of a call. -/
def resultType (f : Intrinsic) (types : List ValueType) : Except Fault ValueType :=
  if types.length ∈ f.arities then f.rule types
  else .error (.wrongArity f.name f.arities types.length)

end Intrinsic

/-- The name is that of an intrinsic function. -/
def isKnownFunction (name : String) : Bool := (Intrinsic.ofName? name).isSome

/-- The type of a call by name. -/
def callType (name : String) (types : List ValueType) : Except Fault ValueType :=
  match Intrinsic.ofName? name with
  | some f => f.resultType types
  | none => .error (.unknownFunction name)

end Signature

end VisualScale
