import VisualScale.Signature
import VisualScale.Value

/-!
# Building expressions

Every builder takes values, turns each into an expression (`ofValue`), and asks the signatures for
the type of the new node. A literal becomes a constant of its own type; a number that is meant for a
float becomes one; a reference becomes a column, typed by itself, else by the place it stands in,
else as a float.
-/

namespace VisualScale

namespace Build

/-! ## 1. Constants and coercion -/

/-- The type that a place asks for: by name, or known already. -/
inductive Wanted where
  | named (name : String)
  | known (t : ValueType)
  deriving DecidableEq, Repr

/-- The type that is wanted, if there is one of that name. -/
def Wanted.type : Wanted → Except Fault ValueType
  | named name => ValueType.parse name
  | known t => .ok t

/-- The type that is wanted of a reference without a type: an empty name wants nothing. -/
def Wanted.typeOfColumn : Option Wanted → Except Fault ValueType
  | none | some (.named "") => .ok .float
  | some w => w.type

/-- The constant of a literal value, with the literal's type. -/
def constant (v : Value) : Except Fault Expr :=
  v.asLiteral.map fun l => .const (.literal l) l.valueType

/-- A constant with its type given by name, holding whatever it is given. -/
def constantOfType (v : Value) (typeName : String) : Except Fault Expr :=
  (ValueType.parse typeName).map (.const v)

/-- The double of an integer, or the fault that it is too large to have one. -/
def finiteDouble : Option Double → Except Fault Double
  | some d => .ok d
  | none => .error .integerTooLarge

/-- The double of a number. -/
def toDouble : Scalar → Except Fault Double
  | .float d => .ok d
  | .int n => finiteDouble (Double.ofInt? n)
  | .bool b => .ok (Double.ofInt (if b then 1 else 0))

/-- The constant of a number in a place that may want a type: a float if a float is wanted. -/
def numberFor (s : Scalar) : Option Wanted → Except Fault Expr
  | none => constant (.literal (.scalar s))
  | some w => do
    let t ← w.type
    if t = .float then
      let d ← toDouble s
      .ok (.const (.literal (.scalar (.float d))) .float)
    else constant (.literal (.scalar s))

/-- A value as an expression, in a place that may want a type. -/
def ofValue (v : Value) (wanted : Option Wanted) : Except Fault Expr :=
  match v with
  | .expr e => .ok e
  | .reference r =>
    match r.valueType with
    | some t => .ok (.column r.field t)
    | none => (Wanted.typeOfColumn wanted).map (.column r.field)
  | .datum .absent => .error .unboundValue
  | .datum (.literal (.scalar (.int n))) => numberFor (.int n) wanted
  | .datum (.literal (.scalar (.float d))) => numberFor (.float d) wanted
  | v => constant v

/-- A value as an expression, in a place that wants no type. -/
def operand (v : Value) : Except Fault Expr := ofValue v none

@[simp] theorem operand_expr (e : Expr) : operand (.expr e) = .ok e := rfl

/-- Values as expressions, from the first to the last. -/
def operands : List Value → Except Fault (List Expr)
  | [] => .ok []
  | v :: rest => do
    let e ← operand v
    let es ← operands rest
    .ok (e :: es)

@[simp] theorem operands_expr (es : List Expr) : operands (es.map .expr) = .ok es := by
  induction es with
  | nil => rfl
  | cons e rest ih => simp only [List.map, operands, operand_expr, ih]; rfl

/-! ## 2. Nodes -/

/-- An operation on two expressions. -/
def binaryNode (op : String) (left right : Expr) : Except Fault Expr :=
  (Signature.operatorType op left.valueType right.valueType).map (.binary op left right)

/-- An expression with a sign. -/
def unaryNode (op : String) (operand : Expr) : Except Fault Expr :=
  (Signature.signType op operand.valueType).map (.unary op operand)

/-- A call with expressions as arguments. -/
def callNode (name : String) (args : List Expr) : Except Fault Expr :=
  (Signature.callType name (args.map Expr.valueType)).map (.call name args)

/-- An operation on two values. -/
def binary (op : String) (left right : Value) : Except Fault Expr := do
  let l ← operand left
  let r ← operand right
  binaryNode op l r

/-- A value with a sign. -/
def unary (op : String) (value : Value) : Except Fault Expr := do
  let e ← operand value
  unaryNode op e

/-- A call with values as arguments, its type given by the function's signature. -/
def call (name : String) (args : List Value) : Except Fault Expr := do
  let es ← operands args
  callNode name es

/-- A call with values as arguments, its type given by name and asked of no signature. -/
def callOfType (name typeName : String) (args : List Value) : Except Fault Expr := do
  let es ← operands args
  let t ← ValueType.parse typeName
  .ok (.call name es t)

/-- The sum of two values. -/
def add (left right : Value) : Except Fault Expr := binary "+" left right

/-- The difference of two values. -/
def sub (left right : Value) : Except Fault Expr := binary "-" left right

/-- The product of two values. -/
def mul (left right : Value) : Except Fault Expr := binary "*" left right

/-- The quotient of two values. -/
def div (left right : Value) : Except Fault Expr := binary "/" left right

/-- The opposite of a value. -/
def neg (value : Value) : Except Fault Expr := unary "-" value

/-- The value between two others at a position: the first at 0, the second at 1. -/
def mix (a b t : Value) : Except Fault Expr := call "mix" [a, b, t]

/-- The natural logarithm of a value. -/
def log (x : Value) : Except Fault Expr := call "log" [x]

/-- The vector of two values. -/
def vector2 (x y : Value) : Except Fault Expr :=
  callOfType "Vector2" ValueType.vector2.name [x, y]

end Build

end VisualScale
