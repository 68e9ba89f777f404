import Mathlib.Data.Rat.Cast.Defs
import VisualScale.Formula.Formula
import VisualScale.Signature
import VisualScale.Expr

/-!
# What expressions mean

The library computes nothing: whoever is handed an expression evaluates it. This file says how, over
any system of numbers (`NumberSystem`). A vector or a color is the tuple of its components, and what
is defined for numbers is done component by component.

An evaluation is stuck (`none`) where the shapes of what it meets do not fit: where tuples of
different lengths are combined, where a component is missing, or where a tuple or a truth value
stands for a number. Division by zero is no such case; it gives some number.

* `NumberSystem.rational` -- exact arithmetic, its functions left open;
* `Quantity` -- what an expression evaluates to;
* `Quantity.HasType` -- the quantities of a value type;
* `NumberSystem.call` -- the functions;
* `Expr.eval` -- the value of an expression.
-/

namespace VisualScale

/-! ## 1. Numbers -/

/-- Numbers, some of which are whole, and what is computed with them. Whole numbers stay whole
    unless they are divided. -/
structure NumberSystem (K : Type) where
  ofInt : Int → K
  ofDouble : Double → K
  neg : K → K
  operate : Operator → K → K → K
  /-- The functions of one number. -/
  scalar : Signature.Intrinsic → K → K
  pow : K → K → K
  least : K → K → K
  greatest : K → K → K
  clamp : K → K → K → K
  /-- The length of a vector. -/
  norm : List K → K
  IsWhole : K → Prop
  isWhole_ofInt : ∀ n, IsWhole (ofInt n)
  isWhole_neg : ∀ {x}, IsWhole x → IsWhole (neg x)
  isWhole_operate : ∀ {op x y}, op ≠ .div → IsWhole x → IsWhole y → IsWhole (operate op x y)

/-- The rational number that a double is; what is no number counts as zero. -/
def Double.toRat : Double → ℚ
  | .nan | .infinity _ => 0
  | .finite negative m e _ =>
    let size : ℚ := m * 2 ^ e / 2 ^ 1074
    if negative then -size else size

namespace NumberSystem

/-- An operation on rational numbers. -/
def rationalOperate : Operator → ℚ → ℚ → ℚ
  | .add, x, y => x + y
  | .sub, x, y => x - y
  | .mul, x, y => x * y
  | .div, x, y => x / y

/-- An integer among the rational numbers. -/
def IsInteger (x : ℚ) : Prop := ∃ n : ℤ, x = n

theorem isInteger_rationalOperate {op : Operator} {x y : ℚ} (hop : op ≠ .div) (hx : IsInteger x)
    (hy : IsInteger y) : IsInteger (rationalOperate op x y) := by
  obtain ⟨m, rfl⟩ := hx
  obtain ⟨n, rfl⟩ := hy
  cases op with
  | add => exact ⟨m + n, (Int.cast_add m n).symm⟩
  | sub => exact ⟨m - n, (Int.cast_sub m n).symm⟩
  | mul => exact ⟨m * n, (Int.cast_mul m n).symm⟩
  | div => exact absurd rfl hop

/-- Exact arithmetic. Functions that leave the rational numbers may be any. -/
def rational (scalar : Signature.Intrinsic → ℚ → ℚ) (pow : ℚ → ℚ → ℚ) (norm : List ℚ → ℚ) :
    NumberSystem ℚ where
  ofInt n := n
  ofDouble := Double.toRat
  neg x := -x
  operate := rationalOperate
  scalar := scalar
  pow := pow
  least x y := if x ≤ y then x else y
  greatest x y := if x ≤ y then y else x
  clamp x low high := if x < low then low else if high < x then high else x
  norm := norm
  IsWhole := IsInteger
  isWhole_ofInt n := ⟨n, rfl⟩
  isWhole_neg := fun ⟨n, hn⟩ => ⟨-n, by rw [hn, Int.cast_neg]⟩
  isWhole_operate := isInteger_rationalOperate

end NumberSystem

/-! ## 2. Quantities -/

/-- What an expression evaluates to: a number, the components of a vector or color, or a truth
    value. -/
inductive Quantity (K : Type) where
  | number (x : K)
  | tuple (xs : List K)
  | truth (b : Bool)

namespace Quantity

variable {K : Type}

/-- A function of numbers, on a number or on every component. -/
def map (f : K → K) : Quantity K → Option (Quantity K)
  | number x => some (.number (f x))
  | tuple xs => some (.tuple (xs.map f))
  | truth _ => none

/-- A function of two numbers, on two numbers or on the components of two tuples. -/
def zip (f : K → K → K) : Quantity K → Quantity K → Option (Quantity K)
  | number x, number y => some (.number (f x y))
  | tuple xs, tuple ys =>
    if xs.length = ys.length then some (.tuple (List.zipWith f xs ys)) else none
  | _, _ => none

/-- The same, with a number beside a tuple taken for every component. -/
def broadcast (f : K → K → K) : Quantity K → Quantity K → Option (Quantity K)
  | tuple xs, number y => some (.tuple (xs.map fun x => f x y))
  | number x, tuple ys => some (.tuple (ys.map fun y => f x y))
  | v, w => v.zip f w

/-- The number that the quantity is. -/
def number? : Quantity K → Option K
  | number x => some x
  | _ => none

/-- The numbers that the quantities are. -/
def numbers? : List (Quantity K) → Option (List K)
  | [] => some []
  | v :: rest => do
    let x ← v.number?
    let xs ← numbers? rest
    return x :: xs

/-- The component at an index. -/
def component? (index : Nat) : Quantity K → Option (Quantity K)
  | tuple xs => xs[index]?.map .number
  | _ => none

/-- The quantities of a value type: a number for a number, and a whole one if whole numbers are
    meant; as many components as a vector or color has. -/
inductive HasType (N : NumberSystem K) : Quantity K → ValueType → Prop where
  | float (x : K) : HasType N (.number x) .float
  | int {x : K} (h : N.IsWhole x) : HasType N (.number x) .int
  | bool (b : Bool) : HasType N (.truth b) .bool
  | tuple {xs : List K} {t : ValueType} (ht : t.isVectorLike = true)
      (h : xs.length = t.components.length) : HasType N (.tuple xs) t

end Quantity

/-! ## 3. Constants and functions -/

namespace NumberSystem

variable {K : Type} (N : NumberSystem K)

/-- The number of a constant; a truth value among the components of a vector counts as 0 or 1. -/
def ofScalar : Scalar → K
  | .bool b => N.ofInt (if b then 1 else 0)
  | .int n => N.ofInt n
  | .float d => N.ofDouble d

/-- The quantity of a constant. -/
def ofLiteral : Literal → Quantity K
  | .scalar (.bool b) => .truth b
  | .scalar s => .number (N.ofScalar s)
  | l => .tuple (l.parts.map N.ofScalar)

/-- The double one. -/
def one : K := N.ofDouble (.ofInt 1)

/-- The sum of the products of components. -/
def dot (xs ys : List K) : K :=
  (List.zipWith (N.operate .mul) xs ys).foldr (N.operate .add) (N.ofInt 0)

/-- The number between two others at a position. -/
def mix (t x y : K) : K := N.operate .add x (N.operate .mul (N.operate .sub y x) t)

/-- The vector or color with the given components; a color without its fourth one is opaque. -/
def construct (t : ValueType) (vs : List (Quantity K)) : Option (Quantity K) :=
  (Quantity.numbers? vs).map fun xs =>
    .tuple (if t = .color ∧ xs.length = 3 then xs ++ [N.one] else xs)

/-- The value of a function. -/
def call (f : Signature.Intrinsic) (vs : List (Quantity K)) : Option (Quantity K) :=
  match f with
  | .log | .exp | .sqrt | .sin | .cos | .tan | .floor | .ceil =>
    match vs with
    | [.number x] => some (.number (N.scalar f x))
    | _ => none
  | .pow =>
    match vs with
    | [.number x, .number y] => some (.number (N.pow x y))
    | _ => none
  | .abs =>
    match vs with
    | [v] => v.map (N.scalar f)
    | _ => none
  | .min =>
    match vs with
    | [v, w] => v.zip N.least w
    | _ => none
  | .max =>
    match vs with
    | [v, w] => v.zip N.greatest w
    | _ => none
  | .clamp =>
    match vs with
    | [v, .number low, .number high] => v.map fun x => N.clamp x low high
    | _ => none
  | .mix =>
    match vs with
    | [v, w, .number t] => v.zip (N.mix t) w
    | _ => none
  | .length =>
    match vs with
    | [.tuple xs] => some (.number (N.norm xs))
    | _ => none
  | .dot =>
    match vs with
    | [.tuple xs, .tuple ys] =>
      if xs.length = ys.length then some (.number (N.dot xs ys)) else none
    | _ => none
  | .normalize =>
    match vs with
    | [.tuple xs] => some (.tuple (xs.map fun x => N.operate .div x (N.norm xs)))
    | _ => none
  | .vector2 => N.construct .vector2 vs
  | .vector3 => N.construct .vector3 vs
  | .vector4 => N.construct .vector4 vs
  | .color => N.construct .color vs

end NumberSystem

/-! ## 4. Expressions -/

/-- All operators. -/
def Operator.all : List Operator := [add, sub, mul, div]

/-- The operator of a symbol. -/
def Operator.ofSymbol? (symbol : String) : Option Operator :=
  all.find? fun op => op.symbol == symbol

@[simp] theorem Operator.ofSymbol?_symbol (op : Operator) : ofSymbol? op.symbol = some op := by
  cases op <;> decide

/-- What variables and columns stand for. -/
structure Assignment (K : Type) where
  var : String → Quantity K
  column : String → Quantity K

namespace Expr

variable {K : Type} (N : NumberSystem K) (σ : Assignment K)

mutual

/-- The value of an expression, unless its evaluation is stuck. -/
def eval : Expr → Option (Quantity K)
  | const (.literal l) _ => some (N.ofLiteral l)
  | const _ _ | stray _ => none
  | var name _ => some (σ.var name)
  | column field _ => some (σ.column field)
  | unary op operand _ => do
    let v ← operand.eval
    if op = "-" then v.map N.neg else none
  | binary op left right _ => do
    let v ← left.eval
    let w ← right.eval
    let op ← Operator.ofSymbol? op
    v.broadcast (N.operate op) w
  | call name args _ => do
    let vs ← evalAll args
    let f ← Signature.Intrinsic.ofName? name
    N.call f vs
  | component value field _ => do
    let v ← value.eval
    v.component? (value.valueType.components.idxOf field)

/-- The values of expressions side by side. -/
def evalAll : List Expr → Option (List (Quantity K))
  | [] => some []
  | e :: rest => do
    let v ← e.eval
    let vs ← evalAll rest
    return v :: vs

end

end Expr

end VisualScale
