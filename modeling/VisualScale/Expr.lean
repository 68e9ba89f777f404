import VisualScale.Literal

/-!
# Expressions and values

The trees that scales are built into: constants, typed variables, columns of the data, signs,
operations, calls and components, each node with its value type. A tree says what is to be computed;
nothing is computed here.

What is handed in, to a scale or to an expression, is a value: nothing at all, a text, a literal, a
reference to a column of the data, an expression, or the binding of a scale, spoken of by its number
(`BindingId`). A constant may be given a type by hand, and then holds whatever value it was given. A
component may be taken, by hand again, of a value that is no expression; such a tree has the leaf
`Expr.stray`, and can be neither written nor stored.
-/

namespace VisualScale

/-- What has no parts that are values: nothing, a text, or a literal. -/
inductive Datum where
  | absent
  | text (text : String)
  | literal (l : Literal)
  deriving DecidableEq

/-- A reference to a column of the data; its type may be left open. -/
structure DataRef where
  field : String
  valueType : Option ValueType
  field_ne_empty : field ≠ ""
  deriving DecidableEq

/-- The number of a scale binding. -/
structure BindingId where
  index : Nat
  deriving DecidableEq, Repr

mutual

/-- An expression. -/
inductive Expr where
  | const (value : Value) (type : ValueType)
  | var (name : String) (type : ValueType)
  | column (field : String) (type : ValueType)
  | unary (op : String) (operand : Expr) (type : ValueType)
  | binary (op : String) (left right : Expr) (type : ValueType)
  | call (name : String) (args : List Expr) (type : ValueType)
  | component (value : Expr) (field : String) (type : ValueType)
  | stray (value : Value)

/-- A value: what is bound to an argument or an attribute, or held by a constant. -/
inductive Value where
  | datum (d : Datum)
  | reference (r : DataRef)
  | expr (e : Expr)
  | binding (b : BindingId)

end

/-- A literal as a value. -/
@[match_pattern] abbrev Value.literal (l : Literal) : Value := .datum (.literal l)

namespace Expr

instance : Inhabited Expr := ⟨.var "" .float⟩

/-- The type of an expression's value. -/
def valueType : Expr → ValueType
  | const _ t | var _ t | column _ t | unary _ _ t | binary _ _ _ t | call _ _ t
  | component _ _ t => t
  | stray _ => .float

/-! ## Leaves and replacement -/

mutual

/-- The variables and columns at the leaves of an expression, from left to right. -/
def leaves : Expr → List Expr
  | const _ _ | stray _ => []
  | e@(var _ _) | e@(column _ _) => [e]
  | unary _ operand _ => operand.leaves
  | binary _ left right _ => left.leaves ++ right.leaves
  | call _ args _ => leavesOfAll args
  | component value _ _ => value.leaves

/-- The leaves of expressions side by side. -/
def leavesOfAll : List Expr → List Expr
  | [] => []
  | e :: rest => e.leaves ++ leavesOfAll rest

end

theorem leavesOfAll_eq (es : List Expr) : leavesOfAll es = es.flatMap leaves := by
  induction es with
  | nil => simp [leavesOfAll]
  | cons e rest ih => simp [leavesOfAll, ih]

mutual

/-- An expression with every variable replaced at once. -/
def replaceVars (σ : String → ValueType → Expr) : Expr → Expr
  | var name t => σ name t
  | const v t => const v t
  | column f t => column f t
  | unary op operand t => unary op (operand.replaceVars σ) t
  | binary op left right t => binary op (left.replaceVars σ) (right.replaceVars σ) t
  | call name args t => call name (replaceVarsInAll σ args) t
  | component value f t => component (value.replaceVars σ) f t
  | stray v => stray v

/-- Expressions side by side with every variable replaced at once. -/
def replaceVarsInAll (σ : String → ValueType → Expr) : List Expr → List Expr
  | [] => []
  | e :: rest => e.replaceVars σ :: replaceVarsInAll σ rest

end

end Expr

end VisualScale
