import VisualScale.Expr.Build
import VisualScale.Formula.Parsed
import VisualScale.Table

/-!
# From a formula to an expression

A formula is compiled against an environment that gives an expression for every name. A name becomes
the expression that it stands for; a number becomes a float; a plus sign leaves its operand as it
is. The rules of the signatures give each node its type. What fails first, from left to right and
from the inside out, is the failure, and it tells the place of the node that failed; only an unknown
function fails before its arguments.

Compiled against variables that carry the types of their names, a formula shows the type that it
will have.
-/

namespace VisualScale

/-- What the names of a formula stand for. -/
abbrev Environment := Table Expr

namespace Formula

/-- The result of a rule, its fault placed at a span of the source. -/
def placed {α : Type} (source : String) (span : Span) (r : Except Fault α) : Except Failure α :=
  match r with
  | .ok a => .ok a
  | .error fault => .error (.at source span fault)

@[simp] theorem placed_ok {α : Type} (source : String) (span : Span) (a : α) :
    placed source span (.ok a : Except Fault α) = .ok a := rfl

/-- The constant of a whole number. -/
def wholeConstant (n : Nat) : Except Fault Expr :=
  (Build.toDouble (.int n)).map fun d => .const (.literal (.scalar (.float d))) .float

/-- The component of an expression. -/
def componentNode (value : Expr) (field : String) : Except Fault Expr :=
  if field ∈ value.valueType.components then .ok (.component value field .float)
  else .error (.noComponent value.valueType field)

/-- An expression with a sign: a plus sign asks for a value that may have one, and adds nothing. -/
def signNode (sign : Sign) (operand : Expr) : Except Fault Expr :=
  match sign with
  | .plus => (Signature.signType "+" operand.valueType).map fun _ => operand
  | .minus => Build.unaryNode "-" operand

mutual

/-- The expression of a formula of a source. -/
def compile (source : String) (env : Environment) : Formula → Except Failure Expr
  | whole n s => placed source s (wholeConstant n)
  | real d _ => .ok (.const (.literal (.scalar (.float d))) .float)
  | name id s =>
    match env.find? id with
    | some e => .ok e
    | none => .error (.at source s (.unknownIdentifier id))
  | binary op left right s => do
    let l ← left.compile source env
    let r ← right.compile source env
    placed source s (Build.binaryNode op.symbol l r)
  | signed sign operand s => do
    let e ← operand.compile source env
    placed source s (signNode sign e)
  | call function args s =>
    if Signature.isKnownFunction function then do
      let es ← compileAll source env args
      placed source s (Build.callNode function es)
    else .error (.at source s (.unknownFunction function))
  | component value field s => do
    let e ← value.compile source env
    placed source s (componentNode e field)

/-- The expressions of formulas side by side, from the first to the last. -/
def compileAll (source : String) (env : Environment) : List Formula → Except Failure (List Expr)
  | [] => .ok []
  | f :: rest => do
    let e ← f.compile source env
    let es ← compileAll source env rest
    .ok (e :: es)

end

end Formula

namespace ParsedFormula

/-- The expression of a formula in an environment of expressions. -/
def compile (p : ParsedFormula) (env : Environment) : Except Failure Expr :=
  p.formula.compile p.source env

/-- Values in the place of the expressions of an environment: all of them must be expressions. -/
def environmentOf : Table Value → Except Failure Environment
  | [] => .ok []
  | (name, .expr e) :: rest => (environmentOf rest).map ((name, e) :: ·)
  | (name, v) :: _ => .error (.plain (.notExpression name v.noun))

/-- The expression of a formula in an environment of values, which must be expressions. -/
def compileWith (p : ParsedFormula) (env : Table Value) : Except Failure Expr := do
  let env ← environmentOf env
  p.compile env

end ParsedFormula

end VisualScale
