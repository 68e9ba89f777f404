import VisualScale.Formula.Formula

/-!
# From words to a formula

The grammar of formulas:

    expr    = term {('+' | '-') term}
    term    = factor {('*' | '/') factor}
    factor  = ('+' | '-') factor | primary
    primary = atom | primary '.' NAME | callee '(' [expr {',' expr} [',']] ')'
    callee  = NAME | '(' callee ')'
    atom    = NUMBER | NAME | '(' expr ')'

It is read by a machine that takes one word at a time (`step`). What is still to be completed inside
the innermost open bracket is a `Pending`: at most one sum and one product that wait for their right
operand, and the signs before the next operand. An open bracket keeps the pending parts around it on
a stack. A word that does not fit ends the run with `none`; the words of a formula leave one operand
and no open bracket (`finish`).
-/

namespace VisualScale

namespace Reader

/-! ## 1. Operands and what waits for them -/

/-- A formula that has been read, and its extent with the brackets around it. -/
structure Operand where
  formula : Formula
  extent : Span

/-- An operation that waits for its right operand. -/
structure Waiting where
  left : Operand
  op : Operator

/-- What waits inside one bracket: a sum, a product, and signs with their places, the last one
    first. -/
structure Pending where
  sum : Option Waiting
  product : Option Waiting
  signs : List (Sign × Position)

/-- Nothing waits. -/
def Pending.empty : Pending := ⟨none, none, []⟩

/-- Nothing waits. -/
def Pending.isEmpty (p : Pending) : Bool := p.sum.isNone && p.product.isNone && p.signs.isEmpty

/-- An operand with a sign before it. -/
def Operand.signed (o : Operand) (sign : Sign) (start : Position) : Operand :=
  let extent : Span := ⟨start, o.extent.stop⟩
  ⟨.signed sign o.formula extent, extent⟩

/-- An operation with its right operand. -/
def Waiting.complete (w : Waiting) (right : Operand) : Operand :=
  let extent : Span := ⟨w.left.extent.start, right.extent.stop⟩
  ⟨.binary w.op w.left.formula right.formula extent, extent⟩

/-- An operand with the operation that waits for it, if one does. -/
def completeWith (w : Option Waiting) (o : Operand) : Operand :=
  match w with
  | some w => w.complete o
  | none => o

/-- An operand with the signs before it. -/
def Pending.factor (p : Pending) (o : Operand) : Operand :=
  p.signs.foldl (fun o (sign, start) => o.signed sign start) o

/-- An operand with its signs and the product that waits for it. -/
def Pending.term (p : Pending) (o : Operand) : Operand := completeWith p.product (p.factor o)

/-- An operand with everything that waits for it. -/
def Pending.expr (p : Pending) (o : Operand) : Operand := completeWith p.sum (p.term o)

/-! ## 2. Brackets -/

/-- What an open bracket is to become: the brackets around a formula, or the arguments of a call
    with those read so far, the last one first. -/
inductive Frame where
  | group (start : Position)
  | call (function : String) (start : Position) (args : List Formula)

/-- A call whose bracket closes at a position. -/
def callOperand (function : String) (args : List Formula) (start stop : Position) : Operand :=
  let extent : Span := ⟨start, stop⟩
  ⟨.call function args extent, extent⟩

/-! ## 3. The machine -/

/-- What the next word may be: the beginning of an operand, something behind an operand, or the name
    of a component. -/
inductive Phase where
  | operand
  | behind (o : Operand)
  | field (o : Operand)

/-- The state between two words. -/
structure State where
  outer : List (Pending × Frame)
  pending : Pending
  phase : Phase

/-- The state before the first word. -/
def State.start : State := ⟨[], .empty, .operand⟩

/-- An operand has been read. -/
def State.put (s : State) (o : Operand) : State := { s with phase := .behind o }

/-- A formula that is one word has been read. -/
def State.leaf (s : State) (formula : Formula) : State := s.put ⟨formula, formula.span⟩

/-- A sign before an operand. -/
def State.sign (s : State) (sign : Sign) (p : Position) : State :=
  { s with pending := { s.pending with signs := (sign, p) :: s.pending.signs } }

/-- A sum goes on behind an operand. -/
def State.additive (s : State) (o : Operand) (op : Operator) : State :=
  { s with pending := ⟨some ⟨s.pending.expr o, op⟩, none, []⟩, phase := .operand }

/-- A product goes on behind an operand. -/
def State.multiplicative (s : State) (o : Operand) (op : Operator) : State :=
  { s with pending := ⟨s.pending.sum, some ⟨s.pending.term o, op⟩, []⟩, phase := .operand }

/-- A bracket opens. -/
def State.push (s : State) (frame : Frame) : State :=
  ⟨(s.pending, frame) :: s.outer, .empty, .operand⟩

/-- An argument of the innermost call ends behind an operand. -/
def State.argument? (s : State) (o : Operand) : Option State :=
  match s.outer with
  | (around, .call function start args) :: outer =>
    some ⟨(around, .call function start ((s.pending.expr o).formula :: args)) :: outer, .empty,
      .operand⟩
  | _ => none

/-- The innermost bracket closes behind an operand. -/
def State.closeBehind? (s : State) (o : Operand) (stop : Position) : Option State :=
  let last := s.pending.expr o
  match s.outer with
  | (around, .group start) :: outer =>
    some ⟨outer, around, .behind ⟨last.formula, ⟨start, stop⟩⟩⟩
  | (around, .call function start args) :: outer =>
    some ⟨outer, around,
      .behind (callOperand function (args.reverse ++ [last.formula]) start stop)⟩
  | [] => none

/-- The innermost bracket closes where an operand could begin: that of a call without arguments, or
    behind a comma. -/
def State.closeBare? (s : State) (stop : Position) : Option State :=
  match s.outer with
  | (around, .call function start args) :: outer =>
    if s.pending.isEmpty then
      some ⟨outer, around, .behind (callOperand function args.reverse start stop)⟩
    else none
  | _ => none

/-- A bracket opens behind an operand, which must be a name, with or without brackets. -/
def State.call? (s : State) (o : Operand) : Option State :=
  match o.formula with
  | .name function _ => some (s.push (.call function o.extent.start []))
  | _ => none

/-- One word. -/
def step (s : State) (t : Token) : Option State :=
  match s.phase with
  | .operand =>
    match t.lexeme with
    | .whole n => some (s.leaf (.whole n t.span))
    | .real d => some (s.leaf (.real d t.span))
    | .name id => some (s.leaf (.name id t.span))
    | .mark .plus => some (s.sign .plus t.span.start)
    | .mark .minus => some (s.sign .minus t.span.start)
    | .mark .opening => some (s.push (.group t.span.start))
    | .mark .closing => s.closeBare? t.span.stop
    | _ => none
  | .behind o =>
    match t.lexeme with
    | .mark .plus => some (s.additive o .add)
    | .mark .minus => some (s.additive o .sub)
    | .mark .times => some (s.multiplicative o .mul)
    | .mark .over => some (s.multiplicative o .div)
    | .mark .dot => some { s with phase := .field o }
    | .mark .comma => s.argument? o
    | .mark .opening => s.call? o
    | .mark .closing => s.closeBehind? o t.span.stop
    | _ => none
  | .field o =>
    match t.lexeme with
    | .name field =>
      let extent : Span := ⟨o.extent.start, t.span.stop⟩
      some (s.put ⟨.component o.formula field extent, extent⟩)
    | _ => none

/-- The formula behind the last word. -/
def finish (s : State) : Option Formula :=
  match s.outer, s.phase with
  | [], .behind o => some (s.pending.expr o).formula
  | _, _ => none

/-- The state behind words. -/
def run (s : State) (tokens : List Token) : Option State := tokens.foldlM step s

theorem run_append (s : State) (a b : List Token) :
    run s (a ++ b) = (run s a).bind fun s => run s b := by
  simp [run, List.foldlM_append]

end Reader

/-- The formula that words write. -/
def Formula.read (tokens : List Token) : Option Formula :=
  (Reader.run .start tokens).bind Reader.finish

end VisualScale
