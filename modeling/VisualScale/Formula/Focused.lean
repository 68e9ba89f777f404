import VisualScale.Formula.Compile

/-!
# Reading and compiling with a focus

A fault is put into words where it arises, and the words take the place that they tell from the
focus (`Focus`): the source and the node that are being looked at just then. Whoever looks at a node
enters it first and leaves it at the end, whether by a result or by a fault (`Focused.within`); the
same holds of a source (`Focused.inSource`).

Here the wider language is validated (`Phrase.validateIn`) and compiled (`Phrase.compileIn`) under a
focus. The compiler trusts the validator: it looks at no node twice, and has no rule for a node that
formulas do not have. Such places are told apart from faults (`Gap`).
-/

namespace VisualScale

/-! ## 1. Work under a focus -/

/-- A place where a compiler that trusts the validator has no rule. -/
inductive Gap where
  /-- A literal that is no number. -/
  | literal
  /-- A binary operator without a sign in expressions. -/
  | operator (op : String)
  /-- A unary operator that is neither a plus nor a minus. -/
  | sign (op : String)
  /-- A callee that is no name. -/
  | callee
  /-- A form that formulas do not have. -/
  | form (kind : String)
  deriving DecidableEq, Repr

/-- What ends work early. -/
inductive Stop where
  | gap (gap : Gap)
  | fault (fault : Fault) (text : String)
  deriving DecidableEq, Repr

/-- A failure as the end of work. -/
def Stop.of (failure : Failure) : Stop := .fault failure.fault failure.text

/-- A fault in the words that it gets when it arises here. Only faults of wording and typing tell
    where they arose. -/
def Focus.words (focus : Focus) (fault : Fault) : String :=
  match fault.kind with
  | .wording | .typing => focus.annotate fault.message none none
  | _ => fault.message

/-- Work under a focus. -/
abbrev Focused := ExceptT Stop (StateM Focus)

namespace Focused

variable {α : Type}

/-- A fault arises. -/
def raise (fault : Fault) : Focused α := do throw (.fault fault ((← get).words fault))

/-- There is no rule. -/
def stuck (gap : Gap) : Focused α := throw (.gap gap)

/-- What a rule gives. -/
def ofRule : Except Fault α → Focused α
  | .ok a => pure a
  | .error fault => raise fault

/-- Work inside a node, which is left again however the work ends. -/
def within (span : Span) (w : Focused α) : Focused α := fun focus =>
  let (r, after) := w (focus.enterNode (some (some span.place)))
  (r, after.enterNode focus.node)

/-- Work inside a source, which is left again however the work ends. -/
def inSource (source : String) (w : Focused α) : Focused α := fun focus =>
  let (r, after) := w (focus.enterSource source)
  (r, { after with source := focus.source })

end Focused

open Focused

/-! ## 2. Validating -/

namespace Phrase

mutual

/-- Looks at a phrase from the outside in and from left to right, up to the first node that formulas
    do not have. -/
def validateIn : Phrase → Focused Unit
  | whole _ s | real _ s | name _ s => within s (pure ())
  | constant s => within s (raise (.refused .nonNumericConstant))
  | binary op known left right s => within s do
    if known then
      left.validateIn
      right.validateIn
    else raise (.refused (.binaryOperator op))
  | unary op known operand s => within s do
    if known then operand.validateIn else raise (.refused (.unaryOperator op))
  | call callee args keywords s => within s do
    match callee with
    | name function _ =>
      if keywords then raise (.refused (.keywordArguments function)) else validateAllIn args
    | _ => raise (.refused .calleeNotName)
  | member value _ s => within s value.validateIn
  | unpacked s => within s (raise (.refused (.form "Starred")))
  | form kind s => within s (raise (.refused (.form kind)))

/-- Looks at the arguments of a call from the first to the last. -/
def validateAllIn : List Phrase → Focused Unit
  | [] => pure ()
  | unpacked _ :: _ => raise (.refused .argumentUnpacking)
  | arg :: rest => do
    arg.validateIn
    validateAllIn rest

end

/-! ## 3. Compiling -/

mutual

/-- The expression of a phrase that the validator has let through. -/
def compileIn (env : Environment) : Phrase → Focused Expr
  | whole n s => within s (ofRule (Formula.wholeConstant n))
  | real d s => within s (pure (.const (.literal (.scalar (.float d))) .float))
  | constant s => within s (stuck .literal)
  | name id s => within s do
    match env.find? id with
    | some e => pure e
    | none => raise (.unknownIdentifier id)
  | binary op _ left right s => within s do
    match Operator.ofKind? op with
    | none => stuck (.operator op)
    | some operation =>
      let l ← left.compileIn env
      let r ← right.compileIn env
      ofRule (Build.binaryNode operation.symbol l r)
  | unary op _ operand s => within s do
    let e ← operand.compileIn env
    match Sign.ofKind? op with
    | none => stuck (.sign op)
    | some sign => ofRule (Formula.signNode sign e)
  | call callee args _ s => within s do
    match callee with
    | name function _ =>
      if Signature.isKnownFunction function then
        let es ← compileAllIn env args
        ofRule (Build.callNode function es)
      else raise (.unknownFunction function)
    | _ => stuck .callee
  | member value field s => within s do
    let e ← value.compileIn env
    ofRule (Formula.componentNode e field)
  | unpacked s => within s (stuck (.form "Starred"))
  | form kind s => within s (stuck (.form kind))

/-- The expressions of phrases side by side, from the first to the last. -/
def compileAllIn (env : Environment) : List Phrase → Focused (List Expr)
  | [] => pure []
  | ph :: rest => do
    let e ← ph.compileIn env
    let es ← compileAllIn env rest
    pure (e :: es)

end

end Phrase

/-! ## 4. Calls on formulas -/

/-- Reads a text: the source, and the phrase that the validator has let through. -/
def readIn (text : String) : Focused (String × Phrase) :=
  let cs := Text.trim text.toList
  if cs = [] then raise .emptyFormula
  else if cs.contains '\x00' then raise .nulCharacter
  else match (Lexer.lex cs).bind (Phrase.read cs.length) with
    | none => raise .malformedFormula
    | some ph => do
      inSource (String.ofList cs) ph.validateIn
      pure (String.ofList cs, ph)

/-- A call on formulas: to read one, or to compile one that was read. -/
inductive Call where
  | read (text : String)
  | compile (source : String) (ph : Phrase) (env : Environment)

/-- The focus that a call leaves. -/
def Call.leaves (focus : Focus) : Call → Focus
  | read text => (readIn text focus).2
  | compile source ph env => (inSource source (ph.compileIn env) focus).2

/-- The focus after calls, one after another. -/
def focusAfter (calls : List Call) : Focus := calls.foldl Call.leaves .nothing

end VisualScale
