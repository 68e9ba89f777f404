import VisualScale.Formula.Lexeme

/-!
# Phrases

A phrase is an expression of the wider language, told apart only as far as a formula must be refused
for it or is made of it. `Phrase.refusal?` is the first thing in a phrase, from the outside in and from left to
right, that formulas have no place for, with the place of the node that is refused for it.
-/

namespace VisualScale

/-- An expression of the wider language. -/
inductive Phrase where
  | whole (n : Nat) (span : Span)
  | real (d : Double) (span : Span)
  /-- A text, a truth value, an imaginary number, or another constant that is no number. -/
  | constant (span : Span)
  | name (id : String) (span : Span)
  /-- An operation; `known` says that formulas have it. -/
  | binary (op : String) (known : Bool) (left right : Phrase) (span : Span)
  /-- A sign or another operator before a value. -/
  | unary (op : String) (known : Bool) (operand : Phrase) (span : Span)
  | call (callee : Phrase) (args : List Phrase) (keywords : Bool) (span : Span)
  | member (value : Phrase) (field : String) (span : Span)
  /-- A value to be unpacked, where unpacking has a place. -/
  | unpacked (span : Span)
  /-- Any other form, by its name. -/
  | form (kind : String) (span : Span)

namespace Phrase

instance : Inhabited Phrase := ⟨.whole 0 default⟩

/-- The place of a phrase. -/
def span : Phrase → Span
  | whole _ s | real _ s | constant s | name _ s | binary _ _ _ _ s | unary _ _ _ s | call _ _ _ s
  | member _ _ s | unpacked s | form _ s => s

mutual

/-- The first refusal in a phrase, and its place. -/
def refusal? : Phrase → Option (Refusal × Span)
  | whole _ _ | real _ _ | name _ _ => none
  | constant s => some (.nonNumericConstant, s)
  | binary op known left right s =>
    if known then left.refusal?.or right.refusal? else some (.binaryOperator op, s)
  | unary op known operand s =>
    if known then operand.refusal? else some (.unaryOperator op, s)
  | call callee args keywords s =>
    match callee with
    | name function _ =>
      if keywords then some (.keywordArguments function, s) else argumentRefusal? s args
    | _ => some (.calleeNotName, s)
  | member value _ _ => value.refusal?
  | unpacked s => some (.form "Starred", s)
  | form kind s => some (.form kind, s)

/-- The first refusal in the arguments of a call. An argument that is unpacked is refused at the
    place of the call. -/
def argumentRefusal? (call : Span) : List Phrase → Option (Refusal × Span)
  | [] => none
  | unpacked _ :: _ => some (.argumentUnpacking, call)
  | arg :: rest => arg.refusal?.or (argumentRefusal? call rest)

end

end Phrase

end VisualScale
