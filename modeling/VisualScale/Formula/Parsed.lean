import VisualScale.Formula.Grammar
import VisualScale.Formula.Reader

/-!
# Reading a formula

A text is read once, and compiled as often as wanted. White space around it is no part of it. Where
the text is no formula, the failure says why: it is empty; or it is an expression of the wider
language, and uses something at a place that formulas do not have; or it is no expression at all.
-/

namespace VisualScale

/-- A formula with the text that it was read from. -/
structure ParsedFormula where
  source : String
  formula : Formula

namespace ParsedFormula

/-- Why words that are no formula are none. -/
def whyNot (source : String) (length : Nat) (tokens : List Token) : Failure :=
  match (Phrase.read length tokens).bind Phrase.refusal? with
  | some (why, span) => .at source span (.refused why)
  | none => .plain .malformedFormula

/-- The formula that a text writes, once white space is gone from its ends. -/
def ofTrimmed (cs : List Char) : Except Failure ParsedFormula :=
  let source := String.ofList cs
  if cs.contains '\x00' then .error (.plain .nulCharacter)
  else match Lexer.lex cs with
    | none => .error (.plain .malformedFormula)
    | some tokens =>
      match Formula.read tokens with
      | some formula => .ok ⟨source, formula⟩
      | none => .error (whyNot source cs.length tokens)

/-- The formula that a text writes. -/
def ofText (text : String) : Except Failure ParsedFormula :=
  let cs := Text.trim text.toList
  if cs = [] then .error (.plain .emptyFormula) else ofTrimmed cs

end ParsedFormula

end VisualScale
