import VisualScale.Diagnostic
import VisualScale.Number.Double

/-!
# Lexemes

The words of a formula. Formulas are written in a small part of a wider expression language, and a
text outside that part is refused with the name of what it uses; so the words of the wider language
are told apart as well, as `Lexeme.other`, and only the remaining ones can stand in a formula.
-/

namespace VisualScale

/-- The marks of formulas. -/
inductive Mark where
  | plus
  | minus
  | times
  | over
  | dot
  | comma
  | opening
  | closing
  deriving DecidableEq, Repr

/-- The words that only the wider language knows. -/
inductive OtherLexeme where
  /-- A reserved word. -/
  | keyword (word : String)
  /-- An operator, bracket or other sign. -/
  | sign (text : String)
  /-- An imaginary number. -/
  | imaginary
  /-- A text between quotes, of characters or of bytes. -/
  | text (bytes : Bool)
  /-- A text between quotes with expressions in it; `raw` texts have no escapes. -/
  | template (raw : Bool) (body : List Char)
  deriving DecidableEq, Repr

/-- A word. -/
inductive Lexeme where
  | mark (m : Mark)
  | whole (n : Nat)
  | real (d : Double)
  | name (id : String)
  | other (o : OtherLexeme)
  deriving DecidableEq

/-- A word and where it stands. -/
structure Token where
  lexeme : Lexeme
  span : Span
  deriving DecidableEq

/-- The position behind a text that begins at a position. -/
def Position.after (p : Position) (cs : List Char) : Position :=
  cs.foldl (fun p c => if c = '\n' then ⟨p.line + 1, 0⟩ else ⟨p.line, p.column + c.utf8Size⟩) p

@[simp] theorem Position.after_nil (p : Position) : p.after [] = p := rfl

theorem Position.after_append (p : Position) (a b : List Char) :
    p.after (a ++ b) = (p.after a).after b := by simp [Position.after]

/-- Without line feeds the line stays, and the column moves on by the bytes of the text. -/
theorem Position.after_of_no_lineFeed (p : Position) {cs : List Char} (h : '\n' ∉ cs) :
    p.after cs = ⟨p.line, p.column + Text.byteLength cs⟩ := by
  induction cs generalizing p with
  | nil => rfl
  | cons c cs ih =>
    simp only [List.mem_cons, not_or] at h
    have : p.after (c :: cs) = (⟨p.line, p.column + c.utf8Size⟩ : Position).after cs := by
      simp [Position.after, Ne.symm h.1]
    rw [this, ih _ h.2]
    simp [Nat.add_assoc]

end VisualScale
