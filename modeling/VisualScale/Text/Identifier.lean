import VisualScale.Text.IdentifierRuns

/-!
# Identifiers

Which texts are identifiers: a letter or an underscore, then letters, digits, marks and connectors.
Inside ASCII the rule is written out; outside it the runs of the Unicode properties decide.
-/

namespace VisualScale.Text

/-- The runs that a table writes as pairs of characters. -/
def runsOf : List Char → List (Char × Char)
  | first :: last :: rest => (first, last) :: runsOf rest
  | _ => []

/-- The character lies in one of the runs. -/
def inRuns (runs : List (Char × Char)) (c : Char) : Bool :=
  runs.any fun run => run.1 ≤ c && c ≤ run.2

/-- The runs of `identifierStartRuns`. -/
def startRuns : List (Char × Char) := runsOf (identifierStartRuns.flatMap String.toList)

/-- The runs of `identifierPartRuns`. -/
def partRuns : List (Char × Char) := runsOf (identifierPartRuns.flatMap String.toList)

/-- The character belongs to ASCII. -/
def isAscii (c : Char) : Bool := c.toNat < 128

/-- The character may begin an identifier. -/
def isIdentifierStart (c : Char) : Bool :=
  if isAscii c then c.isAlpha || c == '_' else inRuns startRuns c

/-- The character may go on with an identifier. -/
def isIdentifierPart (c : Char) : Bool :=
  if isAscii c then c.isAlphanum || c == '_' else inRuns partRuns c

/-- The text is an identifier. -/
def isIdentifier : List Char → Bool
  | [] => false
  | c :: rest => isIdentifierStart c && rest.all isIdentifierPart

@[simp] theorem isIdentifier_nil : isIdentifier [] = false := rfl

end VisualScale.Text
