import VisualScale.Formula.Lexeme
import VisualScale.Number.Decimal

/-!
# Numbers in formulas

A number is whole, in base ten, sixteen, eight or two; or real, with a point or a power of ten; or
imaginary. Single underscores may stand between digits. Zeros may lead a whole number only if it is
zero, and no whole number of base ten has more than 4300 digits. Directly behind a number no letter
may stand, unless a word begins there that can follow a number (`wordFollows`).
-/

namespace VisualScale

namespace Numeral

/-! ## 1. Where a number may end -/

/-- The character may belong to a name: a letter, digit or underscore, or anything outside ASCII. -/
def isWordChar (c : Char) : Bool := c.isAlphanum || c == '_' || 128 ≤ c.toNat

/-- The text begins with a word and goes on with no further character of a name. -/
def beginsWord (word cs : List Char) : Bool :=
  word.isPrefixOf cs && !((cs.drop word.length).head?.any isWordChar)

/-- The text begins with a reserved word that may stand directly behind a number. -/
def wordFollows (cs : List Char) : Bool :=
  match cs with
  | 'i' :: c :: _ => c == 'f' || c == 'n' || c == 's'
  | _ => beginsWord ['a', 'n', 'd'] cs || beginsWord ['e', 'l', 's', 'e'] cs ||
      beginsWord ['f', 'o', 'r'] cs || beginsWord ['o', 'r'] cs || beginsWord ['n', 'o', 't'] cs

/-- A number may end before the text. -/
def mayEnd (cs : List Char) : Bool := wordFollows cs || !(cs.head?.any isWordChar)

/-! ## 2. Runs of digits -/

/-- The digits at the start of a text, single underscores between or before them left out, and the
    text behind them. An underscore before anything but a digit is an error. -/
def digitRun (isDigit : Char → Bool) : List Char → Option (List Char × List Char)
  | [] => some ([], [])
  | '_' :: [] => none
  | '_' :: c :: rest =>
    if isDigit c then (digitRun isDigit rest).map fun (ds, rest) => (c :: ds, rest) else none
  | c :: rest =>
    if isDigit c then (digitRun isDigit rest).map fun (ds, rest) => (c :: ds, rest)
    else some ([], c :: rest)

/-- The digits of base ten behind a point or a sign; none if the text begins with another
    character. -/
def decimalRun (cs : List Char) : Option (List Char × List Char) :=
  if cs.head?.any Char.isDigit then digitRun Char.isDigit cs else some ([], cs)

/-- The character is a digit of base sixteen. -/
def isHexDigit (c : Char) : Bool :=
  c.isDigit || ('a' ≤ c && c ≤ 'f') || ('A' ≤ c && c ≤ 'F')

/-- The character is a digit of base eight. -/
def isOctalDigit (c : Char) : Bool := '0' ≤ c && c ≤ '7'

/-- The character is a digit of base two. -/
def isBinaryDigit (c : Char) : Bool := c == '0' || c == '1'

/-! ## 3. Numbers -/

/-- The greatest count of digits of a whole number of base ten. -/
def maxWholeDigits : Nat := 4300

/-- A whole number in a base that its first two characters name; `cs` follows these. -/
def inBase (base : Nat) (isDigit : Char → Bool) (cs : List Char) :
    Option (Lexeme × List Char) := do
  let (ds, rest) ← digitRun isDigit cs
  if ds.isEmpty || rest.head?.any Char.isDigit || !mayEnd rest then none
  else some (.whole (Decimal.ofDigits base ds), rest)

/-- What the digits before and behind the point have shown so far: `point` says whether there was
    one. -/
structure Parts where
  whole : List Char
  point : Bool
  fraction : List Char

/-- The digits are those of a whole number that zeros may not lead. -/
def Parts.ledByZero (p : Parts) : Bool :=
  p.whole.head? == some '0' && p.whole.any (· != '0')

/-- The real number of the parts and a power of ten. -/
def Parts.real (p : Parts) (power : Int) : Lexeme :=
  .real ((Decimal.ofParts p.whole p.fraction power).toDouble false)

/-- The number of the parts where no power of ten follows. Digits led by zeros can only be part of a
    real number. -/
def Parts.number? (p : Parts) (ledByZeroIsReal : Bool) : Option Lexeme :=
  if p.point then some (p.real 0)
  else if p.ledByZero then (if ledByZeroIsReal then some (p.real 0) else none)
  else
    let n := Decimal.ofDigits 10 p.whole
    if n ≠ 0 ∧ maxWholeDigits < p.whole.length then none else some (.whole n)

/-- The sign and digits of a power of ten, behind its `e`; nothing if no digit and no sign follows,
    so that the `e` does not belong to the number. -/
def powerRun (cs : List Char) : Option (Option (Int × List Char)) :=
  let signed (negative : Bool) (rest : List Char) : Option (Option (Int × List Char)) :=
    if rest.head?.any Char.isDigit then
      (digitRun Char.isDigit rest).map fun (ds, rest) =>
        let n : Int := Decimal.ofDigits 10 ds
        some (if negative then -n else n, rest)
    else none
  match cs with
  | '+' :: rest => signed false rest
  | '-' :: rest => signed true rest
  | c :: rest => if c.isDigit then signed false (c :: rest) else some none
  | [] => some none

/-- A number that a letter may make imaginary, before the text `rest`. -/
def closed (lexeme? : Option Lexeme) (rest : List Char) : Option (Lexeme × List Char) :=
  match rest with
  | c :: more =>
    if c = 'j' ∨ c = 'J' then
      if mayEnd more then some (.other .imaginary, more) else none
    else if mayEnd rest then lexeme?.map (·, rest) else none
  | [] => lexeme?.map (·, [])

/-- The rest of a number behind its digits and its point. -/
def finished (p : Parts) (cs : List Char) : Option (Lexeme × List Char) :=
  match cs with
  | c :: rest =>
    if c = 'e' ∨ c = 'E' then do
      match ← powerRun rest with
      | some (power, rest) => closed (some (p.real power)) rest
      | none => if mayEnd cs then (p.number? true).map (·, cs) else none
    else closed (p.number? false) cs
  | [] => closed (p.number? false) []

/-- A number of base ten, which begins with a digit or with a point and a digit. -/
def inBaseTen (cs : List Char) : Option (Lexeme × List Char) := do
  let (whole, rest) ← decimalRun cs
  match rest with
  | '.' :: more => do
    let (fraction, rest) ← decimalRun more
    finished ⟨whole, true, fraction⟩ rest
  | _ => finished ⟨whole, false, []⟩ rest

/-- The number at the start of a text, which begins with a digit or with a point and a digit, and
    the text behind it. -/
def scan (cs : List Char) : Option (Lexeme × List Char) :=
  match cs with
  | '0' :: c :: rest =>
    if c = 'x' ∨ c = 'X' then inBase 16 isHexDigit rest
    else if c = 'o' ∨ c = 'O' then inBase 8 isOctalDigit rest
    else if c = 'b' ∨ c = 'B' then inBase 2 isBinaryDigit rest
    else inBaseTen cs
  | _ => inBaseTen cs

end Numeral

end VisualScale
