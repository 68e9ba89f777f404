import VisualScale.Number.Double

/-!
# Decimals

A decimal is a natural number of digits with a power of ten, `digits · 10^exponent`. It is what the
text of a number says before a double is made of it. This file fixes how digits are read, and that
a decimal becomes the double nearest to its exact value (`Decimal.toDouble`).
-/

namespace VisualScale

attribute [local instance (2000)] instPowNat

/-- The number `digits · 10^exponent`. -/
structure Decimal where
  digits : Nat
  exponent : Int
  deriving DecidableEq

namespace Decimal

/-! ## 1. Digits -/

/-- The value of a digit of any base up to sixteen; other characters count as nothing. -/
def digitValue (c : Char) : Nat :=
  if c.isDigit then c.toNat - '0'.toNat
  else if 'a' ≤ c ∧ c ≤ 'f' then c.toNat - 'a'.toNat + 10
  else if 'A' ≤ c ∧ c ≤ 'F' then c.toNat - 'A'.toNat + 10
  else 0

/-- The number that digits of a base write. -/
def ofDigits (base : Nat) (digits : List Char) : Nat :=
  digits.foldl (fun n c => n * base + digitValue c) 0

@[simp] theorem ofDigits_nil (base : Nat) : ofDigits base [] = 0 := rfl

theorem ofDigits_concat (base : Nat) (digits : List Char) (c : Char) :
    ofDigits base (digits ++ [c]) = ofDigits base digits * base + digitValue c := by
  simp [ofDigits]

/-- The decimal that a whole part, a fraction part and a power of ten write. -/
def ofParts (whole fraction : List Char) (power : Int) : Decimal :=
  ⟨ofDigits 10 (whole ++ fraction), power - fraction.length⟩

/-! ## 2. The nearest double -/

/-- The double nearest to a decimal. A power of ten past 400 lies beyond the largest double, and a
    value below `2^-1075` beneath half the least one; both are settled before that power is
    formed. -/
def toDouble (negative : Bool) (d : Decimal) : Double :=
  if d.digits = 0 then .zero negative
  else if 400 < d.exponent then .infinity negative
  else if d.digits.log2 + 1 + 3 * d.exponent < -1075 then .zero negative
  else if 0 ≤ d.exponent then .nearest negative (d.digits * 10 ^ d.exponent.toNat) 1
  else .nearest negative d.digits (10 ^ (-d.exponent).toNat)

/-! ## 3. Reading the text of a number -/

/-- A run of digits at the start of a text, and what follows it. -/
def spanDigits (cs : List Char) : List Char × List Char := cs.span Char.isDigit

/-- The power of ten at the end of a text: nothing, or `e` and a whole number with or without a
    sign. -/
def readPower : List Char → Option Int
  | [] => some 0
  | c :: rest =>
    if c = 'e' ∨ c = 'E' then
      match rest with
      | '-' :: ds => whole ds |>.map fun n => -(n : Int)
      | '+' :: ds => whole ds |>.map fun n => (n : Int)
      | ds => whole ds |>.map fun n => (n : Int)
    else none
where
  /-- Digits and nothing else. -/
  whole (ds : List Char) : Option Nat :=
    if ds ≠ [] ∧ ds.all Char.isDigit then some (ofDigits 10 ds) else none

/-- The decimal that a text without a sign writes. -/
def read? (cs : List Char) : Option Decimal :=
  let (whole, rest) := spanDigits cs
  let (fraction, rest) := match rest with
    | '.' :: more => spanDigits more
    | _ => ([], rest)
  if whole = [] ∧ fraction = [] then none
  else (readPower rest).map (ofParts whole fraction)

end Decimal

namespace Double

/-- The double that a text writes: an optional sign, then a decimal, `inf` or `nan`. -/
def read? (text : String) : Option Double :=
  match text.toList with
  | '-' :: cs => unsigned true cs
  | '+' :: cs => unsigned false cs
  | cs => unsigned false cs
where
  /-- A text after its sign. -/
  unsigned (negative : Bool) (cs : List Char) : Option Double :=
    if cs = ['i', 'n', 'f'] then some (.infinity negative)
    else if cs = ['n', 'a', 'n'] then some .nan
    else (Decimal.read? cs).map (·.toDouble negative)

end Double

/-! ## 4. Texts of integers -/

/-- The decimal text of an integer. -/
def intText (n : Int) : List Char :=
  if n < 0 then '-' :: Nat.toDigits 10 n.natAbs else Nat.toDigits 10 n.natAbs

end VisualScale
