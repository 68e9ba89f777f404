import VisualScale.Number.Decimal

/-!
# The shortest text of a double

A double is written with the fewest digits that read back as the same double, and of those with the
ones nearest to it (`Double.shortest`). The text is positional while the leading digit stands
between the fourth place after the point and the sixteenth before it, and a power of ten is written
out otherwise; a whole number keeps a `.0`, so that the text of a double never reads as a whole
number (`Double.text`).

The main statement is `Double.toDouble_shortest`: what is written reads back.
-/

namespace VisualScale

attribute [local instance (2000)] instPowNat

namespace Decimal

/-! ## 1. Digit counts -/

/-- How many decimal digits a natural number has; zero has one. -/
def digitCount (n : Nat) : Nat := (Nat.toDigits 10 n).length

/-- The power of ten of the leading digit of `n / d`, for a positive quotient. -/
def leadingPower (n d : Nat) : Int :=
  if d ≤ n then (digitCount (n / d) : Int) - 1
  else -(digitCount ((d + n - 1) / n - 1) : Int)

/-! ## 2. Writing a decimal -/

/-- The digits of a decimal without the zeros at their end. -/
def trimmedDigits (d : Decimal) : List Char :=
  let ds := ((Nat.toDigits 10 d.digits).reverse.dropWhile (· = '0')).reverse
  if ds = [] then ['0'] else ds

/-- The power of ten of a decimal's leading digit; zero has `0`. -/
def leading (d : Decimal) : Int :=
  if d.digits = 0 then 0 else (digitCount d.digits : Int) - 1 + d.exponent

/-- Digits with the point after the digit of the power of ten `0`, when the first digit stands for
    the power `power`. -/
def positional (digits : List Char) (power : Int) : List Char :=
  if power < 0 then '0' :: '.' :: (List.replicate (-power - 1).toNat '0' ++ digits)
  else
    let before := power.toNat + 1
    let fraction := digits.drop before
    digits.take before ++ List.replicate (before - digits.length) '0' ++ '.' ::
      (if fraction = [] then ['0'] else fraction)

/-- A power of ten as `e`, its sign and two digits at least. -/
def powerText (power : Int) : List Char :=
  let ds := Nat.toDigits 10 power.natAbs
  'e' :: (if power < 0 then '-' else '+') :: (List.replicate (2 - ds.length) '0' ++ ds)

/-- Digits with the point after the first one and the power of ten of that digit. -/
def scientific (digits : List Char) (power : Int) : List Char :=
  match digits with
  | [] => powerText power
  | [d] => d :: powerText power
  | d :: rest => d :: '.' :: (rest ++ powerText power)

/-- The text of a decimal: positional from `10^-4` up to `10^16`, with a power of ten outside. -/
def toText (d : Decimal) : List Char :=
  let digits := d.trimmedDigits
  let power := d.leading
  if -4 ≤ power ∧ power < 16 then positional digits power else scientific digits power

end Decimal

namespace Double

/-! ## 3. The fewest digits that read back -/

/-- Of the decimals with `count` digits around `n / d`, whose leading digit has the power `power`:
    the nearest, else one of its two neighbours, that passes the test. -/
def withDigits (test : Decimal → Bool) (n d : Nat) (power : Int) (count : Nat) : Option Decimal :=
  let exponent := power + 1 - count
  let num := if exponent < 0 then n * 10 ^ (-exponent).toNat else n
  let den := if exponent < 0 then d else d * 10 ^ exponent.toNat
  [roundHalfEven num den, num / den, num / den + 1].findSome? fun digits =>
    if test ⟨digits, exponent⟩ then some ⟨digits, exponent⟩ else none

theorem withDigits_test {test : Decimal → Bool} {n d : Nat} {power : Int} {count : Nat}
    {r : Decimal} (h : withDigits test n d power count = some r) : test r = true := by
  obtain ⟨digits, _, hd⟩ := List.exists_of_findSome?_eq_some h
  split at hd
  · next ht => cases hd; exact ht
  · cases hd

/-- All the digits of `m · 2^e · 2^-1074`, to the last place after the point that it may need. -/
def allDigits (m e : Nat) : Decimal := ⟨m * 2 ^ e * 5 ^ finestPlaces, -finestPlaces⟩

theorem toDouble_of_places (s : Bool) (n k : Nat) (hn : n ≠ 0) (hk : 3 * k ≤ n.log2 + 1076) :
    (Decimal.mk n (-k)).toDouble s = nearest s n (10 ^ k) := by
  unfold Decimal.toDouble
  have h1 : ¬ (400 : Int) < -k := by omega
  have h2 : ¬ (n.log2 : Int) + 1 + 3 * (-k) < -1075 := by omega
  simp only [hn, h1, h2, if_false]
  by_cases h0 : k = 0
  · subst h0; simp
  · have h3 : ¬ (0 : Int) ≤ -k := by omega
    simp only [h3, if_false, Int.neg_neg, Int.toNat_natCast]

theorem toDouble_allDigits (m e : Nat) (h : OnGrid m e) (hm : m ≠ 0) :
    (allDigits m e).toDouble false = .finite false m e h := by
  have h5 : 0 < 5 ^ finestPlaces := Nat.pow_pos (by decide)
  have hn : m * 2 ^ e * 5 ^ finestPlaces ≠ 0 :=
    Nat.mul_ne_zero (Nat.mul_ne_zero hm (Nat.ne_of_gt (Nat.two_pow_pos e))) (Nat.ne_of_gt h5)
  have hlog : 2 * finestPlaces ≤ (m * 2 ^ e * 5 ^ finestPlaces).log2 := by
    rw [Nat.le_log2 hn]
    calc 2 ^ (2 * finestPlaces) = 4 ^ finestPlaces := by
          rw [show (4 : Nat) = 2 ^ 2 from rfl, ← Nat.pow_mul]
      _ ≤ 5 ^ finestPlaces := Nat.pow_le_pow_left (by decide) _
      _ ≤ m * 2 ^ e * 5 ^ finestPlaces := Nat.le_mul_of_pos_left _
          (Nat.mul_pos (Nat.pos_of_ne_zero hm) (Nat.two_pow_pos e))
  have hten : 10 ^ finestPlaces = stepsPerOne * 5 ^ finestPlaces := by
    unfold stepsPerOne
    rw [← Nat.mul_pow]
  have hplaces : finestPlaces = 1074 := rfl
  have := toDouble_of_places false (m * 2 ^ e * 5 ^ finestPlaces) finestPlaces hn (by omega)
  rw [hten, nearest_mul_right _ _ _ _ h5, nearest_self] at this
  exact this

/-- The shortest decimal that reads as the positive double `m · 2^e · 2^-1074`. -/
def shortest (m e : Nat) (h : OnGrid m e) : Decimal :=
  let n := m * 2 ^ e
  let power := Decimal.leadingPower n stepsPerOne
  let readsBack := fun d : Decimal => d.toDouble false == .finite false m e h
  match (List.range 17).findSome? fun i => withDigits readsBack n stepsPerOne power (i + 1) with
  | some d => d
  | none => allDigits m e

/-- **The shortest decimal reads back.** -/
theorem toDouble_shortest (m e : Nat) (h : OnGrid m e) (hm : m ≠ 0) :
    (shortest m e h).toDouble false = .finite false m e h := by
  unfold shortest
  simp only
  split
  · next d hd =>
    obtain ⟨i, _, hi⟩ := List.exists_of_findSome?_eq_some hd
    exact eq_of_beq (withDigits_test hi)
  · exact toDouble_allDigits m e h hm

/-- The text of a double without its sign. -/
def magnitudeText : Double → List Char
  | .nan => ['n', 'a', 'n']
  | .infinity _ => ['i', 'n', 'f']
  | .finite _ m e h => if m = 0 then ['0', '.', '0'] else (shortest m e h).toText

/-- The double carries a minus sign. -/
def isNegative : Double → Bool
  | .nan => false
  | .infinity s => s
  | .finite s _ _ _ => s

/-- The text of a double. -/
def text (d : Double) : String :=
  .ofList (if d.isNegative then '-' :: d.magnitudeText else d.magnitudeText)

end Double

end VisualScale
