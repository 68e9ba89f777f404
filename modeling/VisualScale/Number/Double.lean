/-!
# Doubles, held exactly

A double is kept as what it means and not as a machine word: a sign, a significand `m` and a scale
`e`, for the number `m · 2^e · 2^-1074`. This file fixes the grid of doubles (`OnGrid`) and the one
rounding rule by which every number of the library becomes a double: to the nearest point of the
grid, and to the one with the even significand when two are equally near.

* `Double` -- not a number, the two infinities, and the points of the grid (both zeros included);
* `Double.nearest` -- the double nearest to a quotient of natural numbers; it leaves a point of the
  grid where it is (`nearest_self`);
* `Double.ofInt?` -- the double nearest to an integer, if it is finite.
-/

namespace VisualScale

-- A power of naturals is the core one here, whichever other powers a later file brings in.
attribute [local instance (2000)] instPowNat

/-! ## 1. The grid -/

/-- A significand and a scale in their one canonical form: 53 bits at most, and all 53 of them
    used unless the scale is the least one. -/
def OnGrid (significand scale : Nat) : Prop :=
  significand < 2 ^ (53 : Nat) ∧ scale ≤ 2045 ∧ (scale = 0 ∨ 2 ^ (52 : Nat) ≤ significand)

instance (m e : Nat) : Decidable (OnGrid m e) := by
  unfold OnGrid; infer_instance

theorem onGrid_zero : OnGrid 0 0 := by decide

/-- A double: `finite negative m e` stands for `± m · 2^e · 2^-1074`. -/
inductive Double where
  | nan
  | infinity (negative : Bool)
  | finite (negative : Bool) (significand scale : Nat) (onGrid : OnGrid significand scale)
  deriving DecidableEq

namespace Double

/-- The zero of a sign. -/
def zero (negative : Bool) : Double := .finite negative 0 0 onGrid_zero

instance : Inhabited Double := ⟨zero false⟩

/-- The double is a point of the grid. -/
def isFinite : Double → Bool
  | .finite _ _ _ _ => true
  | _ => false

/-- The double with the opposite sign. -/
def neg : Double → Double
  | .nan => .nan
  | .infinity s => .infinity (!s)
  | .finite s m e h => .finite (!s) m e h

@[simp] theorem neg_neg (d : Double) : d.neg.neg = d := by
  cases d <;> simp [neg]

@[simp] theorem isFinite_neg (d : Double) : d.neg.isFinite = d.isFinite := by
  cases d <;> rfl

/-! ## 2. Rounding -/

/-- The natural number nearest to `n / d`; the even one when two are equally near. -/
def roundHalfEven (n d : Nat) : Nat :=
  let q := n / d
  let r := n % d
  if 2 * r < d then q else if d < 2 * r then q + 1 else q + q % 2

/-- A whole quotient rounds to itself. -/
theorem roundHalfEven_mul (q d : Nat) (hd : 0 < d) : roundHalfEven (q * d) d = q := by
  simp [roundHalfEven, Nat.mul_div_cancel _ hd, hd]

/-- Rounding looks at the quotient alone. -/
theorem roundHalfEven_mul_right (n d c : Nat) (hc : 0 < c) :
    roundHalfEven (n * c) (d * c) = roundHalfEven n d := by
  unfold roundHalfEven
  simp only [Nat.mul_div_mul_right _ _ hc, Nat.mul_mod_mul_right, ← Nat.mul_assoc,
    Nat.mul_lt_mul_right hc]

/-- The double of significand `m` at scale `e`, where `m` may have reached `2^53`; past the grid
    lies infinity. -/
def ofRounded (negative : Bool) (m e : Nat) : Double :=
  let (m, e) := if m = 2 ^ (53 : Nat) then (2 ^ (52 : Nat), e + 1) else (m, e)
  if h : OnGrid m e then .finite negative m e h else .infinity negative

theorem ofRounded_onGrid (s : Bool) {m e : Nat} (h : OnGrid m e) :
    ofRounded s m e = .finite s m e h := by
  have hne : m ≠ 2 ^ (53 : Nat) := Nat.ne_of_lt h.1
  unfold ofRounded
  rw [if_neg hne]
  exact dif_pos h

/-- The binary places after the point that the least positive double needs. -/
def finestPlaces : Nat := 1074

/-- How many steps of the finest grid make one: the least positive double is `1 / stepsPerOne`. -/
def stepsPerOne : Nat := 2 ^ finestPlaces

theorem stepsPerOne_pos : 0 < stepsPerOne := by
  unfold stepsPerOne; exact Nat.two_pow_pos _

/-- The scale at which the quotient `n / d`, counted in the finest steps, has 53 bits. -/
def scaleOf (n d : Nat) : Nat := (n * stepsPerOne / d).log2 - 52

/-- The double nearest to `n / d`. -/
def nearest (negative : Bool) (n d : Nat) : Double :=
  let e := scaleOf n d
  ofRounded negative (roundHalfEven (n * stepsPerOne) (d * 2 ^ e)) e

/-- The double nearest to an integer, infinite when the integer is too large. -/
def ofInt (n : Int) : Double := nearest (n < 0) n.natAbs 1

/-- The double nearest to an integer, unless it lies past the largest one. -/
def ofInt? (n : Int) : Option Double :=
  let d := ofInt n
  if d.isFinite then some d else none

/-- The nearest double looks at the quotient alone. -/
theorem nearest_mul_right (s : Bool) (n d c : Nat) (hc : 0 < c) :
    nearest s (n * c) (d * c) = nearest s n d := by
  have hscale : scaleOf (n * c) (d * c) = scaleOf n d := by
    unfold scaleOf
    rw [Nat.mul_right_comm, Nat.mul_div_mul_right _ _ hc]
  unfold nearest
  simp only [hscale]
  rw [Nat.mul_right_comm n c, Nat.mul_right_comm d c, roundHalfEven_mul_right _ _ _ hc]

/-! ## 3. Points of the grid are left where they are -/

theorem log2_mul_two_pow {m : Nat} (h0 : m ≠ 0) (e : Nat) : (m * 2 ^ e).log2 = m.log2 + e := by
  have h1 : m * 2 ^ e ≠ 0 := Nat.mul_ne_zero h0 (Nat.ne_of_gt (Nat.two_pow_pos e))
  apply Nat.le_antisymm
  · have : (m * 2 ^ e).log2 < m.log2 + e + 1 := by
      rw [Nat.log2_lt h1]
      calc m * 2 ^ e < 2 ^ (m.log2 + 1) * 2 ^ e :=
            Nat.mul_lt_mul_of_pos_right Nat.lt_log2_self (Nat.two_pow_pos e)
        _ = 2 ^ (m.log2 + e + 1) := by rw [← Nat.pow_add]; congr 1; omega
    omega
  · rw [Nat.le_log2 h1, Nat.pow_add]
    exact Nat.mul_le_mul_right _ (Nat.log2_self_le h0)

theorem scaleOf_onGrid {m e : Nat} (h : OnGrid m e) : scaleOf (m * 2 ^ e) stepsPerOne = e := by
  obtain ⟨hm, _, hc⟩ := h
  unfold scaleOf
  rw [Nat.mul_div_cancel _ stepsPerOne_pos]
  by_cases h0 : m = 0
  · subst h0
    rcases hc with rfl | hc
    · simp
    · exact absurd hc (by decide)
  · have hlt : m.log2 < 53 := (Nat.log2_lt h0).2 hm
    rw [log2_mul_two_pow h0]
    rcases hc with rfl | hc
    · omega
    · have hge : 52 ≤ m.log2 := (Nat.le_log2 h0).2 hc
      omega

/-- A point of the grid is the double nearest to itself. -/
theorem nearest_self (s : Bool) (m e : Nat) (h : OnGrid m e) :
    nearest s (m * 2 ^ e) stepsPerOne = .finite s m e h := by
  have hr : roundHalfEven (m * 2 ^ e * stepsPerOne) (stepsPerOne * 2 ^ e) = m := by
    rw [Nat.mul_assoc, Nat.mul_comm (2 ^ e)]
    exact roundHalfEven_mul m _ (Nat.mul_pos stepsPerOne_pos (Nat.two_pow_pos e))
  unfold nearest
  simp only [scaleOf_onGrid h, hr]
  exact ofRounded_onGrid s h

end Double

end VisualScale
