import Mathlib.Tactic.Ring
import VisualScale.Number.Shortest

/-!
# Which double a number becomes

The double nearest to a quotient depends on the quotient alone (`nearest_congr`), is infinite past
the largest double and zero beneath half the least one, and has the sign that it is given.

Hence the tests by which a decimal of great or small power is settled beforehand change nothing
(`Decimal.toDouble_eq_nearest`), and zeros at the end of the digits can be counted as a power of ten
instead (`Decimal.toDouble_mul_ten_pow`).
-/

namespace VisualScale

namespace Double

/-! ## 1. Great and small quotients -/

theorem eight_pow_le_ten_pow (k : Nat) : 2 ^ (3 * k) ≤ 10 ^ k := by
  rw [Nat.pow_mul]
  exact Nat.pow_le_pow_left (by decide) k

/-- Two spellings of one quotient have one nearest double. -/
theorem nearest_congr (s : Bool) {n d n' d' : Nat} (hd : 0 < d) (hd' : 0 < d')
    (h : n * d' = n' * d) : nearest s n d = nearest s n' d' := by
  rw [← nearest_mul_right s n d d' hd', h, Nat.mul_comm d, nearest_mul_right s n' d' d hd]

theorem ofRounded_of_lt (s : Bool) {m e : Nat} (h : 2045 < e) : ofRounded s m e = .infinity s := by
  have hgrid (m' e' : Nat) (h' : 2045 < e') : ¬ OnGrid m' e' :=
    fun hg => Nat.not_le_of_lt h' hg.2.1
  unfold ofRounded
  by_cases hm : m = 2 ^ 53
  · rw [if_pos hm]
    exact dif_neg (hgrid _ _ (Nat.lt_succ_of_lt h))
  · rw [if_neg hm]
    exact dif_neg (hgrid _ _ h)

/-- Past the largest double lies infinity. -/
theorem nearest_of_le (s : Bool) {n d k : Nat} (hd : 0 < d) (hk : 1024 ≤ k) (h : d * 2 ^ k ≤ n) :
    nearest s n d = .infinity s := by
  refine ofRounded_of_lt s ?_
  have hq : 2 ^ (k + finestPlaces) ≤ n * stepsPerOne / d := by
    rw [Nat.le_div_iff_mul_le hd, Nat.pow_add, Nat.mul_comm _ d, ← Nat.mul_assoc]
    exact Nat.mul_le_mul_right _ h
  have hlog : k + finestPlaces ≤ (n * stepsPerOne / d).log2 :=
    (Nat.le_log2 (Nat.ne_of_gt (Nat.lt_of_lt_of_le (Nat.two_pow_pos _) hq))).2 hq
  have hplaces : finestPlaces = 1074 := rfl
  unfold scaleOf
  omega

/-- Beneath half the least double lies zero. -/
theorem nearest_of_lt (s : Bool) {n d : Nat} (h : 2 * (n * stepsPerOne) < d) :
    nearest s n d = .zero s := by
  have hlt : n * stepsPerOne < d := by omega
  have hscale : scaleOf n d = 0 := by
    unfold scaleOf
    rw [Nat.div_eq_of_lt hlt]
    rfl
  have hround : roundHalfEven (n * stepsPerOne) (d * 2 ^ 0) = 0 := by
    unfold roundHalfEven
    rw [pow_zero, Nat.mul_one, Nat.mod_eq_of_lt hlt, Nat.div_eq_of_lt hlt]
    exact if_pos h
  unfold nearest
  rw [hscale]
  show ofRounded s (roundHalfEven (n * stepsPerOne) (d * 2 ^ 0)) 0 = _
  rw [hround]
  exact ofRounded_onGrid s onGrid_zero

/-! ## 2. Signs -/

/-- Whether a rounded significand is a point of the grid does not depend on the sign. -/
theorem ofRounded_cases (m e : Nat) :
    (∃ (m' e' : Nat) (h : OnGrid m' e'), ∀ s, ofRounded s m e = .finite s m' e' h) ∨
      ∀ s, ofRounded s m e = .infinity s := by
  unfold ofRounded
  dsimp only
  generalize (if m = 2 ^ 53 then (2 ^ 52, e + 1) else (m, e)) = r
  by_cases h : OnGrid r.1 r.2
  · exact .inl ⟨r.1, r.2, h, fun s => dif_pos h⟩
  · exact .inr fun s => dif_neg h

theorem neg_ofRounded (s : Bool) (m e : Nat) : (ofRounded s m e).neg = ofRounded (!s) m e := by
  rcases ofRounded_cases m e with ⟨m', e', h, heq⟩ | heq
  · rw [heq, heq]
    rfl
  · rw [heq, heq]
    rfl

theorem isNegative_ofRounded (s : Bool) (m e : Nat) : (ofRounded s m e).isNegative = s := by
  rcases ofRounded_cases m e with ⟨m', e', h, heq⟩ | heq
  · rw [heq]
    rfl
  · rw [heq]
    rfl

theorem neg_nearest (s : Bool) (n d : Nat) : (nearest s n d).neg = nearest (!s) n d :=
  neg_ofRounded s _ _

theorem isNegative_nearest (s : Bool) (n d : Nat) : (nearest s n d).isNegative = s :=
  isNegative_ofRounded s _ _

/-! ## 3. Integers -/

theorem isNegative_ofInt (n : Int) : (ofInt n).isNegative = decide (n < 0) :=
  isNegative_nearest _ _ _

theorem ofInt_natAbs (n : Int) : ofInt n.natAbs = nearest false n.natAbs 1 := by
  unfold ofInt
  rw [decide_eq_false (Int.not_lt.2 (Int.natCast_nonneg _)), Int.natAbs_natCast]

/-- An integer without its sign is the double without its sign. -/
theorem ofInt_natAbs_of_neg {n : Int} (h : n < 0) : ofInt n.natAbs = (ofInt n).neg := by
  rw [ofInt_natAbs]
  unfold ofInt
  rw [decide_eq_true h, neg_nearest]
  rfl

theorem ofInt_natAbs_of_nonneg {n : Int} (h : 0 ≤ n) : ofInt n.natAbs = ofInt n := by
  rw [Int.natAbs_of_nonneg h]

theorem ofInt?_of_isFinite {n : Int} (h : (ofInt n).isFinite = true) :
    ofInt? n = some (ofInt n) := if_pos h

theorem isFinite_ofInt_natAbs (n : Int) : (ofInt n.natAbs).isFinite = (ofInt n).isFinite := by
  rcases Int.lt_or_le n 0 with h | h
  · rw [ofInt_natAbs_of_neg h, isFinite_neg]
  · rw [ofInt_natAbs_of_nonneg h]

/-- An integer that becomes a finite double is no larger than these are. -/
theorem natAbs_lt_of_isFinite {n : Int} (h : (ofInt n).isFinite = true) {k : Nat}
    (hk : 1024 ≤ 3 * k) : n.natAbs < 10 ^ k := by
  refine Nat.lt_of_lt_of_le (Nat.lt_of_not_le fun hle => ?_) (eight_pow_le_ten_pow k)
  unfold ofInt at h
  rw [nearest_of_le _ Nat.one_pos hk (by rwa [Nat.one_mul])] at h
  cases h

end Double

namespace Decimal

open Double

/-! ## 4. Decimals -/

/-- A decimal of great power is infinite. -/
theorem nearest_of_great_power (s : Bool) {n : Nat} (hn : n ≠ 0) {e : Int} (he : 400 < e) :
    nearest s (n * 10 ^ e.toNat) (10 ^ (-e).toNat) = .infinity s := by
  have hd : (-e).toNat = 0 := by omega
  refine nearest_of_le s (k := 3 * e.toNat) (Nat.pow_pos (by decide)) (by omega) ?_
  rw [hd, pow_zero, Nat.one_mul]
  exact Nat.le_trans (eight_pow_le_ten_pow _) (Nat.le_mul_of_pos_left _ (Nat.pos_of_ne_zero hn))

/-- A decimal of small power is zero. -/
theorem nearest_of_small_power (s : Bool) {n : Nat} {e : Int}
    (he : (n.log2 : Int) + 1 + 3 * e < -1075) :
    nearest s (n * 10 ^ e.toNat) (10 ^ (-e).toNat) = .zero s := by
  have hm : e.toNat = 0 := by omega
  have hplaces : finestPlaces = 1074 := rfl
  refine nearest_of_lt s ?_
  rw [hm, pow_zero, Nat.mul_one]
  calc 2 * (n * stepsPerOne) < 2 * (2 ^ (n.log2 + 1) * stepsPerOne) :=
        Nat.mul_lt_mul_of_pos_left
          (Nat.mul_lt_mul_of_pos_right Nat.lt_log2_self stepsPerOne_pos) (by decide)
    _ = 2 ^ (n.log2 + 2 + finestPlaces) := by unfold stepsPerOne; ring
    _ ≤ 2 ^ (3 * (-e).toNat) := Nat.pow_le_pow_right (by decide) (by omega)
    _ ≤ 10 ^ (-e).toNat := eight_pow_le_ten_pow _

/-- The double of a decimal is the one nearest to its quotient. -/
theorem toDouble_eq_nearest (s : Bool) {n : Nat} (hn : n ≠ 0) (e : Int) :
    (Decimal.mk n e).toDouble s = nearest s (n * 10 ^ e.toNat) (10 ^ (-e).toNat) := by
  unfold toDouble
  dsimp only
  rw [if_neg hn]
  by_cases hgreat : 400 < e
  · rw [if_pos hgreat, nearest_of_great_power s hn hgreat]
  rw [if_neg hgreat]
  by_cases hsmall : (n.log2 : Int) + 1 + 3 * e < -1075
  · rw [if_pos hsmall, nearest_of_small_power s hsmall]
  rw [if_neg hsmall]
  by_cases he : 0 ≤ e
  · have hd : (-e).toNat = 0 := by omega
    rw [if_pos he, hd, pow_zero]
  · have hm : e.toNat = 0 := by omega
    rw [if_neg he, hm, pow_zero, Nat.mul_one]

/-- The sign of a decimal is the sign of its double. -/
theorem neg_toDouble (s : Bool) (d : Decimal) : (d.toDouble s).neg = d.toDouble (!s) := by
  by_cases hn : d.digits = 0
  · unfold toDouble
    rw [if_pos hn, if_pos hn]
    rfl
  · rw [toDouble_eq_nearest s hn, toDouble_eq_nearest (!s) hn, neg_nearest]

/-- **Zeros at the end of the digits are a power of ten.** -/
theorem toDouble_mul_ten_pow (s : Bool) {n : Nat} (hn : n ≠ 0) (z : Nat) (e : Int) :
    (Decimal.mk (n * 10 ^ z) e).toDouble s = (Decimal.mk n (e + z)).toDouble s := by
  have hn' : n * 10 ^ z ≠ 0 := Nat.mul_ne_zero hn (Nat.ne_of_gt (Nat.pow_pos (by decide)))
  rw [toDouble_eq_nearest s hn', toDouble_eq_nearest s hn]
  refine nearest_congr s (Nat.pow_pos (by decide)) (Nat.pow_pos (by decide)) ?_
  have hpowers : z + e.toNat + (-(e + z)).toNat = (e + z).toNat + (-e).toNat := by omega
  calc n * 10 ^ z * 10 ^ e.toNat * 10 ^ (-(e + z)).toNat
      = n * 10 ^ (z + e.toNat + (-(e + z)).toNat) := by ring
    _ = n * 10 ^ ((e + z).toNat + (-e).toNat) := by rw [hpowers]
    _ = n * 10 ^ (e + z).toNat * 10 ^ (-e).toNat := by ring

end Decimal

end VisualScale
