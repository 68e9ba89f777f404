import Mathlib.Data.List.Basic
import Mathlib.Data.List.Induction
import Mathlib.Tactic.IntervalCases
import Mathlib.Tactic.Ring
import VisualScale.Number.Shortest

/-!
# Digits

The digits of a number write the number (`ofDigits_toDigits`), and no zero leads them unless the
number is zero. The digits of a decimal, without the zeros at their end, write it up to a power of
ten (`Decimal.exists_trimmedDigits`).
-/

namespace VisualScale

namespace Decimal

/-! ## 1. The number that digits write -/

/-- Every character is a digit of base ten. -/
def AllDigits (ds : List Char) : Prop := ∀ c ∈ ds, c.isDigit = true

theorem AllDigits.append {as bs : List Char} (h : AllDigits as) (h' : AllDigits bs) :
    AllDigits (as ++ bs) := fun c hc => (List.mem_append.mp hc).elim (h c) (h' c)

theorem allDigits_zeros (z : Nat) : AllDigits (List.replicate z '0') := by
  intro c hc
  rw [List.eq_of_mem_replicate hc]
  rfl

theorem allDigits_toDigits (n : Nat) : AllDigits (Nat.toDigits 10 n) :=
  fun _ => Nat.isDigit_of_mem_toDigits (by decide) (by decide)

theorem digitValue_of_isDigit {c : Char} (h : c.isDigit = true) :
    digitValue c = c.toNat - '0'.toNat := if_pos h

theorem ofDigits_append (as bs : List Char) :
    ofDigits 10 (as ++ bs) = ofDigits 10 as * 10 ^ bs.length + ofDigits 10 bs := by
  induction bs using List.reverseRecOn with
  | nil => rw [List.append_nil, List.length_nil, pow_zero, Nat.mul_one, ofDigits_nil, Nat.add_zero]
  | append_singleton bs c ih =>
    rw [← List.append_assoc, ofDigits_concat, ofDigits_concat, ih, List.length_append, pow_add,
      List.length_singleton]
    ring

theorem ofDigits_zeros (z : Nat) : ofDigits 10 (List.replicate z '0') = 0 := by
  induction z with
  | zero => rfl
  | succ z ih =>
    rw [List.replicate_succ', ofDigits_concat, ih]
    rfl

theorem ofDigits_zeros_append (z : Nat) (ds : List Char) :
    ofDigits 10 (List.replicate z '0' ++ ds) = ofDigits 10 ds := by
  rw [ofDigits_append, ofDigits_zeros, Nat.zero_mul, Nat.zero_add]

theorem ofDigits_append_zeros (ds : List Char) (z : Nat) :
    ofDigits 10 (ds ++ List.replicate z '0') = ofDigits 10 ds * 10 ^ z := by
  rw [ofDigits_append, ofDigits_zeros, List.length_replicate, Nat.add_zero]

/-- Digits are read here as they are read by the library. -/
theorem ofDigits_eq_ofDigitChars {ds : List Char} (h : AllDigits ds) :
    ofDigits 10 ds = Nat.ofDigitChars 10 ds 0 := by
  rw [ofDigits, Nat.ofDigitChars_eq_foldl]
  refine List.foldl_ext _ _ 0 fun n c hc => ?_
  rw [digitValue_of_isDigit (h c hc), Nat.mul_comm]

/-- **The digits of a number write it.** -/
theorem ofDigits_toDigits (n : Nat) : ofDigits 10 (Nat.toDigits 10 n) = n := by
  rw [ofDigits_eq_ofDigitChars (allDigits_toDigits n), Nat.ofDigitChars_ten_toDigits]

/-! ## 2. The first digit -/

/-- Digits of which the first one is not zero. -/
structure Leading (ds : List Char) : Prop where
  digits : AllDigits ds
  nonempty : ds ≠ []
  first : ds.head? ≠ some '0'

theorem digitChar_ne_zero {n : Nat} (h : n < 10) (h0 : n ≠ 0) : Nat.digitChar n ≠ '0' := by
  interval_cases n
  · exact absurd rfl h0
  all_goals decide

theorem leading_toDigits {n : Nat} (h : n ≠ 0) : Leading (Nat.toDigits 10 n) := by
  refine ⟨allDigits_toDigits n, Nat.toDigits_ne_nil, ?_⟩
  induction n using Nat.strongRecOn with
  | ind n ih =>
    by_cases hn : n < 10
    · rw [Nat.toDigits_of_lt_base hn]
      exact fun h' => digitChar_ne_zero hn h (Option.some.inj h')
    · have hn : 10 ≤ n := Nat.le_of_not_lt hn
      rw [Nat.toDigits_of_base_le (by decide) hn, List.head?_append_of_ne_nil _ Nat.toDigits_ne_nil]
      exact ih (n / 10) (Nat.div_lt_self (by omega) (by decide)) (by omega)

/-- No zero leads what begins with digits that no zero leads. -/
theorem Leading.append {ds es : List Char} (h : Leading ds) (he : AllDigits es) :
    Leading (ds ++ es) := by
  refine ⟨h.digits.append he, List.append_ne_nil_of_left_ne_nil h.nonempty _, ?_⟩
  rw [List.head?_append_of_ne_nil _ h.nonempty]
  exact h.first

theorem Leading.take {ds : List Char} (h : Leading ds) (k : Nat) : Leading (ds.take (k + 1)) := by
  cases ds with
  | nil => exact absurd rfl h.nonempty
  | cons d ds =>
    refine ⟨fun c hc => h.digits c (List.mem_of_mem_take hc), ?_, h.first⟩
    rw [List.take_succ_cons]
    exact List.cons_ne_nil _ _

/-- Digits that no zero leads do not write zero. -/
theorem Leading.ofDigits_ne_zero {ds : List Char} (h : Leading ds) : ofDigits 10 ds ≠ 0 := by
  obtain ⟨hd, hne, hfirst⟩ := h
  cases ds with
  | nil => exact absurd rfl hne
  | cons c ds =>
    have hc := hd c List.mem_cons_self
    have hvalue : digitValue c ≠ 0 := by
      rw [digitValue_of_isDigit hc]
      have hrange : '0'.toNat ≤ c.toNat ∧ c.toNat ≤ '9'.toNat := by
        simpa [Char.isDigit, UInt32.le_iff_toNat_le] using hc
      have hzero : c.toNat ≠ '0'.toNat := fun h0 => hfirst (congrArg some (Char.toNat_inj.mp h0))
      omega
    have hone : ofDigits 10 [c] = digitValue c := Nat.zero_add _
    have hsplit := ofDigits_append [c] ds
    rw [hone] at hsplit
    rw [List.singleton_append] at hsplit
    rw [hsplit]
    have : 0 < digitValue c * 10 ^ ds.length :=
      Nat.mul_pos (Nat.pos_of_ne_zero hvalue) (Nat.pow_pos (by decide))
    omega

/-! ## 3. Zeros at the end -/

/-- Digits end in zeros, and these are all that is taken away. -/
theorem exists_zeros (ds : List Char) :
    ∃ z, ds = (ds.reverse.dropWhile (· = '0')).reverse ++ List.replicate z '0' := by
  induction ds using List.reverseRecOn with
  | nil => exact ⟨0, rfl⟩
  | append_singleton ds c ih =>
    rw [List.reverse_append, List.reverse_singleton, List.singleton_append]
    by_cases hc : c = '0'
    · subst hc
      obtain ⟨z, hz⟩ := ih
      refine ⟨z + 1, ?_⟩
      rw [List.replicate_succ', ← List.append_assoc]
      exact congrArg (· ++ ['0']) hz
    · refine ⟨0, ?_⟩
      rw [List.dropWhile_cons_of_neg (by simpa using hc), List.reverse_cons, List.reverse_reverse]
      exact (List.append_nil _).symm

/-- The digits of a decimal are its trimmed ones and zeros. -/
theorem exists_trimmedDigits {d : Decimal} (h : d.digits ≠ 0) :
    ∃ z, Nat.toDigits 10 d.digits = d.trimmedDigits ++ List.replicate z '0' ∧
      Leading d.trimmedDigits := by
  have hlead := leading_toDigits h
  obtain ⟨z, hz⟩ := exists_zeros (Nat.toDigits 10 d.digits)
  have hne : ((Nat.toDigits 10 d.digits).reverse.dropWhile (· = '0')).reverse ≠ [] := by
    intro hnil
    rw [hnil, List.nil_append] at hz
    cases z with
    | zero => exact hlead.nonempty hz
    | succ z =>
      refine hlead.first ?_
      rw [hz]
      rfl
  have htrim : d.trimmedDigits = ((Nat.toDigits 10 d.digits).reverse.dropWhile (· = '0')).reverse :=
    if_neg hne
  rw [← htrim] at hz hne
  refine ⟨z, hz, fun c hc => ?_, hne, ?_⟩
  · refine hlead.digits c ?_
    rw [hz]
    exact List.mem_append_left _ hc
  · intro hfirst
    refine hlead.first ?_
    rw [hz, List.head?_append_of_ne_nil _ hne]
    exact hfirst

end Decimal

end VisualScale
