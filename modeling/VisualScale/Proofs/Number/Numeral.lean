import VisualScale.Formula.Numeral
import VisualScale.Proofs.Number.Digits
import VisualScale.Proofs.Number.Rounding

/-!
# The text of a number is read as the number

Where no letter, digit or point follows, the digits of a whole number are read as that number
(`scan_toDigits`), and the text of a double, without its sign, as that double
(`scan_magnitudeText`): in its positional form (`scan_positional`) and in the form with a power of
ten (`scan_scientific`).
-/

namespace VisualScale

open Decimal

namespace Numeral

/-- No letter, digit or point stands at the start of a text. -/
def Ends (cs : List Char) : Prop := ∀ c ∈ cs.head?, isWordChar c = false ∧ c ≠ '.'

theorem isWordChar_of_isDigit {c : Char} (h : c.isDigit = true) : isWordChar c = true := by
  unfold isWordChar Char.isAlphanum
  rw [h, Bool.or_true, Bool.true_or, Bool.true_or]

/-! ## 1. Runs of digits -/

/-- Neither a digit nor an underscore stands at the start of a text. -/
def NoDigit (cs : List Char) : Prop := ∀ c ∈ cs.head?, c.isDigit = false ∧ c ≠ '_'

theorem NoDigit.of_cons {c : Char} {cs : List Char} (h : c.isDigit = false) (h' : c ≠ '_') :
    NoDigit (c :: cs) := by
  intro d hd
  obtain rfl := Option.some.inj hd
  exact ⟨h, h'⟩

theorem Ends.noDigit {cs : List Char} (h : Ends cs) : NoDigit cs := by
  intro c hc
  refine ⟨?_, ?_⟩
  · by_contra hd
    exact absurd ((h c hc).1.symm.trans (isWordChar_of_isDigit (by simpa using hd))) (by decide)
  · intro heq
    subst heq
    exact absurd (h _ hc).1 (by decide)

theorem digitRun_of_noDigit {cs : List Char} (h : NoDigit cs) :
    digitRun Char.isDigit cs = some ([], cs) := by
  unfold digitRun
  split
  · rfl
  · exact absurd rfl (h '_' rfl).2
  · exact absurd rfl (h '_' rfl).2
  · next c rest _ _ => rw [(h c rfl).1]; rfl

theorem digitRun_cons {c : Char} (h : c.isDigit = true) (cs : List Char) :
    digitRun Char.isDigit (c :: cs) =
      (digitRun Char.isDigit cs).map fun (ds, rest) => (c :: ds, rest) := by
  have hc : c ≠ '_' := by
    intro heq
    subst heq
    cases h
  conv_lhs => unfold digitRun
  split
  · next heq => cases heq
  · next heq => cases heq; exact absurd rfl hc
  · next heq => cases heq; exact absurd rfl hc
  · next heq =>
    cases heq
    rw [if_pos h]

theorem digitRun_append {ds rest : List Char} (hd : AllDigits ds) (h : NoDigit rest) :
    digitRun Char.isDigit (ds ++ rest) = some (ds, rest) := by
  induction ds with
  | nil => exact digitRun_of_noDigit h
  | cons c ds ih =>
    rw [List.cons_append, digitRun_cons (hd c List.mem_cons_self),
      ih fun d hm => hd d (List.mem_cons_of_mem _ hm)]
    rfl

theorem head?_any_isDigit {ds : List Char} (hd : AllDigits ds) (hne : ds ≠ []) (rest : List Char) :
    (ds ++ rest).head?.any Char.isDigit = true := by
  cases ds with
  | nil => exact absurd rfl hne
  | cons c ds => exact hd c List.mem_cons_self

theorem decimalRun_append {ds rest : List Char} (hd : AllDigits ds) (hne : ds ≠ [])
    (h : NoDigit rest) : decimalRun (ds ++ rest) = some (ds, rest) := by
  unfold decimalRun
  rw [if_pos (head?_any_isDigit hd hne rest), digitRun_append hd h]

/-! ## 2. Where a number ends -/

theorem mayEnd_of_ends {cs : List Char} (h : Ends cs) : mayEnd cs = true := by
  unfold mayEnd
  cases cs with
  | nil => rfl
  | cons c cs =>
    show (_ || !(isWordChar c)) = true
    rw [(h c rfl).1]
    exact Bool.or_true _

theorem closed_of_ends (l : Option Lexeme) {rest : List Char} (h : Ends rest) :
    closed l rest = l.map (·, rest) := by
  cases rest with
  | nil => rfl
  | cons c more =>
    have hj : ¬ (c = 'j' ∨ c = 'J') := by
      intro hj
      rcases hj with rfl | rfl
      all_goals exact absurd (h _ rfl).1 (by decide)
    unfold closed
    dsimp only
    rw [if_neg hj, mayEnd_of_ends h, if_pos rfl]

theorem finished_of_ends (p : Parts) {rest : List Char} (h : Ends rest) :
    finished p rest = (p.number? false).map (·, rest) := by
  cases rest with
  | nil => rfl
  | cons c more =>
    have he : ¬ (c = 'e' ∨ c = 'E') := by
      intro he
      rcases he with rfl | rfl
      all_goals exact absurd (h _ rfl).1 (by decide)
    unfold finished
    dsimp only
    rw [if_neg he, closed_of_ends _ h]

/-! ## 3. Whole parts, fractions and powers of ten -/

/-- No letter of a base stands at the start of a text. -/
def NoBase (cs : List Char) : Prop := ∀ c ∈ cs.head?, c ∉ ['x', 'X', 'o', 'O', 'b', 'B']

theorem NoBase.of_cons {c : Char} {cs : List Char} (h : c ∉ ['x', 'X', 'o', 'O', 'b', 'B']) :
    NoBase (c :: cs) := by
  intro d hd
  obtain rfl := Option.some.inj hd
  exact h

theorem NoBase.of_isDigit {c : Char} {cs : List Char} (h : c.isDigit = true) :
    NoBase (c :: cs) := by
  refine .of_cons fun hc => ?_
  simp only [List.mem_cons, List.not_mem_nil, or_false] at hc
  rcases hc with rfl | rfl | rfl | rfl | rfl | rfl
  all_goals cases h

theorem Ends.noBase {rest : List Char} (h : Ends rest) : NoBase rest := by
  intro c hc hm
  have hw := (h c hc).1
  simp only [List.mem_cons, List.not_mem_nil, or_false] at hm
  rcases hm with rfl | rfl | rfl | rfl | rfl | rfl
  all_goals exact absurd hw (by decide)

theorem scan_eq_inBaseTen {cs : List Char} (h : NoBase cs.tail) : scan cs = inBaseTen cs := by
  unfold scan
  split
  · next c rest =>
    have hc := h c rfl
    rw [if_neg fun hx => hc (by rcases hx with rfl | rfl <;> decide),
      if_neg fun hx => hc (by rcases hx with rfl | rfl <;> decide),
      if_neg fun hx => hc (by rcases hx with rfl | rfl <;> decide)]
  · rfl

theorem inBaseTen_whole {ds rest : List Char} (hd : AllDigits ds) (hne : ds ≠ [])
    (hrest : NoDigit rest) (hpoint : '.' ∉ rest.head?) :
    inBaseTen (ds ++ rest) = finished ⟨ds, false, []⟩ rest := by
  unfold inBaseTen
  rw [decimalRun_append hd hne hrest]
  dsimp only [Option.bind_eq_bind, Option.bind_some]
  split
  · exact absurd rfl hpoint
  · rfl

theorem inBaseTen_point {ds fs rest : List Char} (hd : AllDigits ds) (hne : ds ≠ [])
    (hf : AllDigits fs) (hne' : fs ≠ []) (hrest : NoDigit rest) :
    inBaseTen (ds ++ '.' :: (fs ++ rest)) = finished ⟨ds, true, fs⟩ rest := by
  unfold inBaseTen
  rw [decimalRun_append hd hne (.of_cons rfl (by decide))]
  show (decimalRun (fs ++ rest) >>= _) = _
  rw [decimalRun_append hf hne' hrest]
  rfl

/-- Digits are read in base ten, if no letter of a base stands behind them. -/
theorem scan_digits {ds rest : List Char} (hd : AllDigits ds) (hne : ds ≠ []) (h : NoBase rest) :
    scan (ds ++ rest) = inBaseTen (ds ++ rest) := by
  refine scan_eq_inBaseTen ?_
  match ds, hne with
  | [_], _ => exact h
  | _ :: d :: _, _ => exact .of_isDigit (hd d (List.mem_cons_of_mem _ List.mem_cons_self))

/-! ## 4. Whole numbers -/

/-- **The digits of a whole number are read as it**, as long as there are not too many. -/
theorem scan_toDigits {n : Nat} (hn : (Nat.toDigits 10 n).length ≤ maxWholeDigits)
    {rest : List Char} (h : Ends rest) :
    scan (Nat.toDigits 10 n ++ rest) = some (.whole n, rest) := by
  have hd := allDigits_toDigits n
  rw [scan_digits hd Nat.toDigits_ne_nil h.noBase,
    inBaseTen_whole hd Nat.toDigits_ne_nil h.noDigit fun hp => (h _ hp).2 rfl,
    finished_of_ends _ h]
  have hled : Parts.ledByZero ⟨Nat.toDigits 10 n, false, []⟩ = false := by
    by_cases h0 : n = 0
    · subst h0
      rfl
    · have hfirst := (leading_toDigits h0).first
      show (((Nat.toDigits 10 n).head? == some '0') && _) = false
      rw [beq_eq_false_iff_ne.2 hfirst, Bool.false_and]
  unfold Parts.number?
  rw [if_neg Bool.false_ne_true, hled, if_neg Bool.false_ne_true]
  dsimp only
  rw [ofDigits_toDigits, if_neg fun hlong => Nat.not_lt.2 hn hlong.2]
  rfl

/-! ## 5. Decimals -/

/-- The double that digits write, when the first of them stands for a power of ten. -/
def doubleOf (ds : List Char) (power : Int) : Double :=
  (Decimal.mk (ofDigits 10 ds) (power + 1 - ds.length)).toDouble false

theorem scan_fraction {ds fs rest : List Char} (hd : AllDigits ds) (hne : ds ≠ [])
    (hf : AllDigits fs) (hne' : fs ≠ []) (h : Ends rest) :
    scan (ds ++ '.' :: (fs ++ rest)) =
      some (.real ((Decimal.ofParts ds fs 0).toDouble false), rest) := by
  have hpoint : NoBase ('.' :: (fs ++ rest)) := .of_cons (by decide)
  rw [scan_digits hd hne hpoint, inBaseTen_point hd hne hf hne' h.noDigit, finished_of_ends _ h]
  rfl

/-- A zero, the point, and zeros before the digits. -/
theorem toDouble_below_one {ds : List Char} (z : Nat) :
    (ofParts ['0'] (List.replicate z '0' ++ ds) 0).toDouble false = doubleOf ds (-z - 1) := by
  have hexp : (0 : Int) - (List.replicate z '0' ++ ds).length = -z - 1 + 1 - ds.length := by
    rw [List.length_append, List.length_replicate]
    omega
  unfold ofParts doubleOf
  rw [ofDigits_append, ofDigits_zeros_append, hexp, show ofDigits 10 ['0'] = 0 from rfl,
    Nat.zero_mul, Nat.zero_add]

/-- Zeros behind the digits, the point, and a zero. -/
theorem toDouble_whole_float {ds : List Char} (hl : Leading ds) (z : Nat) :
    (ofParts (ds ++ List.replicate z '0') ['0'] 0).toDouble false =
      doubleOf ds (ds.length + z - 1) := by
  have hexp : (0 : Int) - (['0'] : List Char).length + (z + 1 : Nat) =
      ds.length + z - 1 + 1 - ds.length := by
    rw [List.length_singleton]
    omega
  unfold ofParts doubleOf
  rw [List.append_assoc, ← List.replicate_succ', ofDigits_append_zeros,
    toDouble_mul_ten_pow false hl.ofDigits_ne_zero, hexp]

/-- The point between digits. -/
theorem toDouble_between {ds : List Char} {k : Nat} (hk : k + 1 < ds.length) :
    (ofParts (ds.take (k + 1)) (ds.drop (k + 1)) 0).toDouble false = doubleOf ds k := by
  have hexp : (0 : Int) - (ds.drop (k + 1)).length = k + 1 - ds.length := by
    rw [List.length_drop]
    omega
  unfold ofParts doubleOf
  rw [List.take_append_drop, hexp]

/-- **The parts of the positional form**: a zero or digits that no zero leads, the point, and a
    fraction. They write the double that the digits write. -/
theorem exists_positional {ds : List Char} (hl : Leading ds) (power : Int) :
    ∃ whole fraction, positional ds power = whole ++ '.' :: fraction ∧
      (whole = ['0'] ∨ Leading whole) ∧ AllDigits fraction ∧ fraction ≠ [] ∧
      (ofParts whole fraction 0).toDouble false = doubleOf ds power := by
  unfold positional
  dsimp only
  by_cases hp : power < 0
  · rw [if_pos hp]
    refine ⟨['0'], _, rfl, .inl rfl, (allDigits_zeros _).append hl.digits,
      List.append_ne_nil_of_right_ne_nil _ hl.nonempty, (toDouble_below_one _).trans ?_⟩
    rw [show -((-power - 1).toNat : Int) - 1 = power by omega]
  rw [if_neg hp]
  by_cases hshort : ds.length ≤ power.toNat + 1
  · rw [List.drop_of_length_le hshort, List.take_of_length_le hshort, if_pos rfl]
    refine ⟨_, ['0'], rfl, .inr (hl.append (allDigits_zeros _)), allDigits_zeros 1,
      List.cons_ne_nil _ _, (toDouble_whole_float hl _).trans ?_⟩
    rw [show (ds.length + (power.toNat + 1 - ds.length : Nat) - 1 : Int) = power by omega]
  · have hlong : power.toNat + 1 < ds.length := Nat.lt_of_not_le hshort
    have hne : ds.drop (power.toNat + 1) ≠ [] :=
      List.ne_nil_of_length_pos (by rw [List.length_drop]; omega)
    rw [Nat.sub_eq_zero_of_le (Nat.le_of_lt hlong), List.replicate_zero, List.append_nil,
      if_neg hne]
    refine ⟨_, _, rfl, .inr (hl.take _), fun c hc => hl.digits c (List.mem_of_mem_drop hc), hne,
      (toDouble_between hlong).trans ?_⟩
    rw [show (power.toNat : Int) = power by omega]

/-- Digits that a zero is, or that no zero leads, are digits, and there are some. -/
theorem allDigits_whole {whole : List Char} (h : whole = ['0'] ∨ Leading whole) :
    AllDigits whole ∧ whole ≠ [] := by
  rcases h with rfl | h
  · exact ⟨allDigits_zeros 1, List.cons_ne_nil _ _⟩
  · exact ⟨h.digits, h.nonempty⟩

/-- **The positional form is read as the double that it writes.** -/
theorem scan_positional {ds rest : List Char} (hl : Leading ds) (power : Int) (h : Ends rest) :
    scan (positional ds power ++ rest) = some (.real (doubleOf ds power), rest) := by
  obtain ⟨whole, fraction, hparts, hwhole, hf, hne', hdouble⟩ := exists_positional hl power
  obtain ⟨hd, hne⟩ := allDigits_whole hwhole
  rw [hparts, List.append_assoc, ← hdouble]
  exact scan_fraction hd hne hf hne' h

/-! ## 6. Powers of ten -/

theorem powerRun_sign {ds rest : List Char} (hd : AllDigits ds) (hne : ds ≠ []) (h : NoDigit rest)
    {power : Int} (hvalue : ofDigits 10 ds = power.natAbs) :
    powerRun ((if power < 0 then '-' else '+') :: (ds ++ rest)) = some (some (power, rest)) := by
  have hany := head?_any_isDigit hd hne rest
  by_cases hp : power < 0
  · rw [if_pos hp]
    show (if (ds ++ rest).head?.any Char.isDigit = true then _ else none) = _
    rw [if_pos hany, digitRun_append hd h]
    show some (some (-((ofDigits 10 ds : Nat) : Int), rest)) = _
    rw [hvalue, show -(power.natAbs : Int) = power by omega]
  · rw [if_neg hp]
    show (if (ds ++ rest).head?.any Char.isDigit = true then _ else none) = _
    rw [if_pos hany, digitRun_append hd h]
    show some (some (((ofDigits 10 ds : Nat) : Int), rest)) = _
    rw [hvalue, show (power.natAbs : Int) = power by omega]

/-- The digits of a power of ten, behind its letter and its sign, write it without the sign. -/
theorem exists_powerText (power : Int) :
    ∃ ds, powerText power = 'e' :: (if power < 0 then '-' else '+') :: ds ∧ AllDigits ds ∧
      ds ≠ [] ∧ ofDigits 10 ds = power.natAbs := by
  refine ⟨_, rfl, (allDigits_zeros _).append (allDigits_toDigits _),
    List.append_ne_nil_of_right_ne_nil _ Nat.toDigits_ne_nil, ?_⟩
  rw [ofDigits_zeros_append, ofDigits_toDigits]

theorem finished_powerText (p : Parts) (power : Int) {rest : List Char} (h : Ends rest) :
    finished p (powerText power ++ rest) = some (p.real power, rest) := by
  obtain ⟨ds, hds, hd, hne, hvalue⟩ := exists_powerText power
  have hrun := powerRun_sign hd hne h.noDigit hvalue
  rw [hds]
  unfold finished
  show (ite ('e' = 'e' ∨ 'e' = 'E') _ _ : Option (Lexeme × List Char)) = _
  rw [if_pos (.inl rfl)]
  show (powerRun ((if power < 0 then '-' else '+') :: (ds ++ rest)) >>= _) = _
  rw [hrun]
  exact closed_of_ends _ h

/-- One digit, a fraction or none, and a power of ten. -/
theorem toDouble_scientific (d : Char) (fraction : List Char) (power : Int) :
    (ofParts [d] fraction power).toDouble false = doubleOf (d :: fraction) power := by
  have hexp : power - fraction.length = power + 1 - (d :: fraction).length := by
    rw [List.length_cons]
    omega
  unfold ofParts doubleOf
  rw [List.singleton_append, hexp]

/-- **The form with a power of ten is read as the double that it writes.** -/
theorem scan_scientific {ds rest : List Char} (hl : Leading ds) (power : Int) (h : Ends rest) :
    scan (scientific ds power ++ rest) = some (.real (doubleOf ds power), rest) := by
  have hstart : NoDigit (powerText power ++ rest) := .of_cons rfl (by decide)
  match ds, hl with
  | [], hl => exact absurd rfl hl.nonempty
  | [d], hl =>
    show scan ([d] ++ (powerText power ++ rest)) = _
    have hbase : NoBase (powerText power ++ rest) := .of_cons (by decide)
    have hpoint : '.' ∉ (powerText power ++ rest).head? := fun hp => nomatch hp
    rw [scan_digits hl.digits hl.nonempty hbase,
      inBaseTen_whole hl.digits hl.nonempty hstart hpoint, finished_powerText _ _ h,
      ← toDouble_scientific]
    rfl
  | d :: e :: ds, hl =>
    have hd : AllDigits [d] := fun c hc =>
      hl.digits c (List.mem_singleton.mp hc ▸ List.mem_cons_self)
    have hf : AllDigits (e :: ds) := fun c hc => hl.digits c (List.mem_cons_of_mem _ hc)
    have hpoint : NoBase ('.' :: (e :: ds ++ (powerText power ++ rest))) := .of_cons (by decide)
    unfold scientific
    show scan ([d] ++ '.' :: (e :: ds ++ powerText power ++ rest)) = _
    rw [List.append_assoc, scan_digits hd (List.cons_ne_nil _ _) hpoint,
      inBaseTen_point hd (List.cons_ne_nil _ _) hf (List.cons_ne_nil _ _) hstart,
      finished_powerText _ _ h, ← toDouble_scientific]
    rfl

/-! ## 7. Doubles -/

/-- The digits of a decimal without the zeros at their end write its double. -/
theorem doubleOf_trimmedDigits {d : Decimal} (hd : d.digits ≠ 0) :
    doubleOf d.trimmedDigits d.leading = d.toDouble false := by
  obtain ⟨z, hz, hl⟩ := exists_trimmedDigits hd
  have hdigits : d.digits = ofDigits 10 d.trimmedDigits * 10 ^ z := by
    rw [← ofDigits_append_zeros, ← hz, ofDigits_toDigits]
  have hcount : digitCount d.digits = d.trimmedDigits.length + z := by
    unfold digitCount
    rw [hz, List.length_append, List.length_replicate]
  have hleading : d.leading + 1 - d.trimmedDigits.length = d.exponent + z := by
    unfold leading
    rw [if_neg hd, hcount]
    omega
  unfold doubleOf
  rw [hleading, ← toDouble_mul_ten_pow false hl.ofDigits_ne_zero, ← hdigits]

/-- The text of a decimal that is not zero is read as its double. -/
theorem scan_toText {d : Decimal} (hd : d.digits ≠ 0) {rest : List Char} (h : Ends rest) :
    scan (d.toText ++ rest) = some (.real (d.toDouble false), rest) := by
  obtain ⟨_, _, hl⟩ := exists_trimmedDigits hd
  unfold toText
  dsimp only
  rw [← doubleOf_trimmedDigits hd]
  split
  · exact scan_positional hl _ h
  · exact scan_scientific hl _ h

end Numeral

namespace Double

/-- A double without its sign. -/
def magnitude (d : Double) : Double := if d.isNegative then d.neg else d

end Double

namespace Numeral

theorem digits_shortest_ne_zero {m e : Nat} (h : OnGrid m e) (hm : m ≠ 0) :
    (Double.shortest m e h).digits ≠ 0 := by
  intro h0
  have hback := Double.toDouble_shortest m e h hm
  unfold toDouble at hback
  rw [if_pos h0] at hback
  cases hback
  exact hm rfl

/-- **The text of a finite double is read as the double**, both without their signs. -/
theorem scan_magnitudeText {d : Double} (hd : d.isFinite = true) {rest : List Char}
    (h : Ends rest) :
    scan (d.magnitudeText ++ rest) = some (.real d.magnitude, rest) := by
  cases d with
  | nan => cases hd
  | infinity s => cases hd
  | finite s m e hgrid =>
    have hmagnitude : (Double.finite s m e hgrid).magnitude = .finite false m e hgrid := by
      cases s <;> rfl
    rw [hmagnitude]
    unfold Double.magnitudeText
    dsimp only
    by_cases hm : m = 0
    · subst hm
      have he : e = 0 := hgrid.2.2.resolve_right (by decide)
      subst he
      rw [if_pos rfl]
      exact scan_fraction (allDigits_zeros 1) (List.cons_ne_nil _ _) (allDigits_zeros 1)
        (List.cons_ne_nil _ _) h
    · rw [if_neg hm]
      rw [scan_toText (digits_shortest_ne_zero hgrid hm) h, Double.toDouble_shortest m e hgrid hm]

/-! ## 8. The characters of a number -/

/-- The characters that the text of a number without its sign is made of. -/
def IsNumeralChar (c : Char) : Prop := c.isDigit = true ∨ c ∈ ['.', 'e', '+', '-']

/-- Characters of numbers, of which the first one is a digit. -/
structure IsNumeral (cs : List Char) : Prop where
  first : ∃ c rest, cs = c :: rest ∧ c.isDigit = true
  chars : ∀ c ∈ cs, IsNumeralChar c

theorem IsNumeral.of_digits {ds : List Char} (hd : AllDigits ds) (hne : ds ≠ []) : IsNumeral ds where
  first := by
    cases ds with
    | nil => exact absurd rfl hne
    | cons c ds => exact ⟨c, ds, rfl, hd c List.mem_cons_self⟩
  chars c hc := .inl (hd c hc)

theorem IsNumeral.append {as bs : List Char} (h : IsNumeral as)
    (h' : ∀ c ∈ bs, IsNumeralChar c) : IsNumeral (as ++ bs) where
  first := by
    obtain ⟨c, rest, rfl, hc⟩ := h.first
    exact ⟨c, rest ++ bs, rfl, hc⟩
  chars c hc := (List.mem_append.mp hc).elim (h.chars c) (h' c)

theorem isNumeralChar_point_cons {cs : List Char} (h : ∀ c ∈ cs, IsNumeralChar c) :
    ∀ c ∈ '.' :: cs, IsNumeralChar c := by
  intro c hc
  rcases List.mem_cons.mp hc with rfl | hc
  · exact .inr (by decide)
  · exact h c hc

theorem isNumeralChar_powerText (power : Int) : ∀ c ∈ powerText power, IsNumeralChar c := by
  intro c hc
  obtain ⟨ds, hds, hd, -, -⟩ := exists_powerText power
  rw [hds] at hc
  rcases List.mem_cons.mp hc with rfl | hc
  · exact .inr (by decide)
  rcases List.mem_cons.mp hc with rfl | hc
  · refine .inr ?_
    split <;> decide
  · exact .inl (hd c hc)

theorem isNumeral_positional {ds : List Char} (hl : Leading ds) (power : Int) :
    IsNumeral (positional ds power) := by
  obtain ⟨whole, fraction, hparts, hwhole, hf, -, -⟩ := exists_positional hl power
  obtain ⟨hd, hne⟩ := allDigits_whole hwhole
  rw [hparts]
  exact (IsNumeral.of_digits hd hne).append (isNumeralChar_point_cons fun c hc => .inl (hf c hc))

theorem isNumeral_scientific {ds : List Char} (hl : Leading ds) (power : Int) :
    IsNumeral (scientific ds power) := by
  match ds, hl with
  | [], hl => exact absurd rfl hl.nonempty
  | [d], hl =>
    exact (IsNumeral.of_digits hl.digits hl.nonempty).append (isNumeralChar_powerText power)
  | d :: e :: ds, hl =>
    have hd : AllDigits [d] := fun c hc =>
      hl.digits c (List.mem_singleton.mp hc ▸ List.mem_cons_self)
    refine (IsNumeral.of_digits hd (List.cons_ne_nil _ _)).append
      (isNumeralChar_point_cons fun c hc => ?_)
    rcases List.mem_append.mp hc with hc | hc
    · exact .inl (hl.digits c (List.mem_cons_of_mem _ hc))
    · exact isNumeralChar_powerText power c hc

theorem isNumeral_magnitudeText {d : Double} (hd : d.isFinite = true) :
    IsNumeral d.magnitudeText := by
  cases d with
  | nan => cases hd
  | infinity s => cases hd
  | finite s m e hgrid =>
    unfold Double.magnitudeText
    dsimp only
    split
    · exact (IsNumeral.of_digits (allDigits_zeros 1) (List.cons_ne_nil _ _)).append
        (isNumeralChar_point_cons fun c hc => .inl (allDigits_zeros 1 c hc))
    · next hm =>
      obtain ⟨_, _, hl⟩ := exists_trimmedDigits (digits_shortest_ne_zero hgrid hm)
      unfold toText
      dsimp only
      split
      · exact isNumeral_positional hl _
      · exact isNumeral_scientific hl _

end Numeral

end VisualScale
