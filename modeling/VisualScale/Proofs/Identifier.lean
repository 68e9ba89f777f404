import VisualScale.Formula.Lexer
import VisualScale.Text.Blank

/-!
# No identifier holds white space

The tables of identifier characters and the white space lie apart (`inRuns_of_holdNoBlank`), so
trimming takes nothing from a text that begins and ends with characters of identifiers. The
characters of identifiers are also those of words, by which a formula is taken apart
(`isWordChar_of_isIdentifierPart`).
-/

namespace VisualScale.Text

/-! ## 1. Tables -/

/-- The white space outside ASCII, as runs of code points. -/
def blankRuns : List (Nat × Nat) :=
  [ (0x85, 0x85), (0xa0, 0xa0), (0x1680, 0x1680), (0x2000, 0x200a), (0x2028, 0x2029)
  , (0x202f, 0x202f), (0x205f, 0x205f), (0x3000, 0x3000) ]

theorem exists_blankRun {c : Char} (h : isBlank c = true) (ha : isAscii c = false) :
    ∃ b ∈ blankRuns, b.1 ≤ c.toNat ∧ c.toNat ≤ b.2 := by
  have hn : 128 ≤ c.toNat := by simpa [isAscii] using ha
  unfold isBlank at h
  simp only [Bool.or_eq_true, Bool.and_eq_true, decide_eq_true_eq, beq_iff_eq] at h
  simp only [blankRuns, List.mem_cons, List.not_mem_nil, or_false, exists_eq_or_imp,
    exists_eq_left]
  omega

/-- The runs that characters write, two for each run, hold no white space outside ASCII. -/
def holdNoBlank (cs : List Char) : Bool :=
  cs.length % 2 == 0 && (runsOf cs).all fun run =>
    blankRuns.all fun b => decide (b.2 < run.1.toNat) || decide (run.2.toNat < b.1)

theorem holdNoBlank_toList {s : String} {cs : List Char} (h : s = .ofList cs)
    (hcs : holdNoBlank cs = true) : holdNoBlank s.toList = true := by
  rwa [h, String.toList_ofList]

theorem runsOf_append : (as bs : List Char) → as.length % 2 = 0 →
    runsOf (as ++ bs) = runsOf as ++ runsOf bs
  | [], _, _ => rfl
  | [_], _, h => absurd h Nat.one_ne_zero
  | a :: b :: as, bs, h => by
    have h' : as.length % 2 = 0 := by
      rw [List.length_cons, List.length_cons] at h
      omega
    show (a, b) :: runsOf (as ++ bs) = _
    rw [runsOf_append as bs h']
    rfl

theorem inRuns_of_holdNoBlank {tables : List String}
    (h : ∀ s ∈ tables, holdNoBlank s.toList = true) {c : Char} (hc : isBlank c = true)
    (ha : isAscii c = false) : inRuns (runsOf (tables.flatMap String.toList)) c = false := by
  obtain ⟨b, hb, hlo, hhi⟩ := exists_blankRun hc ha
  induction tables with
  | nil => rfl
  | cons s rest ih =>
    have hs := h s List.mem_cons_self
    unfold holdNoBlank at hs
    rw [Bool.and_eq_true, beq_iff_eq, List.all_eq_true] at hs
    obtain ⟨hlen, hruns⟩ := hs
    rw [List.flatMap_cons, runsOf_append _ _ hlen]
    unfold inRuns at ih ⊢
    rw [List.any_append, ih fun s hs => h s (List.mem_cons_of_mem _ hs), Bool.or_false,
      List.any_eq_false]
    intro run hrun hin
    have hapart := List.all_eq_true.mp (hruns run hrun) b hb
    simp only [Bool.or_eq_true, Bool.and_eq_true, decide_eq_true_eq, Char.le_def,
      UInt32.le_iff_toNat_le] at hapart hin
    have h1 : run.1.toNat ≤ c.toNat := hin.1
    have h2 : c.toNat ≤ run.2.toNat := hin.2
    omega

-- a table has a hundred characters; each is decided as a list of its own
set_option maxRecDepth 10000 in
theorem holdNoBlank_partRuns : ∀ s ∈ identifierPartRuns, holdNoBlank s.toList = true := by
  unfold identifierPartRuns
  repeat refine List.forall_mem_cons.2 ⟨holdNoBlank_toList rfl (by decide +kernel), ?_⟩
  exact fun _ h => nomatch h

set_option maxRecDepth 10000 in
theorem holdNoBlank_startRuns : ∀ s ∈ identifierStartRuns, holdNoBlank s.toList = true := by
  unfold identifierStartRuns
  repeat refine List.forall_mem_cons.2 ⟨holdNoBlank_toList rfl (by decide +kernel), ?_⟩
  exact fun _ h => nomatch h

/-! ## 2. Characters -/

theorem not_isBlank_of_alphanum {c : Char} (h : (c.isAlphanum || c == '_') = true) :
    isBlank c = false := by
  delta Char.isAlphanum Char.isAlpha Char.isUpper Char.isLower Char.isDigit at h
  simp only [Bool.or_eq_true, Bool.and_eq_true, decide_eq_true_eq, beq_iff_eq, ge_iff_le,
    UInt32.le_iff_toNat_le] at h
  have hword : ((65 ≤ c.toNat ∧ c.toNat ≤ 90 ∨ 97 ≤ c.toNat ∧ c.toNat ≤ 122) ∨
      48 ≤ c.toNat ∧ c.toNat ≤ 57) ∨ c = '_' := h
  rcases hword with h | rfl
  · unfold isBlank
    simp only [Bool.or_eq_false_iff, Bool.and_eq_false_imp, decide_eq_true_eq,
      decide_eq_false_iff_not, beq_eq_false_iff_ne]
    omega
  · decide

/-- No character of an identifier is white space. -/
theorem not_isBlank_of_isIdentifierPart {c : Char} (h : isIdentifierPart c = true) :
    isBlank c = false := by
  unfold isIdentifierPart at h
  by_cases ha : isAscii c = true
  · rw [if_pos ha] at h
    exact not_isBlank_of_alphanum h
  · rw [if_neg ha] at h
    refine Bool.eq_false_iff.2 fun hc => ?_
    have hin := inRuns_of_holdNoBlank holdNoBlank_partRuns hc (Bool.eq_false_iff.2 ha)
    exact absurd (hin.symm.trans h) Bool.false_ne_true

/-- No first character of an identifier is white space. -/
theorem not_isBlank_of_isIdentifierStart {c : Char} (h : isIdentifierStart c = true) :
    isBlank c = false := by
  unfold isIdentifierStart at h
  by_cases ha : isAscii c = true
  · rw [if_pos ha] at h
    refine not_isBlank_of_alphanum ?_
    unfold Char.isAlphanum
    rcases Bool.or_eq_true _ _ |>.mp h with h | h
    · rw [h, Bool.true_or, Bool.true_or]
    · rw [h, Bool.or_true]
  · rw [if_neg ha] at h
    refine Bool.eq_false_iff.2 fun hc => ?_
    have hin := inRuns_of_holdNoBlank holdNoBlank_startRuns hc (Bool.eq_false_iff.2 ha)
    exact absurd (hin.symm.trans h) Bool.false_ne_true

theorem isWordChar_of_isIdentifierPart {c : Char} (h : isIdentifierPart c = true) :
    Numeral.isWordChar c = true := by
  unfold isIdentifierPart at h
  unfold Numeral.isWordChar
  by_cases ha : isAscii c = true
  · rw [if_pos ha] at h
    rw [h, Bool.true_or]
  · have hn : 128 ≤ c.toNat := by simpa [isAscii] using ha
    rw [decide_eq_true hn, Bool.or_true]

theorem isWordStart_of_isIdentifierStart {c : Char} (h : isIdentifierStart c = true) :
    Lexer.isWordStart c = true := by
  unfold isIdentifierStart at h
  unfold Lexer.isWordStart
  by_cases ha : isAscii c = true
  · rw [if_pos ha] at h
    rw [h, Bool.true_or]
  · have hn : 128 ≤ c.toNat := by simpa [isAscii] using ha
    rw [decide_eq_true hn, Bool.or_true]

end VisualScale.Text
