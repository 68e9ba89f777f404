import VisualScale.Proofs.Language.Refusal

/-!
# What a text is taken apart into

Every word of a text is what some part of it begins with (`words_ok`), so what is true of every
lexeme that a text may begin with is true of all its words. Two facts matter to the grammars: a word
is a mark if it is written like one (`genuine_of_lex`), and a text has no more words than characters
(`length_le_of_lex`).
-/

namespace VisualScale

open Grammar (spelling Genuine)

/-! ## 1. Lexemes that are what they are written like -/

namespace Numeral

/-- The lexemes of numbers. -/
inductive IsNumber : Lexeme → Prop where
  | whole (n : Nat) : IsNumber (.whole n)
  | real (d : Double) : IsNumber (.real d)
  | imaginary : IsNumber (.other .imaginary)

variable {p : Parts} {cs rest : List Char} {l : Lexeme}

/-- A number is not written like a sign. -/
theorem IsNumber.spelling (h : IsNumber l) : spelling l = none := by cases h <;> rfl

theorem isNumber_number? {ledByZeroIsReal : Bool} (h : p.number? ledByZeroIsReal = some l) :
    IsNumber l := by
  unfold Parts.number? at h
  split at h
  · obtain rfl := Option.some.inj h
    exact .real _
  split at h
  · split at h
    · obtain rfl := Option.some.inj h
      exact .real _
    · cases h
  dsimp only at h
  split at h
  · cases h
  · obtain rfl := Option.some.inj h
    exact .whole _

theorem isNumber_closed {lexeme? : Option Lexeme}
    (hlexeme : ∀ l, lexeme? = some l → IsNumber l)
    (h : closed lexeme? cs = some (l, rest)) : IsNumber l := by
  have hmap {rest' : List Char} (h : lexeme?.map (·, rest') = some (l, rest)) : IsNumber l := by
    obtain ⟨l', hl', heq⟩ := Option.map_eq_some_iff.1 h
    obtain ⟨rfl, -⟩ := Prod.mk.inj heq
    exact hlexeme l' hl'
  unfold closed at h
  split at h
  · split at h
    · split at h
      · obtain ⟨rfl, -⟩ := Prod.mk.inj (Option.some.inj h)
        exact .imaginary
      · cases h
    · split at h
      · exact hmap h
      · cases h
  · exact hmap h

theorem isNumber_finished (h : finished p cs = some (l, rest)) : IsNumber l := by
  unfold finished at h
  split at h
  · split at h
    · obtain ⟨power?, -, hclosed⟩ := Option.bind_eq_some_iff.1 h
      cases power? with
      | some power =>
        refine isNumber_closed (fun l hl => ?_) hclosed
        obtain rfl := Option.some.inj hl
        exact .real _
      | none =>
        dsimp only at hclosed
        split at hclosed
        · obtain ⟨l', hl', heq⟩ := Option.map_eq_some_iff.1 hclosed
          obtain ⟨rfl, -⟩ := Prod.mk.inj heq
          exact isNumber_number? hl'
        · cases hclosed
    · exact isNumber_closed (fun _ => isNumber_number?) h
  · exact isNumber_closed (fun _ => isNumber_number?) h

theorem isNumber_inBase {base : Nat} {isDigit : Char → Bool}
    (h : inBase base isDigit cs = some (l, rest)) : IsNumber l := by
  obtain ⟨⟨ds, behind⟩, -, hwhole⟩ := Option.bind_eq_some_iff.1 h
  dsimp only at hwhole
  split at hwhole
  · cases hwhole
  · obtain ⟨rfl, -⟩ := Prod.mk.inj (Option.some.inj hwhole)
    exact .whole _

theorem isNumber_inBaseTen (h : inBaseTen cs = some (l, rest)) : IsNumber l := by
  obtain ⟨⟨whole, behind⟩, -, hfinished⟩ := Option.bind_eq_some_iff.1 h
  dsimp only at hfinished
  split at hfinished
  · obtain ⟨⟨fraction, behind⟩, -, hfinished⟩ := Option.bind_eq_some_iff.1 hfinished
    exact isNumber_finished hfinished
  · exact isNumber_finished hfinished

theorem isNumber_scan (h : scan cs = some (l, rest)) : IsNumber l := by
  unfold scan at h
  split at h
  · split at h
    · exact isNumber_inBase h
    split at h
    · exact isNumber_inBase h
    split at h
    · exact isNumber_inBase h
    · exact isNumber_inBaseTen h
  · exact isNumber_inBaseTen h

end Numeral

/-- A text between quotes is a word of the wider language, and is not written like a sign. -/
theorem Quote.scan_other {style : Style} {quote : Char} {cs rest : List Char} {l : Lexeme}
    (h : scan style quote cs = some (l, rest)) : (∃ x, l = .other x) ∧ spelling l = none := by
  obtain ⟨⟨body, behind⟩, -, hlexeme⟩ := Option.bind_eq_some_iff.1 h
  obtain ⟨l', hl', hpure⟩ := Option.bind_eq_some_iff.1 hlexeme
  obtain ⟨rfl, -⟩ := Prod.mk.inj (Option.some.inj hpure)
  unfold lexeme? at hl'
  split at hl'
  · obtain rfl := Option.some.inj hl'
    exact ⟨⟨_, rfl⟩, rfl⟩
  split at hl'
  · cases hl'
  split at hl'
  · cases hl'
  · obtain rfl := Option.some.inj hl'
    exact ⟨⟨_, rfl⟩, rfl⟩

namespace Lexer

theorem genuine_of_spelling_none {l : Lexeme} (h : spelling l = none) : Genuine l := by
  intro m hm
  rw [h] at hm
  cases m <;> cases hm

theorem genuine_mark (m : Mark) : Genuine (.mark m) := by
  intro m' hm
  revert hm
  cases m <;> cases m' <;> decide

/-- How the marks are written. -/
def markSpellings : List String := ["+", "-", "*", "/", ".", ",", "(", ")"]

/-- A sign or reserved word is genuine if no mark is written so. -/
theorem genuine_of_notMem {l : Lexeme} {text : String} (hl : spelling l = some text)
    (htext : text ∉ markSpellings) : Genuine l := by
  intro m hm
  have hmark : ∃ text' ∈ markSpellings, spelling (.mark m) = some text' := by
    cases m <;> exact ⟨_, by decide, rfl⟩
  obtain ⟨text', hmem, htext'⟩ := hmark
  obtain rfl : text' = text := Option.some.inj (htext'.symm.trans (hm.symm.trans hl))
  exact absurd hmem htext

theorem genuine_wordLexeme {word : List Char} {l : Lexeme} (h : wordLexeme word = some l) :
    Genuine l := by
  unfold wordLexeme at h
  split at h
  · next hkeyword =>
    obtain rfl := Option.some.inj h
    obtain ⟨keyword, hmem, hword⟩ := List.any_eq_true.1 hkeyword
    obtain rfl : keyword.toList = word := eq_of_beq hword
    have hkeywords : ∀ keyword ∈ keywords, keyword ∉ markSpellings := by decide
    refine genuine_of_notMem rfl ?_
    rw [String.ofList_toList]
    exact hkeywords keyword hmem
  split at h
  · obtain rfl := Option.some.inj h
    exact genuine_of_spelling_none rfl
  · cases h

theorem genuine_sign? {cs : List Char} {l : Lexeme} {n : Nat} (h : sign? cs = some (l, n)) :
    Genuine l := by
  have hsigns3 : ∀ sign ∈ signs3, String.ofList sign ∉ markSpellings := by decide
  have hsigns2 : ∀ sign ∈ signs2, String.ofList sign ∉ markSpellings := by decide
  have hsigns1 : ∀ sign ∈ signs1.map String.singleton, sign ∉ markSpellings := by decide
  unfold sign? at h
  split at h
  · next hmem =>
    obtain ⟨rfl, -⟩ := Prod.mk.inj (Option.some.inj h)
    exact genuine_of_notMem rfl (hsigns3 _ (List.contains_iff_mem.1 hmem))
  split at h
  · next hmem =>
    obtain ⟨rfl, -⟩ := Prod.mk.inj (Option.some.inj h)
    exact genuine_of_notMem rfl (hsigns2 _ (List.contains_iff_mem.1 hmem))
  split at h
  · cases h
  split at h
  · split at h
    · obtain ⟨rfl, -⟩ := Prod.mk.inj (Option.some.inj h)
      exact genuine_mark _
    split at h
    · next hmem =>
      obtain ⟨rfl, -⟩ := Prod.mk.inj (Option.some.inj h)
      exact genuine_of_notMem rfl (hsigns1 _ (List.mem_map_of_mem (List.contains_iff_mem.1 hmem)))
    · cases h
  · cases h

theorem genuine_wordOrText {cs rest : List Char} {l : Lexeme} (h : wordOrText cs = some (l, rest)) :
    Genuine l := by
  have hword {word rest' : List Char} (h : (wordLexeme word).map (·, rest') = some (l, rest)) :
      Genuine l := by
    obtain ⟨l', hl', heq⟩ := Option.map_eq_some_iff.1 h
    obtain ⟨rfl, -⟩ := Prod.mk.inj heq
    exact genuine_wordLexeme hl'
  unfold wordOrText at h
  dsimp only at h
  split at h
  · split at h
    · split at h
      · exact genuine_of_spelling_none (Quote.scan_other h).2
      · exact hword h
    · exact hword h
  · exact hword h

theorem genuine_lexeme? {cs rest : List Char} {l : Lexeme} (h : lexeme? cs = some (l, rest)) :
    Genuine l := by
  unfold lexeme? at h
  split at h
  · cases h
  split at h
  · exact genuine_wordOrText h
  split at h
  · exact genuine_of_spelling_none (Numeral.isNumber_scan h).spelling
  · obtain ⟨⟨sign, n⟩, hsign, heq⟩ := Option.map_eq_some_iff.1 h
    obtain ⟨rfl, -⟩ := Prod.mk.inj heq
    exact genuine_sign? hsign

/-! ## 2. The words of a text -/

section

variable {fuel : Nat} {p p' : Position} {opened cs rest : List Char} {tokens : List Token}

/-- Every word is what some part of the text begins with, and takes a unit of the fuel. -/
theorem words_ok (h : words fuel p opened cs = some tokens) :
    tokens.length ≤ fuel ∧ ∀ t ∈ tokens, ∃ part rest, lexeme? part = some (t.lexeme, rest) := by
  fun_induction words generalizing tokens with
  | case11 fuel p opened c rest _ _ _ _ ih =>
    obtain ⟨⟨lexeme, behind⟩, hlexeme, hbehind⟩ := Option.bind_eq_some_iff.1 h
    obtain ⟨opened', -, hopened⟩ := Option.bind_eq_some_iff.1 hbehind
    obtain ⟨more, hmore, hpure⟩ := Option.bind_eq_some_iff.1 hopened
    obtain rfl := Option.some.inj hpure
    obtain ⟨hlength, hwords⟩ := ih behind opened' hmore
    refine ⟨Nat.succ_le_succ hlength, fun t ht => ?_⟩
    rcases List.mem_cons.1 ht with rfl | ht
    · exact ⟨_, behind, hlexeme⟩
    · exact hwords t ht
  -- What is passed over costs fuel and gives no word.
  | case4 | case5 | case8 | case9 =>
    rename_i ih
    exact ⟨Nat.le_succ_of_le (ih h).1, (ih h).2⟩
  | case1 | case6 =>
    obtain rfl := Option.some.inj h
    exact ⟨Nat.zero_le _, fun _ ht => nomatch ht⟩
  | case2 | case3 | case7 | case10 => cases h

theorem length_toFirstWord {inComment : Bool} {i : Indent}
    (h : toFirstWord p inComment i cs = some (p', rest)) : rest.length ≤ cs.length := by
  fun_induction toFirstWord with
  | case1 | case8 =>
    obtain ⟨-, rfl⟩ := Prod.mk.inj (Option.some.inj h)
    exact Nat.le_refl _
  | case3 =>
    rename_i ih
    exact Nat.le_trans (ih h) (Nat.le_add_right _ 2)
  | case2 | case5 | case6 | case7 =>
    rename_i ih
    exact Nat.le_succ_of_le (ih h)
  | case4 | case9 => cases h

theorem length_unifyLineEnds (cs : List Char) : (unifyLineEnds cs).length ≤ cs.length := by
  fun_induction unifyLineEnds with
  | case1 => exact Nat.le_refl _
  | case2 rest ih => exact Nat.succ_le_succ (Nat.le_succ_of_le ih)
  | case3 c rest _ ih => exact Nat.succ_le_succ ih

/-- **A text has no more words than characters.** -/
theorem length_le_of_lex (h : lex cs = some tokens) : tokens.length ≤ cs.length := by
  obtain ⟨⟨p, rest⟩, hfirst, hwords⟩ := Option.bind_eq_some_iff.1 h
  calc tokens.length ≤ rest.length := (words_ok hwords).1
    _ ≤ (unifyLineEnds cs).length := length_toFirstWord hfirst
    _ ≤ cs.length := length_unifyLineEnds cs

/-- **Every word of a text is a mark if it is written like one.** -/
theorem genuine_of_lex (h : lex cs = some tokens) : ∀ t ∈ tokens, Genuine t.lexeme := by
  intro t ht
  obtain ⟨⟨p, rest⟩, -, hwords⟩ := Option.bind_eq_some_iff.1 h
  obtain ⟨part, behind, hlexeme⟩ := (words_ok hwords).2 t ht
  exact genuine_lexeme? hlexeme

end

end Lexer

end VisualScale
