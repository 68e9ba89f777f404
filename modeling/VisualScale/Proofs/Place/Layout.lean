import VisualScale.Formula.Lexer
import VisualScale.Proofs.Identifier
import VisualScale.Proofs.Language.Lexing
import VisualScale.Proofs.Number.Numeral

/-!
# Where the words of a text stand

Taking a text apart loses nothing and moves nothing: each word is a piece of the text, begins and
ends with a character that is no white space, and its place is where this piece stands
(`laid_words`). Between two words, and between the start of the first and the end of the last of
several, stands a part of the text that is solid at both ends (`Laid.stands`).
-/

namespace VisualScale

namespace Text

/-! ## 1. Solid pieces -/

/-- A text that white space neither begins nor ends. -/
structure Solid (cs : List Char) : Prop where
  ne_nil : cs ≠ []
  head : ∀ c ∈ cs.head?, isBlank c = false
  last : ∀ c ∈ cs.getLast?, isBlank c = false

/-- Behind a piece without white space the first text goes on as the second. -/
def Sheds (cs rest : List Char) : Prop :=
  ∃ piece, cs = piece ++ rest ∧ ∀ c ∈ piece, isBlank c = false

variable {a b cs rest : List Char} {c : Char}

theorem solid_of_forall (hne : cs ≠ []) (h : ∀ c ∈ cs, isBlank c = false) : Solid cs where
  ne_nil := hne
  head c hc := h c (List.mem_of_head? hc)
  last c hc := h c (List.mem_of_getLast? hc)

/-- A text of some characters, none of which is white space, as a check. -/
def isPacked (cs : List Char) : Bool := !cs.isEmpty && cs.all fun c => !isBlank c

theorem not_isBlank_of_all (h : (cs.all fun c => !isBlank c) = true) :
    ∀ c ∈ cs, isBlank c = false := by simpa using h

theorem solid_of_isPacked (h : isPacked cs = true) : Solid cs := by
  obtain ⟨hne, hall⟩ := Bool.and_eq_true_iff.1 h
  exact solid_of_forall (by simpa using hne) (not_isBlank_of_all hall)

theorem Solid.trim_eq (h : Solid cs) : trim cs = cs := trim_eq_self h.head h.last

/-- What stands between two solid texts does not matter. -/
theorem Solid.append (ha : Solid a) (between : List Char) (hb : Solid b) :
    Solid (a ++ (between ++ b)) where
  ne_nil := List.append_ne_nil_of_left_ne_nil ha.ne_nil _
  head c hc := by
    obtain ⟨d, a', rfl⟩ := List.exists_cons_of_ne_nil ha.ne_nil
    exact ha.head c hc
  last c hc := by
    have hlast := List.getLast?_eq_some_getLast hb.ne_nil
    rw [← List.append_assoc, List.getLast?_append, hlast, Option.some_or, ← hlast] at hc
    exact hb.last c hc

/-- A text between two equal characters, perhaps with letters before it. -/
theorem solid_quoted (hletters : ∀ d ∈ a, isBlank d = false) (hc : isBlank c = false)
    (inner : List Char) : Solid (a ++ c :: (inner ++ [c])) := by
  have hquote : Solid [c] := solid_of_forall (List.cons_ne_nil _ _) (by simpa using hc)
  have hfirst : Solid (a ++ [c]) := by
    refine solid_of_forall (by simp) fun d hd => ?_
    rcases List.mem_append.1 hd with hd | hd
    · exact hletters d hd
    · rw [List.mem_singleton.1 hd]
      exact hc
  have hwhole := hfirst.append inner hquote
  rwa [List.append_assoc, List.singleton_append] at hwhole

theorem sheds_refl (cs : List Char) : Sheds cs cs := ⟨[], rfl, fun _ hc => absurd hc (by simp)⟩

theorem Sheds.cons (hc : isBlank c = false) (h : Sheds cs rest) : Sheds (c :: cs) rest := by
  obtain ⟨piece, rfl, hpiece⟩ := h
  exact ⟨c :: piece, rfl, by simpa [hc] using hpiece⟩

theorem Sheds.trans (h : Sheds cs a) (h' : Sheds a b) : Sheds cs b := by
  obtain ⟨piece, rfl, hpiece⟩ := h
  obtain ⟨piece', rfl, hpiece'⟩ := h'
  refine ⟨piece ++ piece', (List.append_assoc _ _ _).symm, fun c hc => ?_⟩
  rcases List.mem_append.1 hc with hc | hc
  · exact hpiece c hc
  · exact hpiece' c hc

/-- A piece without white space is solid, if there is any. -/
theorem Sheds.exists_solid (h : Sheds cs rest) (hlt : rest.length < cs.length) :
    ∃ piece, cs = piece ++ rest ∧ Solid piece := by
  obtain ⟨piece, rfl, hpiece⟩ := h
  refine ⟨piece, rfl, solid_of_forall ?_ hpiece⟩
  rintro rfl
  simp at hlt

theorem Sheds.length_le (h : Sheds cs rest) : rest.length ≤ cs.length := by
  obtain ⟨piece, rfl, -⟩ := h
  simp

/-- One of two characters that are no white space. -/
theorem not_isBlank_of_eq_or {d e : Char} (h : c = d ∨ c = e) (hd : isBlank d = false)
    (he : isBlank e = false) : isBlank c = false := by
  rcases h with rfl | rfl
  · exact hd
  · exact he

theorem not_isBlank_of_isDigit (h : c.isDigit = true) : isBlank c = false := by
  refine not_isBlank_of_alphanum ?_
  unfold Char.isAlphanum
  rw [h, Bool.or_true, Bool.true_or]

end Text

open Text

/-! ## 2. Numbers -/

namespace Numeral

variable {isDigit : Char → Bool} {cs ds rest : List Char} {l : Lexeme}

/-- Digits take up no white space. -/
theorem sheds_digitRun (hdigit : ∀ c, isDigit c = true → isBlank c = false)
    (h : digitRun isDigit cs = some (ds, rest)) : Sheds cs rest := by
  fun_induction digitRun isDigit cs generalizing ds with
  | case1 | case6 =>
    obtain ⟨-, rfl⟩ := Prod.mk.inj (Option.some.inj h)
    exact sheds_refl _
  | case2 | case4 => cases h
  | case3 c tail hc ih =>
    obtain ⟨⟨ds', rest'⟩, htail, heq⟩ := Option.map_eq_some_iff.1 h
    obtain ⟨-, rfl⟩ := Prod.mk.inj heq
    exact ((ih htail).cons (hdigit c hc)).cons (by decide)
  | case5 c tail _ _ hc ih =>
    obtain ⟨⟨ds', rest'⟩, htail, heq⟩ := Option.map_eq_some_iff.1 h
    obtain ⟨-, rfl⟩ := Prod.mk.inj heq
    exact (ih htail).cons (hdigit c hc)

theorem sheds_decimalRun (h : decimalRun cs = some (ds, rest)) : Sheds cs rest := by
  unfold decimalRun at h
  split at h
  · exact sheds_digitRun (fun _ => not_isBlank_of_isDigit) h
  · obtain ⟨-, rfl⟩ := Prod.mk.inj (Option.some.inj h)
    exact sheds_refl _

theorem not_isBlank_of_between {a b c : Char} (h : (a ≤ c && c ≤ b) = true) (ha : 0x20 < a.toNat)
    (hb : b.toNat < 0x80) : isBlank c = false := by
  simp only [Bool.and_eq_true, decide_eq_true_eq, Char.le_def, UInt32.le_iff_toNat_le] at h
  have hac : a.toNat ≤ c.toNat := h.1
  have hcb : c.toNat ≤ b.toNat := h.2
  unfold isBlank
  simp only [Bool.or_eq_false_iff, Bool.and_eq_false_imp, decide_eq_true_eq,
    decide_eq_false_iff_not, beq_eq_false_iff_ne]
  omega

theorem not_isBlank_of_isHexDigit {c : Char} (h : isHexDigit c = true) : isBlank c = false := by
  unfold isHexDigit at h
  rcases Bool.or_eq_true _ _ |>.mp h with h | h
  · rcases Bool.or_eq_true _ _ |>.mp h with h | h
    · exact not_isBlank_of_isDigit h
    · exact not_isBlank_of_between h (by decide) (by decide)
  · exact not_isBlank_of_between h (by decide) (by decide)

theorem not_isBlank_of_isOctalDigit {c : Char} (h : isOctalDigit c = true) : isBlank c = false :=
  not_isBlank_of_between h (by decide) (by decide)

theorem not_isBlank_of_isBinaryDigit {c : Char} (h : isBinaryDigit c = true) :
    isBlank c = false := by
  have heq : c = '0' ∨ c = '1' := by simpa [isBinaryDigit] using h
  exact not_isBlank_of_eq_or heq (by decide) (by decide)

theorem sheds_inBase {base : Nat} (hdigit : ∀ c, isDigit c = true → isBlank c = false)
    (h : inBase base isDigit cs = some (l, rest)) : Sheds cs rest := by
  obtain ⟨⟨ds, behind⟩, hdigits, hwhole⟩ := Option.bind_eq_some_iff.1 h
  dsimp only at hwhole
  split at hwhole
  · cases hwhole
  · obtain ⟨-, rfl⟩ := Prod.mk.inj (Option.some.inj hwhole)
    exact sheds_digitRun hdigit hdigits

theorem sheds_powerRun {power : Int} (h : powerRun cs = some (some (power, rest))) :
    Sheds cs rest := by
  -- Whatever becomes of the digits, they are followed by the same text.
  have hdigits {ds' : List Char} {f : List Char × List Char → Option (Int × List Char)}
      (hf : ∀ r, (f r).map Prod.snd = some r.2) (h : (if ds'.head?.any Char.isDigit then
        (digitRun Char.isDigit ds').map f else none) = some (some (power, rest))) :
      Sheds ds' rest := by
    split at h
    · obtain ⟨⟨ds, behind⟩, hrun, heq⟩ := Option.map_eq_some_iff.1 h
      have hbehind := hf (ds, behind)
      rw [heq] at hbehind
      obtain rfl := Option.some.inj hbehind
      exact sheds_digitRun (fun _ => not_isBlank_of_isDigit) hrun
    · cases h
  unfold powerRun at h
  dsimp only at h
  split at h
  · exact (hdigits (fun _ => rfl) h).cons (by decide)
  · exact (hdigits (fun _ => rfl) h).cons (by decide)
  · split at h
    · exact hdigits (fun _ => rfl) h
    · cases h
  · cases h

theorem sheds_closed {lexeme? : Option Lexeme} (h : closed lexeme? cs = some (l, rest)) :
    Sheds cs rest := by
  have hmap {cs' : List Char} (h : lexeme?.map (·, cs') = some (l, rest)) : Sheds cs' rest := by
    obtain ⟨l', -, heq⟩ := Option.map_eq_some_iff.1 h
    obtain ⟨-, rfl⟩ := Prod.mk.inj heq
    exact sheds_refl _
  unfold closed at h
  split at h
  · split at h
    · next hj =>
      split at h
      · obtain ⟨-, rfl⟩ := Prod.mk.inj (Option.some.inj h)
        exact (sheds_refl _).cons (not_isBlank_of_eq_or hj (by decide) (by decide))
      · cases h
    · split at h
      · exact hmap h
      · cases h
  · exact hmap h

theorem sheds_finished {p : Parts} (h : finished p cs = some (l, rest)) : Sheds cs rest := by
  unfold finished at h
  split at h
  · split at h
    · next he =>
      obtain ⟨power?, hpower, hclosed⟩ := Option.bind_eq_some_iff.1 h
      cases power? with
      | some power =>
        obtain ⟨power, behind⟩ := power
        refine ((sheds_powerRun hpower).trans (sheds_closed hclosed)).cons ?_
        exact not_isBlank_of_eq_or he (by decide) (by decide)
      | none =>
        dsimp only at hclosed
        split at hclosed
        · obtain ⟨l', -, heq⟩ := Option.map_eq_some_iff.1 hclosed
          obtain ⟨-, rfl⟩ := Prod.mk.inj heq
          exact sheds_refl _
        · cases hclosed
    · exact sheds_closed h
  · exact sheds_closed h

/-- The digits in front of a point, and what follows. -/
theorem sheds_inBaseTen (h : inBaseTen cs = some (l, rest)) : ∃ whole behind,
    decimalRun cs = some (whole, behind) ∧ Sheds behind rest ∧
      (behind.head? = some '.' → rest.length < behind.length) := by
  obtain ⟨⟨whole, behind⟩, hwhole, hfinished⟩ := Option.bind_eq_some_iff.1 h
  refine ⟨whole, behind, hwhole, ?_⟩
  dsimp only at hfinished
  split at hfinished
  · obtain ⟨⟨fraction, behind'⟩, hfraction, hfinished⟩ := Option.bind_eq_some_iff.1 hfinished
    have hmore := (sheds_decimalRun hfraction).trans (sheds_finished hfinished)
    exact ⟨hmore.cons (by decide), fun _ => Nat.lt_succ_of_le hmore.length_le⟩
  · next hno =>
    refine ⟨sheds_finished hfinished, fun hpoint => ?_⟩
    obtain ⟨more, rfl⟩ : ∃ more, behind = '.' :: more := by
      cases behind with
      | nil => cases hpoint
      | cons c more => exact ⟨more, by rw [Option.some.inj hpoint]⟩
    exact absurd rfl (hno more)

/-- Digits in front are taken. -/
theorem length_lt_of_decimalRun {c : Char} {tail : List Char} (hc : c.isDigit = true)
    (h : decimalRun (c :: tail) = some (ds, rest)) : rest.length < (c :: tail).length := by
  unfold decimalRun at h
  rw [if_pos (show (c :: tail).head?.any Char.isDigit = true from hc), digitRun_cons hc] at h
  obtain ⟨⟨ds', rest'⟩, htail, heq⟩ := Option.map_eq_some_iff.1 h
  obtain ⟨-, rfl⟩ := Prod.mk.inj heq
  exact Nat.lt_succ_of_le (sheds_digitRun (fun _ => not_isBlank_of_isDigit) htail).length_le

theorem exists_solid_inBaseTen {c : Char} {tail : List Char}
    (hbegins : (c.isDigit || (c == '.' && tail.head?.any Char.isDigit)) = true)
    (h : inBaseTen (c :: tail) = some (l, rest)) :
    ∃ piece, c :: tail = piece ++ rest ∧ Solid piece := by
  obtain ⟨whole, behind, hwhole, hbehind, hpoint⟩ := sheds_inBaseTen h
  refine ((sheds_decimalRun hwhole).trans hbehind).exists_solid ?_
  -- Something is taken: a digit in front, or else the point.
  by_cases hdigit : c.isDigit = true
  · exact Nat.lt_of_le_of_lt hbehind.length_le (length_lt_of_decimalRun hdigit hwhole)
  · have hdot : c = '.' := by
      rw [Bool.eq_false_iff.2 hdigit, Bool.false_or, Bool.and_eq_true, beq_iff_eq] at hbegins
      exact hbegins.1
    unfold decimalRun at hwhole
    rw [if_neg (show ¬ (c :: tail).head?.any Char.isDigit = true from hdigit)] at hwhole
    obtain ⟨-, rfl⟩ := Prod.mk.inj (Option.some.inj hwhole)
    exact hpoint (by rw [hdot]; rfl)

theorem exists_solid_inBase {d : Char} {more : List Char} {base : Nat} (hd : isBlank d = false)
    (hdigit : ∀ c, isDigit c = true → isBlank c = false)
    (h : inBase base isDigit more = some (l, rest)) :
    ∃ piece, '0' :: d :: more = piece ++ rest ∧ Solid piece := by
  have hmore := sheds_inBase hdigit h
  refine ((hmore.cons hd).cons (by decide)).exists_solid ?_
  have hle := hmore.length_le
  simp only [List.length_cons]
  omega

/-- A number takes up a solid piece, where it begins like one. -/
theorem exists_solid_scan {c : Char} {tail : List Char}
    (hbegins : (c.isDigit || (c == '.' && tail.head?.any Char.isDigit)) = true)
    (h : scan (c :: tail) = some (l, rest)) :
    ∃ piece, c :: tail = piece ++ rest ∧ Solid piece := by
  unfold scan at h
  split at h
  · next d more heq =>
    rw [heq]
    split at h
    · next hd =>
      have hblank := not_isBlank_of_eq_or hd (by decide) (by decide)
      exact exists_solid_inBase hblank (fun _ => not_isBlank_of_isHexDigit) h
    split at h
    · next hd =>
      have hblank := not_isBlank_of_eq_or hd (by decide) (by decide)
      exact exists_solid_inBase hblank (fun _ => not_isBlank_of_isOctalDigit) h
    split at h
    · next hd =>
      have hblank := not_isBlank_of_eq_or hd (by decide) (by decide)
      exact exists_solid_inBase hblank (fun _ => not_isBlank_of_isBinaryDigit) h
    · rw [← heq]
      exact exists_solid_inBaseTen hbegins h
  · exact exists_solid_inBaseTen hbegins h

end Numeral

/-! ## 3. Texts between quotes -/

namespace Quote

variable {quote : Char} {cs body rest : List Char} {l : Lexeme}

theorem untilQuote_ok (h : untilQuote quote cs = some (body, rest)) :
    cs = body ++ quote :: rest := by
  fun_induction untilQuote quote cs generalizing body with
  | case1 | case2 | case5 => cases h
  | case3 c tail ih | case6 c tail _ _ _ _ ih =>
    obtain ⟨⟨body', rest'⟩, htail, heq⟩ := Option.map_eq_some_iff.1 h
    obtain ⟨rfl, rfl⟩ := Prod.mk.inj heq
    simp [← ih htail]
  | case4 =>
    obtain ⟨rfl, rfl⟩ := Prod.mk.inj (Option.some.inj h)
    rfl

theorem untilTripleQuote_ok (h : untilTripleQuote quote cs = some (body, rest)) :
    cs = body ++ quote :: quote :: quote :: rest := by
  fun_induction untilTripleQuote quote cs generalizing body with
  | case1 | case2 => cases h
  | case3 c tail ih | case5 c tail _ _ _ ih =>
    obtain ⟨⟨body', rest'⟩, htail, heq⟩ := Option.map_eq_some_iff.1 h
    obtain ⟨rfl, rfl⟩ := Prod.mk.inj heq
    simp [← ih htail]
  | case4 c tail _ _ hquotes =>
    obtain ⟨rfl, rfl⟩ := Prod.mk.inj (Option.some.inj h)
    obtain ⟨rfl, hprefix⟩ := hquotes
    obtain ⟨more, rfl⟩ := List.isPrefixOf_iff_prefix.1 hprefix
    rfl

/-- Behind its first quote, a text goes on up to its last one. -/
theorem scan_ok {style : Style} (h : scan style quote cs = some (l, rest)) :
    ∃ inner, cs = inner ++ quote :: rest := by
  obtain ⟨⟨content, behind⟩, hbody, hlexeme⟩ := Option.bind_eq_some_iff.1 h
  obtain ⟨l', -, hpure⟩ := Option.bind_eq_some_iff.1 hlexeme
  obtain ⟨-, rfl⟩ := Prod.mk.inj (Option.some.inj hpure)
  unfold Quote.body at hbody
  split at hbody
  · next hprefix =>
    obtain ⟨more, rfl⟩ := List.isPrefixOf_iff_prefix.1 hprefix
    have hmore : more = content ++ quote :: quote :: quote :: behind := untilTripleQuote_ok hbody
    exact ⟨[quote, quote] ++ (content ++ [quote, quote]), by simp [hmore]⟩
  · exact ⟨content, untilQuote_ok hbody⟩

theorem not_isBlank_of_toLower {c : Char} (h : isBlank c.toLower = false) : isBlank c = false := by
  by_cases hupper : c.isUpper = true
  · refine not_isBlank_of_alphanum ?_
    show (((c.isUpper || c.isLower) || c.isDigit) || c == '_') = true
    rw [hupper, Bool.true_or, Bool.true_or, Bool.true_or]
  · have hsame : c.toLower = c := by
      unfold Char.toLower
      exact dif_neg fun hc => hupper (decide_eq_true hc)
    rwa [hsame] at h

/-- The letters that ask for a style are no white space. -/
theorem not_isBlank_of_styleOf {letters : List Char} {style : Style}
    (h : styleOf letters = some style) : ∀ c ∈ letters, isBlank c = false := by
  have hlower : ((letters.map Char.toLower).all fun c => !isBlank c) = true := by
    unfold styleOf at h
    split at h
    case h_10 => cases h
    all_goals
      next heq =>
        rw [heq]
        decide
  exact fun c hc =>
    not_isBlank_of_toLower (not_isBlank_of_all hlower _ (List.mem_map_of_mem hc))

end Quote

/-! ## 4. Words -/

namespace Lexer

variable {cs rest : List Char} {l : Lexeme}

theorem not_isBlank_of_isQuote {c : Char} (h : isQuote c = true) : isBlank c = false := by
  have heq : c = '"' ∨ c = '\'' := by simpa [isQuote] using h
  exact not_isBlank_of_eq_or heq (by decide) (by decide)

theorem solid_of_wordLexeme {word : List Char} (h : wordLexeme word = some l) : Solid word := by
  unfold wordLexeme at h
  split at h
  · next hkeyword =>
    obtain ⟨keyword, hmem, hword⟩ := List.any_eq_true.1 hkeyword
    obtain rfl : keyword.toList = word := eq_of_beq hword
    have hkeywords : (keywords.all fun keyword => isPacked keyword.toList) = true := by decide
    exact solid_of_isPacked (List.all_eq_true.1 hkeywords keyword hmem)
  split at h
  · next hidentifier =>
    cases word with
    | nil => cases hidentifier
    | cons c tail =>
      obtain ⟨hstart, hparts⟩ := Bool.and_eq_true _ _ |>.mp hidentifier
      refine solid_of_forall (List.cons_ne_nil _ _) fun d hd => ?_
      rcases List.mem_cons.1 hd with rfl | hd
      · exact not_isBlank_of_isIdentifierStart hstart
      · exact not_isBlank_of_isIdentifierPart (List.all_eq_true.1 hparts d hd)
  · cases h

theorem exists_solid_wordOrText (h : wordOrText cs = some (l, rest)) :
    ∃ piece, cs = piece ++ rest ∧ Solid piece := by
  have hsplit := List.takeWhile_append_dropWhile (p := Numeral.isWordChar) (l := cs)
  have hword {behind : List Char}
      (h : (wordLexeme (cs.takeWhile Numeral.isWordChar)).map (·, behind) = some (l, rest)) :
      behind = rest ∧ Solid (cs.takeWhile Numeral.isWordChar) := by
    obtain ⟨l', hl', heq⟩ := Option.map_eq_some_iff.1 h
    obtain ⟨-, rfl⟩ := Prod.mk.inj heq
    exact ⟨rfl, solid_of_wordLexeme hl'⟩
  unfold wordOrText at h
  dsimp only at h
  split at h
  · next c more hbehind =>
    split at h
    · next hquote =>
      split at h
      · next style hstyle =>
        obtain ⟨inner, rfl⟩ := Quote.scan_ok h
        have hletters := Quote.not_isBlank_of_styleOf hstyle
        refine ⟨cs.takeWhile Numeral.isWordChar ++ c :: (inner ++ [c]), ?_, ?_⟩
        · refine hsplit.symm.trans ?_
          rw [hbehind]
          simp
        · exact solid_quoted hletters (not_isBlank_of_isQuote hquote) inner
      · obtain ⟨hrest, hsolid⟩ := hword h
        exact ⟨_, by rw [← hrest, hsplit], hsolid⟩
    · obtain ⟨hrest, hsolid⟩ := hword h
      exact ⟨_, by rw [← hrest, hsplit], hsolid⟩
  · next hbehind =>
    obtain ⟨hrest, hsolid⟩ := hword h
    refine ⟨_, ?_, hsolid⟩
    rw [← hrest, ← hbehind, hsplit]

theorem not_isBlank_of_markOf {c : Char} {m : Mark} (h : markOf c = some m) :
    isBlank c = false := by
  unfold markOf at h
  split at h
  case h_9 => cases h
  all_goals decide

theorem solid_sign? {n : Nat} (h : sign? cs = some (l, n)) : Solid (cs.take n) := by
  have hsigns3 : signs3.all isPacked = true := by decide
  have hsigns2 : signs2.all isPacked = true := by decide
  have hsigns1 : (signs1.all fun c => !isBlank c) = true := by decide
  unfold sign? at h
  split at h
  · next hmem =>
    obtain ⟨-, rfl⟩ := Prod.mk.inj (Option.some.inj h)
    exact solid_of_isPacked (List.all_eq_true.1 hsigns3 _ (List.contains_iff_mem.1 hmem))
  split at h
  · next hmem =>
    obtain ⟨-, rfl⟩ := Prod.mk.inj (Option.some.inj h)
    exact solid_of_isPacked (List.all_eq_true.1 hsigns2 _ (List.contains_iff_mem.1 hmem))
  split at h
  · cases h
  cases cs with
  | nil => cases h
  | cons c tail =>
    have hone (hc : isBlank c = false) : Solid ((c :: tail).take 1) :=
      solid_of_forall (by simp) (by simpa using hc)
    dsimp only at h
    split at h
    · next m hmark =>
      obtain ⟨-, rfl⟩ := Prod.mk.inj (Option.some.inj h)
      exact hone (not_isBlank_of_markOf hmark)
    split at h
    · next hmem =>
      obtain ⟨-, rfl⟩ := Prod.mk.inj (Option.some.inj h)
      exact hone (not_isBlank_of_all hsigns1 c (List.contains_iff_mem.1 hmem))
    · cases h

/-- **A lexeme takes up a solid piece of the text.** -/
theorem exists_solid_lexeme? (h : lexeme? cs = some (l, rest)) :
    ∃ piece, cs = piece ++ rest ∧ Solid piece := by
  unfold lexeme? at h
  split at h
  · cases h
  next c tail =>
  split at h
  · exact exists_solid_wordOrText h
  split at h
  · next hbegins => exact Numeral.exists_solid_scan hbegins h
  · obtain ⟨⟨sign, n⟩, hsign, heq⟩ := Option.map_eq_some_iff.1 h
    obtain ⟨-, rfl⟩ := Prod.mk.inj heq
    exact ⟨_, (List.take_append_drop n _).symm, solid_sign? hsign⟩

end Lexer

/-! ## 5. Words one after another -/

/-- Words stand in a text that begins at a position, one after another, each where a solid piece
    stands. -/
inductive Laid : Position → List Char → List Token → Prop where
  | nil (p : Position) (cs : List Char) : Laid p cs []
  | cons {p : Position} {gap piece rest : List Char} {t : Token} {ts : List Token}
      (hsolid : Solid piece) (hspan : t.span = ⟨p.after gap, p.after (gap ++ piece)⟩)
      (h : Laid (p.after (gap ++ piece)) rest ts) : Laid p (gap ++ (piece ++ rest)) (t :: ts)

/-- The span is the place of a solid part of a text that begins at a position. -/
def Stands (p : Position) (cs : List Char) (s : Span) : Prop :=
  ∃ before code after, cs = before ++ (code ++ after) ∧ Solid code ∧
    s = ⟨p.after before, p.after (before ++ code)⟩

section

variable {p : Position} {cs rest : List Char} {tokens : List Token}

/-- Words stay where they are when more text comes before them. -/
theorem Laid.behind {gap : List Char} (h : Laid (p.after gap) cs tokens) :
    Laid p (gap ++ cs) tokens := by
  cases h with
  | nil => exact .nil p _
  | @cons _ gap' piece rest t ts hsolid hspan h =>
    rw [← Position.after_append] at hspan
    rw [← Position.after_append, ← List.append_assoc] at h hspan
    rw [← List.append_assoc]
    exact .cons hsolid hspan h

/-- The words behind others. -/
theorem Laid.drop {xs ys : List Token} (h : Laid p cs (xs ++ ys)) :
    ∃ before rest, cs = before ++ rest ∧ Laid (p.after before) rest ys := by
  induction xs generalizing p cs with
  | nil => exact ⟨[], cs, rfl, h⟩
  | cons t xs ih =>
    cases h with
    | @cons _ gap piece rest _ _ _ _ h =>
      obtain ⟨before, rest', rfl, hys⟩ := ih h
      rw [← Position.after_append] at hys
      refine ⟨gap ++ piece ++ before, rest', by simp only [List.append_assoc], hys⟩

/-- The first of some words. -/
theorem Laid.first {t : Token} {ts : List Token} (h : Laid p cs (t :: ts)) :
    ∃ gap piece rest, cs = gap ++ (piece ++ rest) ∧ Solid piece ∧
      t.span = ⟨p.after gap, p.after (gap ++ piece)⟩ ∧ Laid (p.after (gap ++ piece)) rest ts := by
  cases h with
  | cons hsolid hspan h => exact ⟨_, _, _, rfl, hsolid, hspan, h⟩

/-- **From the start of a word to the end of the same or a later one stands a solid part of the
    text.** -/
theorem Laid.stands {before ts after : List Token} {t : Token}
    (h : Laid p cs (before ++ t :: (ts ++ after))) :
    Stands p cs ⟨t.span.start, (ts.getLast?.getD t).span.stop⟩ := by
  obtain ⟨text, rest, rfl, hwords⟩ := h.drop
  obtain ⟨gap, piece, behind, rfl, hpiece, hspan, hothers⟩ := hwords.first
  rcases List.eq_nil_or_concat ts with rfl | ⟨between, last, rfl⟩
  · refine ⟨text ++ gap, piece, behind, by simp, hpiece, ?_⟩
    simp only [List.getLast?_nil, Option.getD_none, hspan, Position.after_append]
  · rw [List.concat_eq_append, List.append_assoc] at hothers
    obtain ⟨text', rest', rfl, hlast⟩ := hothers.drop
    obtain ⟨gap', piece', behind', rfl, hpiece', hspan', -⟩ := hlast.first
    refine ⟨text ++ gap, piece ++ (text' ++ gap' ++ piece'), behind', by simp,
      hpiece.append _ hpiece', ?_⟩
    simp only [List.concat_eq_append, List.getLast?_concat, Option.getD_some, hspan, hspan',
      Position.after_append]

namespace Lexer

variable {fuel : Nat} {opened : List Char}

/-- **The words of a text are laid out in it.** -/
theorem laid_words (h : words fuel p opened cs = some tokens) : Laid p cs tokens := by
  fun_induction words generalizing tokens with
  | case11 fuel p opened c tail _ _ _ _ ih =>
    obtain ⟨⟨lexeme, behind⟩, hlexeme, hbehind⟩ := Option.bind_eq_some_iff.1 h
    obtain ⟨opened', -, hopened⟩ := Option.bind_eq_some_iff.1 hbehind
    obtain ⟨more, hmore, hpure⟩ := Option.bind_eq_some_iff.1 hopened
    obtain rfl := Option.some.inj hpure
    obtain ⟨piece, hpiece, hsolid⟩ := exists_solid_lexeme? hlexeme
    have htaken : (c :: tail).take ((c :: tail).length - behind.length) = piece := by
      rw [hpiece, List.length_append, Nat.add_sub_cancel, List.take_left]
    have hwords := ih behind opened' hmore
    rw [htaken] at hwords ⊢
    rw [hpiece, ← List.nil_append (piece ++ behind)]
    exact .cons hsolid rfl hwords
  -- What is passed over becomes part of the gap before the next word.
  | case4 | case8 | case9 =>
    rename_i ih
    have hbehind := (ih h).behind
    exact hbehind
  | case5 =>
    rename_i ih
    have hbehind := (ih h).behind
    rwa [List.takeWhile_append_dropWhile] at hbehind
  | case1 | case6 =>
    obtain rfl := Option.some.inj h
    exact .nil _ _
  | case2 | case3 | case7 | case10 => cases h

theorem toFirstWord_ok {p' : Position} {inComment : Bool} {i : Indent}
    (h : toFirstWord p inComment i cs = some (p', rest)) :
    ∃ gap, cs = gap ++ rest ∧ p' = p.after gap := by
  fun_induction toFirstWord with
  | case1 | case8 =>
    obtain ⟨rfl, rfl⟩ := Prod.mk.inj (Option.some.inj h)
    exact ⟨[], rfl, rfl⟩
  | case2 | case3 | case5 | case6 | case7 =>
    rename_i ih
    obtain ⟨gap, hgap, rfl⟩ := ih h
    refine ⟨_ ++ gap, ?_, (Position.after_append _ _ gap).symm⟩
    rw [List.append_assoc, ← hgap]
    rfl
  | case4 | case9 => cases h

/-- **The words of a formula are laid out in its text**, line ends being line feeds. -/
theorem laid_lex (h : lex cs = some tokens) : Laid ⟨1, 0⟩ (unifyLineEnds cs) tokens := by
  obtain ⟨⟨p, rest⟩, hfirst, hwords⟩ := Option.bind_eq_some_iff.1 h
  obtain ⟨gap, hgap, rfl⟩ := toFirstWord_ok hfirst
  rw [hgap]
  exact (laid_words hwords).behind

end Lexer

end

end VisualScale
