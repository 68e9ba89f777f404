import VisualScale.Formula.Lexer
import VisualScale.Proofs.Identifier
import VisualScale.Proofs.Number.Numeral

/-!
# Taking a text apart, piece by piece

A text is taken apart from left to right, so what it is taken apart into can be told from its
pieces: a piece `Spells` some lexemes if it gives them in front of whatever else follows, as long as
what follows lets the piece end. Pieces side by side spell what they spell alone, one after the
other (`Spells.append`), and brackets around a piece add two marks (`Spells.bracketed`). There must
be room for the brackets that a piece opens (`Room`); without it the text is not taken apart at all.
-/

namespace VisualScale

namespace Lexer

/-! ## 1. Room for brackets -/

/-- With `k` brackets open before it, no more brackets are open anywhere in a text than may be. -/
def Room (k : Nat) (cs : List Char) : Prop :=
  ∀ before after, cs = before ++ after → k + before.count '(' ≤ before.count ')' + maxOpen

/-- As many brackets close in a text as open. -/
def Balanced (cs : List Char) : Prop := cs.count '(' = cs.count ')'

variable {k : Nat} {as bs cs : List Char}

theorem Balanced.append (h : Balanced as) (h' : Balanced bs) : Balanced (as ++ bs) := by
  unfold Balanced at *
  rw [List.count_append, List.count_append, h, h']

theorem Balanced.bracketed (h : Balanced cs) : Balanced ('(' :: (cs ++ [')'])) := by
  unfold Balanced at *
  rw [List.count_cons_self, List.count_cons_of_ne (by decide), List.count_append, List.count_append,
    h]
  rfl

theorem balanced_of_notMem (h : '(' ∉ cs) (h' : ')' ∉ cs) : Balanced cs := by
  unfold Balanced
  rw [List.count_eq_zero.2 h, List.count_eq_zero.2 h']

/-- A short text has room. -/
theorem room_of_length (h : k + cs.length ≤ maxOpen) : Room k cs := by
  intro before after heq
  subst heq
  have hcount := List.count_le_length (a := '(') (l := before)
  rw [List.length_append] at h
  omega

theorem Room.left (h : Room k (as ++ bs)) : Room k as := by
  intro before after heq
  subst heq
  exact h before (after ++ bs) (List.append_assoc ..)

theorem Room.right (h : Room k (as ++ bs)) (hb : Balanced as) : Room k bs := by
  intro before after heq
  subst heq
  have := h (as ++ before) after (List.append_assoc ..).symm
  unfold Balanced at hb
  rw [List.count_append, List.count_append] at this
  omega

theorem Room.lt_of_opening (h : Room k ('(' :: cs)) : k < maxOpen := h ['('] cs rfl

theorem Room.of_opening (h : Room k ('(' :: cs)) : Room (k + 1) cs := by
  intro before after heq
  subst heq
  have := h ('(' :: before) after rfl
  rw [List.count_cons_self, List.count_cons_of_ne (by decide)] at this
  omega

theorem room_of_notMem (h : '(' ∉ cs) (hk : k ≤ maxOpen) : Room k cs := by
  intro before after heq
  subst heq
  rw [List.count_eq_zero.2 fun hm => h (List.mem_append_left _ hm)]
  omega

theorem Room.append (ha : Room k as) (hb : Balanced as) (h : Room k bs) : Room k (as ++ bs) := by
  intro before after heq
  rcases List.append_eq_append_iff.1 heq with ⟨more, rfl, rfl⟩ | ⟨more, rfl, -⟩
  · have := h more after rfl
    unfold Balanced at hb
    rw [List.count_append, List.count_append]
    omega
  · exact ha before more rfl

theorem Room.opening (h : Room (k + 1) cs) : Room k ('(' :: cs) := by
  have hk := h [] cs rfl
  intro before after heq
  cases before with
  | nil => exact Nat.le_of_succ_le hk
  | cons c before =>
    obtain ⟨rfl, rfl⟩ := List.cons.inj heq
    have := h before after rfl
    rw [List.count_cons_self, List.count_cons_of_ne (by decide)]
    omega

theorem Room.bracketed (h : Room (k + 1) cs) (hb : Balanced cs) : Room k ('(' :: (cs ++ [')'])) :=
  (h.append hb (room_of_notMem (by decide) (h [] cs rfl))).opening

/-! ## 2. Lexemes in front of a text -/

/-- A text is taken apart into lexemes when `k` round brackets are open before it. -/
def Lexes (k : Nat) (cs : List Char) (ls : List Lexeme) : Prop :=
  ∀ fuel p, cs.length ≤ fuel → ∃ tokens,
    words fuel p (List.replicate k '(') cs = some tokens ∧ tokens.map Token.lexeme = ls

/-- The character is none of those that `words` itself looks at. -/
structure BeginsLexeme (c : Char) : Prop where
  not_space : isSpace c = false
  not_comment : c ≠ '#'
  not_lineFeed : c ≠ '\n'
  not_backslash : c ≠ '\\'

theorem lexes_nil : Lexes 0 [] [] := by
  intro fuel p _
  cases fuel <;> exact ⟨[], rfl, rfl⟩

theorem lexes_space {ls : List Lexeme} (h : Lexes k cs ls) : Lexes k (' ' :: cs) ls := by
  intro fuel p hf
  match fuel with
  | fuel + 1 => exact h fuel (p.after [' ']) (Nat.le_of_succ_le_succ hf)

theorem lexes_cons {c : Char} {rest : List Char} {l : Lexeme} {ls : List Lexeme} {k' : Nat}
    (hc : BeginsLexeme c) (hl : lexeme? (c :: cs) = some (l, rest)) (hshort : rest.length ≤ cs.length)
    (hb : bracketsAfter (List.replicate k '(') l = some (List.replicate k' '('))
    (h : Lexes k' rest ls) : Lexes k (c :: cs) (l :: ls) := by
  intro fuel p hf
  match fuel with
  | fuel + 1 =>
    have hf : cs.length ≤ fuel := Nat.le_of_succ_le_succ hf
    let stop := p.after ((c :: cs).take ((c :: cs).length - rest.length))
    obtain ⟨tokens, hw, ht⟩ := h fuel stop (Nat.le_trans hshort hf)
    refine ⟨⟨l, ⟨p, stop⟩⟩ :: tokens, ?_, congrArg (l :: ·) ht⟩
    unfold words
    rw [hc.not_space, if_neg Bool.false_ne_true, if_neg hc.not_comment, if_neg hc.not_lineFeed,
      if_neg hc.not_backslash, hl]
    show (bracketsAfter (List.replicate k '(') l >>= _) = _
    rw [hb]
    show (words fuel stop (List.replicate k' '(') rest >>= _) = _
    rw [hw]
    rfl

/-- A text can be taken apart when `k` round brackets are open before it. -/
def Separable (k : Nat) (cs : List Char) : Prop :=
  ∃ fuel p tokens, words fuel p (List.replicate k '(') cs = some tokens

theorem Separable.of_space (h : Separable k (' ' :: cs)) : Separable k cs := by
  obtain ⟨fuel, p, tokens, hw⟩ := h
  match fuel with
  | fuel + 1 => exact ⟨fuel, p.after [' '], tokens, hw⟩

theorem Separable.of_cons {c : Char} {rest : List Char} {l : Lexeme} (hc : BeginsLexeme c)
    (hl : lexeme? (c :: cs) = some (l, rest)) (h : Separable k (c :: cs)) :
    ∃ opened, bracketsAfter (List.replicate k '(') l = some opened ∧
      ∀ k', opened = List.replicate k' '(' → Separable k' rest := by
  obtain ⟨fuel, p, tokens, hw⟩ := h
  match fuel with
  | fuel + 1 =>
    unfold words at hw
    rw [hc.not_space, if_neg Bool.false_ne_true, if_neg hc.not_comment, if_neg hc.not_lineFeed,
      if_neg hc.not_backslash, hl] at hw
    obtain ⟨_, heq, hw⟩ := Option.bind_eq_some_iff.1 hw
    obtain rfl := Option.some.inj heq
    obtain ⟨opened, hopened, hw⟩ := Option.bind_eq_some_iff.1 hw
    obtain ⟨tokens, hw, -⟩ := Option.bind_eq_some_iff.1 hw
    refine ⟨opened, hopened, fun k' hk' => ?_⟩
    subst hk'
    exact ⟨fuel, _, tokens, hw⟩

/-! ## 3. Pieces of a text -/

/-- In front of what `ends` it, a text is taken apart into lexemes, and leaves the brackets as they
    are. Without room for its brackets it is not taken apart, whatever is behind it. -/
structure Spells (cs : List Char) (ls : List Lexeme) (ends : List Char → Prop) : Prop where
  balanced : Balanced cs
  lexes : ∀ ⦃k rest ms⦄, Room k cs → ends rest → Lexes k rest ms → Lexes k (cs ++ rest) (ls ++ ms)
  needs : ∀ ⦃k rest⦄, k ≤ maxOpen → ends rest → Separable k (cs ++ rest) →
    Room k cs ∧ Separable k rest

variable {ls ms : List Lexeme} {E F : List Char → Prop}

theorem Spells.append (h : Spells as ls E) (h' : Spells bs ms F)
    (hends : ∀ rest, F rest → E (bs ++ rest)) : Spells (as ++ bs) (ls ++ ms) F where
  balanced := h.balanced.append h'.balanced
  lexes k rest ns hroom hrest hns := by
    rw [List.append_assoc, List.append_assoc]
    exact h.lexes hroom.left (hends rest hrest) (h'.lexes (hroom.right h.balanced) hrest hns)
  needs k rest hk hrest hs := by
    rw [List.append_assoc] at hs
    obtain ⟨hroom, hs⟩ := h.needs hk (hends rest hrest) hs
    obtain ⟨hroom', hs⟩ := h'.needs hk hrest hs
    exact ⟨hroom.append h.balanced hroom', hs⟩

theorem Spells.mono (h : Spells as ls E) (hends : ∀ rest, F rest → E rest) : Spells as ls F where
  balanced := h.balanced
  lexes _ _ _ hroom hrest hns := h.lexes hroom (hends _ hrest) hns
  needs _ _ hk hrest hs := h.needs hk (hends _ hrest) hs

theorem spells_space : Spells [' '] [] fun _ => True where
  balanced := rfl
  lexes _ _ _ _ _ h := lexes_space h
  needs _ _ hk _ hs := ⟨room_of_notMem (by decide) hk, hs.of_space⟩

/-- One lexeme that is no bracket. -/
theorem spells_lexeme {c : Char} {l : Lexeme} (hc : BeginsLexeme c) (ho : '(' ∉ c :: cs)
    (hcl : ')' ∉ c :: cs) (hl : ∀ rest, E rest → lexeme? (c :: (cs ++ rest)) = some (l, rest))
    (hb : ∀ opened, bracketsAfter opened l = some opened) : Spells (c :: cs) [l] E where
  balanced := balanced_of_notMem ho hcl
  lexes _ _ _ _ hrest hms :=
    lexes_cons hc (hl _ hrest) (List.suffix_append _ _).length_le (hb _) hms
  needs k rest hk hrest hs := by
    obtain ⟨opened, hopened, hs⟩ := hs.of_cons hc (hl rest hrest)
    rw [hb] at hopened
    exact ⟨room_of_notMem ho hk, hs k (Option.some.inj hopened).symm⟩

/-! ## 4. Marks -/

/-- How a mark is written. -/
def charOf : Mark → Char
  | .plus => '+'
  | .minus => '-'
  | .times => '*'
  | .over => '/'
  | .dot => '.'
  | .comma => ','
  | .opening => '('
  | .closing => ')'

/-- A character and the one behind it neither make a longer sign nor begin a number. -/
def Apart (c : Char) (cs : List Char) : Prop :=
  ∀ d ∈ cs.head?, [c, d] ∉ signs2 ∧ (c = '.' → d ≠ '.' ∧ d.isDigit = false)

theorem pair_of_signs3 {c d e : Char} (h : [c, d, e] ∈ signs3) :
    [c, d] ∈ signs2 ∨ c = '.' ∧ d = '.' := by
  simp only [signs3, List.mem_cons, List.not_mem_nil, or_false, List.cons.injEq, and_true] at h
  rcases h with ⟨rfl, rfl, -⟩ | ⟨rfl, rfl, -⟩ | ⟨rfl, rfl, -⟩ | ⟨rfl, rfl, -⟩ | ⟨rfl, rfl, -⟩
  all_goals decide

theorem take_notMem_signs3 {c : Char} (h : Apart c cs) : (c :: cs).take 3 ∉ signs3 := by
  match cs, h with
  | [], _ => exact fun hm => by simp [signs3] at hm
  | [_], _ => exact fun hm => by simp [signs3] at hm
  | d :: e :: _, h =>
    intro hm
    obtain ⟨hpair, hdot⟩ := h d rfl
    rcases pair_of_signs3 hm with hm | ⟨hc, hd⟩
    · exact hpair hm
    · exact (hdot hc).1 hd

theorem take_notMem_signs2 {c : Char} (h : Apart c cs) : (c :: cs).take 2 ∉ signs2 := by
  match cs, h with
  | [], _ => exact fun hm => by simp [signs2] at hm
  | d :: _, h => exact (h d rfl).1

theorem lexeme?_mark {m : Mark} (h : Apart (charOf m) cs) :
    lexeme? (charOf m :: cs) = some (.mark m, cs) := by
  have hword : (isWordStart (charOf m) || isQuote (charOf m)) = false := by cases m <;> decide
  have hnumber : ((charOf m).isDigit || (charOf m == '.' && cs.head?.any Char.isDigit)) = false := by
    have hdigit : (charOf m).isDigit = false := by cases m <;> decide
    rw [hdigit, Bool.false_or, Bool.and_eq_false_imp]
    intro hdot
    cases cs with
    | nil => rfl
    | cons d cs => exact ((h d rfl).2 (beq_iff_eq.1 hdot)).2
  have hmark : markOf (charOf m) = some m := by cases m <;> rfl
  have hangle : ['<', '>'].isPrefixOf (charOf m :: cs) = false := by cases m <;> rfl
  unfold lexeme? sign?
  dsimp only
  rw [hword, if_neg Bool.false_ne_true, hnumber, if_neg Bool.false_ne_true,
    if_neg (by simpa using take_notMem_signs3 h), if_neg (by simpa using take_notMem_signs2 h),
    hangle, if_neg Bool.false_ne_true, hmark]
  rfl

theorem beginsLexeme_charOf (m : Mark) : BeginsLexeme (charOf m) := by
  constructor <;> cases m <;> decide

/-- A mark that is no bracket. -/
theorem spells_mark {m : Mark} (ho : m ≠ .opening) (hc : m ≠ .closing) :
    Spells [charOf m] [.mark m] (Apart (charOf m)) := by
  refine spells_lexeme (beginsLexeme_charOf m) ?_ ?_ (fun _ => lexeme?_mark) fun opened => ?_
  all_goals
    cases m
    all_goals first | decide | exact rfl | exact absurd rfl ho | exact absurd rfl hc

/-- A bracket makes no longer sign, whatever is behind it. -/
theorem apart_bracket {m : Mark} (hm : m = .opening ∨ m = .closing) (cs : List Char) :
    Apart (charOf m) cs := by
  intro d _
  rcases hm with rfl | rfl
  all_goals
    refine ⟨fun hsign => ?_, fun hdot => absurd hdot (by decide)⟩
    simp [signs2, charOf] at hsign

/-- A piece in brackets. -/
theorem Spells.bracketed (h : Spells cs ls E) (hends : ∀ rest, E (')' :: rest)) :
    Spells ('(' :: (cs ++ [')'])) (.mark .opening :: (ls ++ [.mark .closing])) fun _ => True where
  balanced := h.balanced.bracketed
  lexes k rest ms hroom _ hms := by
    have hclosed : Lexes (k + 1) (')' :: rest) (.mark .closing :: ms) :=
      lexes_cons (beginsLexeme_charOf .closing) (lexeme?_mark (apart_bracket (.inr rfl) _))
        (Nat.le_refl _) rfl hms
    have hinside := h.lexes hroom.of_opening.left (hends rest) hclosed
    have hopened : bracketsAfter (List.replicate k '(') (.mark .opening) =
        some (List.replicate (k + 1) '(') := by
      show (if (List.replicate k '(').length < maxOpen then _ else _) = _
      rw [List.length_replicate, if_pos hroom.lt_of_opening]
      rfl
    rw [List.cons_append, List.cons_append, List.append_assoc, List.append_assoc]
    exact lexes_cons (beginsLexeme_charOf .opening) (lexeme?_mark (apart_bracket (.inl rfl) _))
      (Nat.le_refl _) hopened hinside
  needs k rest _ _ hs := by
    rw [List.cons_append, List.append_assoc] at hs
    obtain ⟨opened, hopened, hinside⟩ := hs.of_cons (beginsLexeme_charOf .opening)
      (lexeme?_mark (m := .opening) (apart_bracket (.inl rfl) _))
    obtain ⟨hk, hpush⟩ := Option.ite_none_right_eq_some.1 hopened
    rw [List.length_replicate] at hk
    obtain ⟨hroom, hclosed⟩ :=
      h.needs hk (hends rest) (hinside (k + 1) (Option.some.inj hpush).symm)
    obtain ⟨opened, hopened, hbehind⟩ := hclosed.of_cons (beginsLexeme_charOf .closing)
      (lexeme?_mark (m := .closing) (apart_bracket (.inr rfl) _))
    exact ⟨hroom.bracketed h.balanced, hbehind k (Option.some.inj hopened).symm⟩

/-! ## 5. Names and numbers -/

theorem isWordChar_of_isWordStart {c : Char} (h : isWordStart c = true) :
    Numeral.isWordChar c = true := by
  unfold isWordStart at h
  unfold Numeral.isWordChar Char.isAlphanum
  rcases Bool.or_eq_true _ _ |>.mp h with h | h
  · rcases Bool.or_eq_true _ _ |>.mp h with h | h
    · rw [h, Bool.true_or, Bool.true_or, Bool.true_or]
    · rw [h, Bool.or_true, Bool.true_or]
  · rw [h, Bool.or_true]

theorem beginsLexeme_of_isWordChar {c : Char} (h : Numeral.isWordChar c = true) :
    BeginsLexeme c := by
  constructor
  · refine Bool.eq_false_iff.2 fun hs => ?_
    unfold isSpace at hs
    simp only [Bool.or_eq_true, beq_iff_eq] at hs
    rcases hs with (rfl | rfl) | rfl
    all_goals exact absurd h (by decide)
  all_goals
    intro heq
    subst heq
    exact absurd h (by decide)

/-- Neither a character of words nor a quote stands at the start of a text. -/
def EndsWord (cs : List Char) : Prop :=
  ∀ c ∈ cs.head?, Numeral.isWordChar c = false ∧ isQuote c = false

theorem isWordChar_of_isIdentifier (h : Text.isIdentifier cs = true) :
    ∀ c ∈ cs, Numeral.isWordChar c = true := by
  cases cs with
  | nil => cases h
  | cons d cs =>
    obtain ⟨hstart, hparts⟩ := Bool.and_eq_true _ _ |>.mp h
    intro c hc
    rcases List.mem_cons.mp hc with rfl | hc
    · exact isWordChar_of_isWordStart (Text.isWordStart_of_isIdentifierStart hstart)
    · exact Text.isWordChar_of_isIdentifierPart (List.all_eq_true.mp hparts c hc)

theorem exists_cons_of_isIdentifier (h : Text.isIdentifier cs = true) :
    ∃ c rest, cs = c :: rest ∧ Text.isIdentifierStart c = true := by
  cases cs with
  | nil => cases h
  | cons c rest => exact ⟨c, rest, rfl, (Bool.and_eq_true _ _ |>.mp h).1⟩

/-- A run of characters of words, in front of what ends it. -/
theorem takeWhile_append (hw : ∀ c ∈ cs, Numeral.isWordChar c = true) {rest : List Char}
    (h : EndsWord rest) : (cs ++ rest).takeWhile Numeral.isWordChar = cs := by
  induction cs with
  | nil =>
    cases rest with
    | nil => rfl
    | cons d rest => exact List.takeWhile_cons_of_neg (Bool.eq_false_iff.1 (h d rfl).1)
  | cons c cs ih =>
    rw [List.cons_append, List.takeWhile_cons_of_pos (hw c List.mem_cons_self),
      ih fun d hd => hw d (List.mem_cons_of_mem _ hd)]

theorem dropWhile_append (hw : ∀ c ∈ cs, Numeral.isWordChar c = true) {rest : List Char}
    (h : EndsWord rest) : (cs ++ rest).dropWhile Numeral.isWordChar = rest := by
  have hsplit := List.takeWhile_append_dropWhile (p := Numeral.isWordChar) (l := cs ++ rest)
  rw [takeWhile_append hw h] at hsplit
  exact List.append_cancel_left hsplit

theorem wordOrText_append (hw : ∀ c ∈ cs, Numeral.isWordChar c = true) {rest : List Char}
    (h : EndsWord rest) : wordOrText (cs ++ rest) = (wordLexeme cs).map (·, rest) := by
  unfold wordOrText
  dsimp only
  rw [takeWhile_append hw h, dropWhile_append hw h]
  cases rest with
  | nil => rfl
  | cons d rest =>
    dsimp only
    rw [(h d rfl).2, if_neg Bool.false_ne_true]

/-- The name that a word is read as: its one spelling. -/
def nameOf (word : String) : String := .ofList (Text.normalized word.toList)

/-- The lexeme of an identifier: a reserved word, or a name. -/
theorem wordLexeme_of_isIdentifier (h : Text.isIdentifier cs = true) :
    wordLexeme cs = some (if isKeyword cs then .other (.keyword (.ofList cs))
      else .name (nameOf (.ofList cs))) := by
  unfold nameOf
  rw [String.toList_ofList]
  unfold wordLexeme
  rw [if_pos h]
  split <;> rfl

/-- A word. -/
theorem spells_word {l : Lexeme} (h : Text.isIdentifier cs = true) (hl : wordLexeme cs = some l) :
    Spells cs [l] EndsWord := by
  have hchars := isWordChar_of_isIdentifier h
  have hword (rest : List Char) (hrest : EndsWord rest) :
      wordOrText (cs ++ rest) = some (l, rest) := by
    rw [wordOrText_append hchars hrest, hl]
    rfl
  have hb (opened : List Char) : bracketsAfter opened l = some opened := by
    rw [wordLexeme_of_isIdentifier h] at hl
    obtain rfl := Option.some.inj hl
    split <;> rfl
  obtain ⟨c, more, rfl, hstart⟩ := exists_cons_of_isIdentifier h
  have hstart := Text.isWordStart_of_isIdentifierStart hstart
  refine spells_lexeme (beginsLexeme_of_isWordChar (isWordChar_of_isWordStart hstart)) ?_ ?_
    (fun rest hrest => ?_) hb
  · exact fun hm => absurd (hchars _ hm) (by decide)
  · exact fun hm => absurd (hchars _ hm) (by decide)
  · show (if isWordStart c || isQuote c then wordOrText (c :: (more ++ rest)) else _) = _
    rw [hstart, Bool.true_or, if_pos rfl]
    exact hword rest hrest

/-- A word that is a name under its own spelling. -/
structure IsName (name : String) : Prop where
  identifier : Text.isIdentifier name.toList = true
  not_keyword : isKeyword name.toList = false
  normalized : Text.normalized name.toList = name.toList

theorem isName_iff {name : String} : IsName name ↔
    (Text.isIdentifier name.toList = true ∧ isKeyword name.toList = false) ∧
      nameOf name = name := by
  have hspelling : nameOf name = name ↔ Text.normalized name.toList = name.toList := by
    rw [← String.toList_inj, nameOf, String.toList_ofList]
  rw [hspelling]
  exact ⟨fun h => ⟨⟨h.identifier, h.not_keyword⟩, h.normalized⟩, fun ⟨⟨h, h'⟩, h''⟩ => ⟨h, h', h''⟩⟩

theorem wordLexeme_of_isName {name : String} (h : IsName name) :
    wordLexeme name.toList = some (.name name) := by
  rw [wordLexeme_of_isIdentifier h.identifier, h.not_keyword, if_neg Bool.false_ne_true,
    String.ofList_toList, (isName_iff.1 h).2]

theorem not_wordStart_of_isDigit {c : Char} (h : c.isDigit = true) :
    (isWordStart c || isQuote c) = false := by
  have hrange : 48 ≤ c.toNat ∧ c.toNat ≤ 57 := by
    simpa [Char.isDigit, UInt32.le_iff_toNat_le] using h
  refine Bool.eq_false_iff.2 fun hw => ?_
  unfold isWordStart isQuote at hw
  delta Char.isAlpha Char.isUpper Char.isLower at hw
  simp only [Bool.or_eq_true, Bool.and_eq_true, decide_eq_true_eq, beq_iff_eq, ge_iff_le,
    UInt32.le_iff_toNat_le] at hw
  have hcases : (((65 ≤ c.toNat ∧ c.toNat ≤ 90 ∨ 97 ≤ c.toNat ∧ c.toNat ≤ 122) ∨ c = '_') ∨
      128 ≤ c.toNat) ∨ c = '"' ∨ c = '\'' := hw
  rcases hcases with ((hcases | rfl) | hcases) | rfl | rfl
  · omega
  · cases h
  · omega
  · cases h
  · cases h

theorem lexeme?_number {rest : List Char} (h : Numeral.IsNumeral cs) :
    lexeme? (cs ++ rest) = Numeral.scan (cs ++ rest) := by
  obtain ⟨c, more, rfl, hc⟩ := h.first
  show (if isWordStart c || isQuote c then _ else if c.isDigit || _ then _ else _) = _
  rw [not_wordStart_of_isDigit hc, if_neg Bool.false_ne_true, hc, Bool.true_or, if_pos rfl]

/-- A number without a sign. -/
theorem spells_number {l : Lexeme} (hcs : Numeral.IsNumeral cs)
    (hl : ∀ rest, Numeral.Ends rest → Numeral.scan (cs ++ rest) = some (l, rest))
    (hb : ∀ opened, bracketsAfter opened l = some opened) : Spells cs [l] Numeral.Ends := by
  have hchars {c : Char} (hc : ¬ Numeral.IsNumeralChar c) : c ∉ cs :=
    fun hm => hc (hcs.chars c hm)
  have hlexeme (rest : List Char) (hrest : Numeral.Ends rest) :
      lexeme? (cs ++ rest) = some (l, rest) := (lexeme?_number hcs).trans (hl rest hrest)
  have ho := hchars (c := '(') (by rintro (h | h) <;> exact absurd h (by decide))
  have hcl := hchars (c := ')') (by rintro (h | h) <;> exact absurd h (by decide))
  obtain ⟨c, more, rfl, hc⟩ := hcs.first
  exact spells_lexeme (beginsLexeme_of_isWordChar (Numeral.isWordChar_of_isDigit hc)) ho hcl
    hlexeme hb

/-- The digits of a whole number. -/
theorem spells_whole {n : Nat} (hn : (Nat.toDigits 10 n).length ≤ Numeral.maxWholeDigits) :
    Spells (Nat.toDigits 10 n) [.whole n] Numeral.Ends :=
  spells_number (.of_digits (Decimal.allDigits_toDigits n) Nat.toDigits_ne_nil)
    (fun _ => Numeral.scan_toDigits hn) fun _ => rfl

/-- The text of a double without its sign. -/
theorem spells_magnitudeText {d : Double} (hd : d.isFinite = true) :
    Spells d.magnitudeText [.real d.magnitude] Numeral.Ends :=
  spells_number (Numeral.isNumeral_magnitudeText hd) (fun _ => Numeral.scan_magnitudeText hd)
    fun _ => rfl

end Lexer

end VisualScale
