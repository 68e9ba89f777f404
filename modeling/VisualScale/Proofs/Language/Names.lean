import VisualScale.Proofs.Language.Accepted
import VisualScale.Proofs.Source.Words
import VisualScale.Proofs.Spelling

/-!
# The words in a formula

What derives from the grammar holds no word that only the wider language knows
(`Derives.not_other`), and a formula reads no names but those among its words
(`Derives.exists_name`). A name among the words of a text is an identifier in its one spelling, and
that is an identifier itself, so every name that a formula reads is one
(`ParsedFormula.isIdentifier_of_reads`).
-/

namespace VisualScale

open Lexer Reader

/-! ## 1. Words that derive -/

/-- What is listed is a word of a piece or a comma. -/
theorem Listed.mem_cases {pieces : List (List Token)} {ts : List Token} (h : Listed pieces ts)
    {t : Token} (ht : t ∈ ts) : (∃ piece ∈ pieces, t ∈ piece) ∨ t.lexeme = .mark .comma := by
  induction h with
  | nil => cases ht
  | last piece => exact .inl ⟨piece, List.mem_singleton_self _, ht⟩
  | cons hcomma _ ih =>
    rcases List.mem_append.1 ht with ht | ht
    · exact .inl ⟨_, List.mem_cons_self, ht⟩
    rcases List.mem_cons.1 ht with rfl | ht
    · exact .inr hcomma
    · exact (ih ht).imp_left fun ⟨piece, hpiece, ht⟩ =>
        ⟨piece, List.mem_cons_of_mem _ hpiece, ht⟩

/-- **No word that only the wider language knows stands in a formula.** -/
theorem Derives.not_other {symbol : Symbol} {ts : List Token} {o : Operand}
    (h : Derives symbol ts o) {t : Token} (ht : t ∈ ts) (x : OtherLexeme) :
    t.lexeme ≠ .other x := by
  have hword {u : Token} {l : Lexeme} (hu : u.lexeme = l) (hl : l ≠ .other x) :
      u.lexeme ≠ .other x := hu ▸ hl
  induction h with
  | term _ ih | factor _ ih | primary _ ih | atom _ ih => exact ih ht
  | sum _ _ hop _ ihl ihr | product _ _ hop _ ihl ihr =>
    rcases List.mem_append.1 ht with ht | ht
    · exact ihl ht
    rcases List.mem_cons.1 ht with rfl | ht
    · exact hword hop (by nofun)
    · exact ihr ht
  | signed hsign _ ih =>
    rcases List.mem_cons.1 ht with rfl | ht
    · exact hword hsign (by nofun)
    · exact ih ht
  | component _ hdot hfield ih =>
    rcases List.mem_append.1 ht with ht | ht
    · exact ih ht
    rcases List.mem_cons.1 ht with rfl | ht
    · exact hword hdot (by nofun)
    · exact List.mem_singleton.1 ht ▸ hword hfield (by nofun)
  | call _ hopening _ hlisted hclosing ihcallee ihargs =>
    rcases List.mem_append.1 ht with ht | ht
    · exact ihcallee ht
    rcases List.mem_cons.1 ht with rfl | ht
    · exact hword hopening (by nofun)
    rcases List.mem_append.1 ht with ht | ht
    · rcases hlisted.mem_cases ht with ⟨_, hpiece, ht⟩ | hcomma
      · obtain ⟨a, ha, rfl⟩ := List.mem_map.1 hpiece
        exact ihargs a ha ht
      · exact hword hcomma (by nofun)
    · exact List.mem_singleton.1 ht ▸ hword hclosing (by nofun)
  | calleeName hname | name hname | whole hname | real hname =>
    exact List.mem_singleton.1 ht ▸ hword hname (by nofun)
  | calleeGroup hopening _ hclosing ih | group hopening _ hclosing ih =>
    rcases List.mem_cons.1 ht with rfl | ht
    · exact hword hopening (by nofun)
    rcases List.mem_append.1 ht with ht | ht
    · exact ih ht
    · exact List.mem_singleton.1 ht ▸ hword hclosing (by nofun)

/-- What formulas side by side read, one of them reads. -/
theorem Formula.exists_reads_of_readsOfAll {fs : List Formula} {n : String}
    (h : n ∈ readsOfAll fs) : ∃ f ∈ fs, n ∈ f.reads := by
  induction fs with
  | nil => cases h
  | cons f fs ih =>
    rcases List.mem_append.1 h with h | h
    · exact ⟨f, List.mem_cons_self, h⟩
    · obtain ⟨g, hg, h⟩ := ih h
      exact ⟨g, List.mem_cons_of_mem _ hg, h⟩

/-- What is listed holds the words of its pieces. -/
theorem Listed.mem_of_piece {pieces : List (List Token)} {ts piece : List Token}
    (h : Listed pieces ts) (hpiece : piece ∈ pieces) {t : Token} (ht : t ∈ piece) : t ∈ ts := by
  induction h with
  | nil => cases hpiece
  | last => exact List.mem_singleton.1 hpiece ▸ ht
  | cons _ _ ih =>
    rcases List.mem_cons.1 hpiece with rfl | hpiece
    · exact List.mem_append_left _ ht
    · exact List.mem_append_right _ (List.mem_cons_of_mem _ (ih hpiece))

/-- **A formula reads no names but those among its words.** -/
theorem Derives.exists_name {symbol : Symbol} {ts : List Token} {o : Operand}
    (h : Derives symbol ts o) {n : String} (hn : n ∈ o.formula.reads) :
    ∃ t ∈ ts, t.lexeme = .name n := by
  have hmono {us vs : List Token} (hus : ∃ t ∈ us, t.lexeme = .name n)
      (hsub : ∀ t ∈ us, t ∈ vs) : ∃ t ∈ vs, t.lexeme = .name n := by
    obtain ⟨t, ht, hname⟩ := hus
    exact ⟨t, hsub t ht, hname⟩
  induction h with
  | term _ ih | factor _ ih | primary _ ih | atom _ ih => exact ih hn
  | sum _ _ _ _ ihl ihr | product _ _ _ _ ihl ihr =>
    rcases List.mem_append.1 hn with hn | hn
    · exact hmono (ihl hn) fun t ht => List.mem_append_left _ ht
    · exact hmono (ihr hn) fun t ht => List.mem_append_right _ (List.mem_cons_of_mem _ ht)
  | signed _ _ ih => exact hmono (ih hn) fun t ht => List.mem_cons_of_mem _ ht
  | component _ _ _ ih => exact hmono (ih hn) fun t ht => List.mem_append_left _ ht
  | call _ _ _ hlisted _ _ ihargs =>
    obtain ⟨f, hf, hn⟩ := Formula.exists_reads_of_readsOfAll hn
    obtain ⟨a, ha, rfl⟩ := List.mem_map.1 hf
    refine hmono (ihargs a ha hn) fun t ht => List.mem_append_right _ (List.mem_cons_of_mem _ ?_)
    exact List.mem_append_left _ (hlisted.mem_of_piece (List.mem_map_of_mem ha) ht)
  | calleeName hname | name hname =>
    obtain rfl := List.mem_singleton.1 hn
    exact ⟨_, List.mem_singleton_self _, hname⟩
  | whole | real => cases hn
  | calleeGroup _ _ _ ih | group _ _ _ ih =>
    exact hmono (ih hn) fun t ht => List.mem_cons_of_mem _ (List.mem_append_left _ ht)

/-! ## 2. Names among the words of a text -/

namespace Lexer

variable {cs rest : List Char} {id : String}

theorem exists_word_of_wordLexeme (h : wordLexeme cs = some (.name id)) :
    Text.isIdentifier cs = true ∧ id = nameOf (.ofList cs) := by
  have hid : Text.isIdentifier cs = true := by
    unfold wordLexeme at h
    split at h
    · cases h
    split at h
    · assumption
    · cases h
  rw [wordLexeme_of_isIdentifier hid] at h
  split at h
  · cases h
  · exact ⟨hid, (Lexeme.name.inj (Option.some.inj h)).symm⟩

/-- A name is an identifier, in its one spelling. -/
theorem exists_word_of_lexeme? (h : lexeme? cs = some (.name id, rest)) :
    ∃ word, Text.isIdentifier word = true ∧ id = nameOf (.ofList word) := by
  have hword {word rest' : List Char}
      (h : (wordLexeme word).map (·, rest') = some (.name id, rest)) :
      ∃ word, Text.isIdentifier word = true ∧ id = nameOf (.ofList word) := by
    obtain ⟨l, hl, heq⟩ := Option.map_eq_some_iff.1 h
    obtain ⟨rfl, -⟩ := Prod.mk.inj heq
    exact ⟨word, exists_word_of_wordLexeme hl⟩
  unfold lexeme? at h
  split at h
  · cases h
  split at h
  · unfold wordOrText at h
    dsimp only at h
    split at h
    · split at h
      · split at h
        · obtain ⟨x, hx⟩ := (Quote.scan_other h).1
          cases hx
        · exact hword h
      · exact hword h
    · exact hword h
  split at h
  · cases Numeral.isNumber_scan h
  · obtain ⟨⟨sign, n⟩, hsign, heq⟩ := Option.map_eq_some_iff.1 h
    obtain ⟨rfl, -⟩ := Prod.mk.inj heq
    unfold sign? at hsign
    repeat' split at hsign
    all_goals cases hsign

/-- **A name among the words of a text is an identifier.** -/
theorem isIdentifier_of_lex {tokens : List Token} (h : lex cs = some tokens) {t : Token}
    (ht : t ∈ tokens) (hname : t.lexeme = .name id) : Text.isIdentifier id.toList = true := by
  obtain ⟨⟨p, behind⟩, -, hwords⟩ := Option.bind_eq_some_iff.1 h
  obtain ⟨part, rest, hlexeme⟩ := (words_ok hwords).2 t ht
  rw [hname] at hlexeme
  obtain ⟨word, hword, rfl⟩ := exists_word_of_lexeme? hlexeme
  unfold nameOf
  rw [String.toList_ofList, String.toList_ofList]
  exact Text.isIdentifier_normalized hword

end Lexer

/-- **Every name that a formula reads is an identifier.** -/
theorem ParsedFormula.isIdentifier_of_reads {text : String} {p : ParsedFormula}
    (h : ofText text = .ok p) {n : String} (hn : n ∈ p.formula.reads) :
    Text.isIdentifier n.toList = true := by
  obtain ⟨tokens, o, hlex, ho, hformula⟩ := writes_of_ofText h
  obtain ⟨t, ht, hname⟩ := ho.exists_name (hformula ▸ hn)
  exact isIdentifier_of_lex hlex ht hname

end VisualScale
