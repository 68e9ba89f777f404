import VisualScale.Formula.Parsed
import VisualScale.Proofs.Language.Machine
import VisualScale.Proofs.Language.Phrases

/-!
# Which texts are formulas

A text is a formula exactly if its words derive from the grammar, and then it is the formula that
they write; every other text is refused for its wording (`ParsedFormula.ofText_ok_iff_writes`). The
refusal says what is wrong by way of the wider grammar. That one agrees: of the phrases it reads,
those without a refusal are the formulas, each one the formula that its words write.
-/

namespace VisualScale

/-- The words of a text, once white space is gone from its ends, derive from the grammar and write a
    formula. -/
def Writes (text : String) (f : Formula) : Prop :=
  ∃ tokens o, Lexer.lex (Text.trim text.toList) = some tokens ∧ Derives .expr tokens o ∧
    o.formula = f

/-- A text writes one formula at most. -/
theorem Writes.eq {text : String} {f g : Formula} (hf : Writes text f) (hg : Writes text g) :
    f = g := by
  obtain ⟨tokens, o, hlex, ho, rfl⟩ := hf
  obtain ⟨tokens', o', hlex', ho', rfl⟩ := hg
  obtain rfl := Option.some.inj (hlex.symm.trans hlex')
  exact ho.formula_eq ho'

namespace ParsedFormula

variable {text : String} {tokens : List Token}

/-- What a text writes is read from its words. -/
theorem writes_iff_read (h : Lexer.lex (Text.trim text.toList) = some tokens) {f : Formula} :
    Writes text f ↔ Formula.read tokens = some f := by
  rw [Formula.read_eq_some_iff]
  constructor
  · rintro ⟨tokens', o, h', ho, hf⟩
    obtain rfl := Option.some.inj (h.symm.trans h')
    exact ⟨o, ho, hf⟩
  · rintro ⟨o, ho, hf⟩
    exact ⟨tokens, o, h, ho, hf⟩

/-- Of the phrases of the wider grammar, those without a refusal are the formulas. -/
theorem exists_writes_iff (h : Lexer.lex (Text.trim text.toList) = some tokens) :
    (∃ f, Writes text f) ↔
      ∃ ph, Phrase.read (Text.trim text.toList).length tokens = some ph ∧ ph.refusal? = none := by
  constructor
  · rintro ⟨f, tokens', o, h', ho, -⟩
    obtain rfl := Option.some.inj (h.symm.trans h')
    exact ho.exists_phrase (Lexer.length_le_of_lex h)
  · rintro ⟨ph, hph, hr⟩
    obtain ⟨o, ho, -⟩ := Phrase.exists_derives (Lexer.genuine_of_lex h) hph hr
    exact ⟨o.formula, tokens, o, h, ho, rfl⟩

/-- A phrase without a refusal is the formula that is read from its words. -/
theorem formula?_eq_some_iff {cs : List Char} {ph : Phrase} (hlex : Lexer.lex cs = some tokens)
    (hph : Phrase.read cs.length tokens = some ph) (hr : ph.refusal? = none) {f : Formula} :
    ph.formula? = some f ↔ Formula.read tokens = some f := by
  obtain ⟨o, ho, hformula⟩ := Phrase.exists_derives (Lexer.genuine_of_lex hlex) hph hr
  have hread : Formula.read tokens = some o.formula := Formula.read_eq_some_iff.2 ⟨o, ho, rfl⟩
  rw [hformula, hread]

/-- Nothing is written by white space alone. -/
theorem not_writes_of_trim_eq_nil (h : Text.trim text.toList = []) (f : Formula) :
    ¬ Writes text f := by
  rintro ⟨tokens, o, hlex, ho, -⟩
  rw [h] at hlex
  obtain rfl : [] = tokens := Option.some.inj hlex
  exact ho.ne_nil rfl

/-- Whatever the reason, words that are no formula are refused for their wording. -/
theorem kind_whyNot (source : String) (length : Nat) (tokens : List Token) :
    (whyNot source length tokens).fault.kind = .wording := by
  unfold whyNot
  split
  · rfl
  · rfl

/-- What a text without null characters comes to: the formula that it writes, or a failure for its
    wording where it writes none. -/
theorem ofText_cases (h : '\x00' ∉ text.toList) :
    (∃ f, ofText text = .ok ⟨String.ofList (Text.trim text.toList), f⟩ ∧ Writes text f) ∨
      ∃ failure, ofText text = .error failure ∧ failure.fault.kind = .wording ∧
        ∀ f, ¬ Writes text f := by
  have hnul : (Text.trim text.toList).contains '\x00' = false :=
    Bool.eq_false_iff.2 fun hmem => h (Text.mem_of_mem_trim (List.contains_iff_mem.1 hmem))
  unfold ofText
  dsimp only
  split
  · next hempty => exact .inr ⟨_, rfl, rfl, not_writes_of_trim_eq_nil hempty⟩
  unfold ofTrimmed
  dsimp only
  rw [hnul, if_neg Bool.false_ne_true]
  cases hlex : Lexer.lex (Text.trim text.toList) with
  | none =>
    refine .inr ⟨_, rfl, rfl, ?_⟩
    rintro f ⟨tokens, o, hlex', -⟩
    cases hlex.symm.trans hlex'
  | some tokens =>
    dsimp only
    cases hread : Formula.read tokens with
    | some f => exact .inl ⟨f, rfl, (writes_iff_read hlex).2 hread⟩
    | none =>
      refine .inr ⟨_, rfl, kind_whyNot _ _ _, fun f hf => ?_⟩
      cases hread.symm.trans ((writes_iff_read hlex).1 hf)

/-- A text that is a formula writes the formula. -/
theorem writes_of_ofText {p : ParsedFormula} (h : ofText text = .ok p) : Writes text p.formula := by
  unfold ofText at h
  dsimp only at h
  split at h
  · cases h
  unfold ofTrimmed at h
  dsimp only at h
  split at h
  · cases h
  split at h
  · cases h
  next tokens hlex =>
  split at h
  · next f hread =>
    obtain rfl := Except.ok.inj h
    exact (writes_iff_read hlex).2 hread
  · cases h

/-- A text that writes a formula is one. -/
theorem exists_ofText_of_writes (h : '\x00' ∉ text.toList) {f : Formula} (hf : Writes text f) :
    ∃ p, ofText text = .ok p ∧ p.formula = f := by
  rcases ofText_cases h with ⟨g, hok, hg⟩ | ⟨-, -, -, hnone⟩
  · exact ⟨_, hok, hg.eq hf⟩
  · exact absurd hf (hnone f)

/-- **A text is a formula exactly if its words derive from the grammar**, and then it is the formula
    that they write. Every other text is refused for its wording; and a text is none of the others
    exactly if the wider grammar reads a phrase in it that has no refusal. Such a phrase is the
    formula that the text writes. -/
theorem ofText_ok_iff_writes (text : String) (h : '\x00' ∉ text.toList) :
    (∀ p, ofText text = .ok p ↔
      p.source = String.ofList (Text.trim text.toList) ∧ Writes text p.formula) ∧
    ((∀ f, ¬ Writes text f) →
      ∃ failure, ofText text = .error failure ∧ failure.fault.kind = .wording) ∧
    ∀ tokens, Lexer.lex (Text.trim text.toList) = some tokens → ((∃ f, Writes text f) ↔
      ∃ ph, Phrase.read (Text.trim text.toList).length tokens = some ph ∧ ph.refusal? = none) ∧
      ∀ ph, Phrase.read (Text.trim text.toList).length tokens = some ph → ph.refusal? = none →
        ∀ f, ph.formula? = some f ↔ Writes text f := by
  refine ⟨fun p => ?_, fun hnone => ?_, fun tokens hlex =>
    ⟨exists_writes_iff hlex, fun ph hph hr f => ?_⟩⟩
  · obtain ⟨source, formula⟩ := p
    rcases ofText_cases h with ⟨f, hok, hf⟩ | ⟨failure, herror, -, hnone⟩
    · rw [hok]
      constructor
      · intro heq
        obtain ⟨rfl, rfl⟩ := ParsedFormula.mk.inj (Except.ok.inj heq)
        exact ⟨rfl, hf⟩
      · rintro ⟨rfl, hformula⟩
        rw [hf.eq hformula]
    · rw [herror]
      exact ⟨fun heq => (nomatch heq), fun ⟨_, hf⟩ => absurd hf (hnone formula)⟩
  · rcases ofText_cases h with ⟨f, -, hf⟩ | ⟨failure, herror, hkind, -⟩
    · exact absurd hf (hnone f)
    · exact ⟨failure, herror, hkind⟩
  · rw [writes_iff_read hlex]
    exact formula?_eq_some_iff hlex hph hr

/-- The tree of a difference, whose operations group from the left. -/
theorem writes_difference : '\x00' ∉ " x - 2 - y ".toList ∧ Writes " x - 2 - y " (.binary .sub
    (.binary .sub (.name "x" ⟨⟨1, 0⟩, ⟨1, 1⟩⟩) (.whole 2 ⟨⟨1, 4⟩, ⟨1, 5⟩⟩) ⟨⟨1, 0⟩, ⟨1, 5⟩⟩)
    (.name "y" ⟨⟨1, 8⟩, ⟨1, 9⟩⟩) ⟨⟨1, 0⟩, ⟨1, 9⟩⟩) := by
  have hnul : '\x00' ∉ " x - 2 - y ".toList := by decide
  exact ⟨hnul, (((ofText_ok_iff_writes _ hnul).1 ⟨_, _⟩).1 rfl).2⟩

end ParsedFormula

end VisualScale
