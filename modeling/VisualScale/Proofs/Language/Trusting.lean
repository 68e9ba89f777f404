import Mathlib.Data.List.Induction
import VisualScale.Formula.Focused
import VisualScale.Proofs.Failing
import VisualScale.Proofs.Language.Accepted

/-!
# What the validator lets through, the compiler can handle

The compiler trusts the validator, and both keep a focus that messages take their place from. Here
the two are tied to the definitions that keep no focus, and that compile formulas only:

* `restores_compileIn`, `restores_validateIn` -- whatever is read or compiled, and however that
  ends, the focus is afterwards what it was before;
* `comesTo_compileIn` -- compiling a phrase that is a formula gives what compiling the formula
  gives, and a fault is put into words with the place where it arose;
* `ParsedFormula.comesTo_readIn` -- reading under a focus is reading, whether it fails or not;
* `ParsedFormula.compileIn_of_ofText` -- so a text that was read as a formula is compiled without
  getting to a node that the compiler has no rule for.
-/

namespace VisualScale

open Focused

/-! ## 1. Work that leaves the focus -/

/-- Under a focus the work has a result, and leaves the focus as it was. -/
def ComesTo {α : Type} (focus : Focus) (w : Focused α) (r : Except Stop α) : Prop :=
  w focus = (r, focus)

/-- However the work ends, it leaves the focus as it was. -/
def Restores {α : Type} (w : Focused α) : Prop := ∀ focus, ∃ r, ComesTo focus w r

variable {α β : Type} {focus : Focus} {w : Focused α}

theorem comesTo_pure (focus : Focus) (a : α) : ComesTo focus (pure a) (.ok a) := rfl

theorem comesTo_stuck (focus : Focus) (gap : Gap) :
    ComesTo focus (stuck gap : Focused α) (.error (.gap gap)) := rfl

theorem comesTo_raise (focus : Focus) (fault : Fault) :
    ComesTo focus (raise fault : Focused α) (.error (.fault fault (focus.words fault))) := rfl

theorem ComesTo.bind_of_ok {a : α} (h : ComesTo focus w (.ok a)) (k : α → Focused β) :
    (w >>= k) focus = k a focus := by
  show (ExceptT.bindCont k (w focus).1 : StateM Focus (Except Stop β)) (w focus).2 = k a focus
  rw [h]
  rfl

theorem ComesTo.bind_of_error {stop : Stop} (h : ComesTo focus w (.error stop))
    (k : α → Focused β) :
    ComesTo focus (w >>= k) (.error stop) := by
  show (ExceptT.bindCont k (w focus).1 : StateM Focus (Except Stop β)) (w focus).2 = _
  rw [h]
  rfl

theorem comesTo_within {span : Span} {r : Except Stop α}
    (h : ComesTo (focus.enterNode (some (some span.place))) w r) :
    ComesTo focus (within span w) r := by
  unfold ComesTo within
  rw [h]
  rfl

theorem comesTo_inSource {source : String} {r : Except Stop α}
    (h : ComesTo (focus.enterSource source) w r) : ComesTo focus (inSource source w) r := by
  unfold ComesTo inSource
  rw [h]
  rfl

theorem restores_pure (a : α) : Restores (pure a : Focused α) :=
  fun focus => ⟨_, comesTo_pure focus a⟩

theorem restores_stuck (gap : Gap) : Restores (stuck gap : Focused α) :=
  fun focus => ⟨_, comesTo_stuck focus gap⟩

theorem restores_raise (fault : Fault) : Restores (raise fault : Focused α) :=
  fun focus => ⟨_, comesTo_raise focus fault⟩

theorem restores_ofRule (r : Except Fault α) : Restores (ofRule r) := by
  cases r with
  | ok a => exact restores_pure a
  | error fault => exact restores_raise fault

theorem Restores.bind {k : α → Focused β} (h : Restores w) (hk : ∀ a, Restores (k a)) :
    Restores (w >>= k) := by
  intro focus
  obtain ⟨r, hr⟩ := h focus
  cases r with
  | error stop => exact ⟨_, hr.bind_of_error k⟩
  | ok a =>
    obtain ⟨r', hr'⟩ := hk a focus
    exact ⟨r', (hr.bind_of_ok k).trans hr'⟩

theorem Restores.within (h : Restores w) (span : Span) : Restores (within span w) := by
  intro focus
  obtain ⟨r, hr⟩ := h (focus.enterNode (some (some span.place)))
  exact ⟨r, comesTo_within hr⟩

theorem Restores.inSource (h : Restores w) (source : String) : Restores (inSource source w) := by
  intro focus
  obtain ⟨r, hr⟩ := h (focus.enterSource source)
  exact ⟨r, comesTo_inSource hr⟩

theorem Restores.eq (h : Restores w) (focus : Focus) : (w focus).2 = focus := by
  obtain ⟨r, hr⟩ := h focus
  exact congrArg Prod.snd hr

/-! ## 2. Every phrase leaves the focus -/

namespace Phrase

mutual

/-- **Validating a phrase leaves the focus**, with or without a fault. -/
theorem restores_validateIn : (ph : Phrase) → Restores ph.validateIn
  | whole _ s | real _ s | name _ s => (restores_pure ()).within s
  | constant s | unpacked s | form _ s => (restores_raise _).within s
  | binary _ known left right s => by
    unfold validateIn
    refine Restores.within ?_ s
    cases known with
    | true => exact (restores_validateIn left).bind fun _ => restores_validateIn right
    | false => exact restores_raise _
  | unary _ known operand s => by
    unfold validateIn
    refine Restores.within ?_ s
    cases known with
    | true => exact restores_validateIn operand
    | false => exact restores_raise _
  | call callee args keywords s => by
    unfold validateIn
    refine Restores.within ?_ s
    split
    · cases keywords with
      | true => exact restores_raise _
      | false => exact restores_validateAllIn args
    · exact restores_raise _
  | member value _ s => by
    unfold validateIn
    exact (restores_validateIn value).within s

theorem restores_validateAllIn : (phs : List Phrase) → Restores (validateAllIn phs)
  | [] => restores_pure ()
  | arg :: rest => by
    unfold validateAllIn
    split
    · exact restores_pure ()
    · exact restores_raise _
    · next heq =>
      obtain ⟨rfl, rfl⟩ := List.cons.inj heq
      exact (restores_validateIn arg).bind fun _ => restores_validateAllIn rest

end

mutual

/-- **Compiling a phrase leaves the focus**, with or without a fault or a gap. -/
theorem restores_compileIn (env : Environment) : (ph : Phrase) → Restores (ph.compileIn env)
  | whole _ s => (restores_ofRule _).within s
  | real _ s => (restores_pure _).within s
  | constant s | unpacked s | form _ s => (restores_stuck _).within s
  | name id s => by
    unfold compileIn
    refine Restores.within ?_ s
    split
    · exact restores_pure _
    · exact restores_raise _
  | binary op _ left right s => by
    unfold compileIn
    refine Restores.within ?_ s
    split
    · exact restores_stuck _
    · exact (restores_compileIn env left).bind fun _ =>
        (restores_compileIn env right).bind fun _ => restores_ofRule _
  | unary op _ operand s => by
    unfold compileIn
    refine Restores.within ((restores_compileIn env operand).bind fun _ => ?_) s
    split
    · exact restores_stuck _
    · exact restores_ofRule _
  | call callee args _ s => by
    unfold compileIn
    refine Restores.within ?_ s
    split
    · split
      · exact (restores_compileAllIn env args).bind fun _ => restores_ofRule _
      · exact restores_raise _
    · exact restores_stuck _
  | member value _ s => by
    unfold compileIn
    exact Restores.within ((restores_compileIn env value).bind fun _ => restores_ofRule _) s

theorem restores_compileAllIn (env : Environment) :
    (phs : List Phrase) → Restores (compileAllIn env phs)
  | [] => restores_pure _
  | ph :: rest => by
    unfold compileAllIn
    exact (restores_compileIn env ph).bind fun _ =>
      (restores_compileAllIn env rest).bind fun _ => restores_pure _

end

end Phrase

theorem restores_readIn (text : String) : Restores (readIn text) := by
  unfold readIn
  dsimp only
  split
  · exact restores_raise _
  split
  · exact restores_raise _
  split
  · exact restores_raise _
  · next ph _ => exact ((Phrase.restores_validateIn ph).inSource _).bind fun _ => restores_pure _

/-- **No call leaves anything behind in the focus**, whether it succeeds or fails. -/
theorem focusAfter_eq (calls : List Call) : focusAfter calls = .nothing := by
  unfold focusAfter
  induction calls using List.reverseRecOn with
  | nil => rfl
  | append_singleton calls call ih =>
    rw [List.foldl_append, ih]
    cases call with
    | read text => exact (restores_readIn text).eq _
    | compile source ph env => exact ((ph.restores_compileIn env).inSource source).eq _

/-! ## 3. A phrase that is a formula -/

/-- The outcome of work without a focus, with its failure in words. -/
def worded (r : Except Failure α) : Except Stop α := r.mapError .of

/-- In a source and at a node, a fault has the words of a failure at that node. -/
theorem words_at {source : String} (hsource : focus.source = some source) (span : Span)
    (fault : Fault) : (focus.enterNode (some (some span.place))).words fault =
      (Failure.at source span fault).text := by
  unfold Focus.words Failure.at Focus.annotate Focus.enterNode Failure.text
  rw [hsource]
  cases fault.kind <;> rfl

theorem stop_at {source : String} (hsource : focus.source = some source) (span : Span)
    (fault : Fault) :
    Stop.fault fault ((focus.enterNode (some (some span.place))).words fault) =
      .of (.at source span fault) := by
  rw [words_at hsource, Stop.of, Failure.fault_at]

/-- A rule that is asked at a node. -/
theorem comesTo_ofRule {source : String} (hsource : focus.source = some source) (span : Span)
    (r : Except Fault α) : ComesTo (focus.enterNode (some (some span.place))) (ofRule r)
      (worded (Formula.placed source span r)) := by
  cases r with
  | ok a => exact comesTo_pure _ a
  | error fault =>
    have hstop : worded (Formula.placed source span (.error fault : Except Fault α)) =
        .error (.fault fault ((focus.enterNode (some (some span.place))).words fault)) :=
      congrArg Except.error (stop_at hsource span fault).symm
    rw [hstop]
    exact comesTo_raise _ fault

/-- One work after another does what the one outcome and then the other is. -/
theorem comesTo_bind {x : Except Failure α} {l : α → Except Failure β} {k : α → Focused β}
    (h : ComesTo focus w (worded x)) (hk : ∀ a, x = .ok a → ComesTo focus (k a) (worded (l a))) :
    ComesTo focus (w >>= k) (worded (x >>= l)) := by
  cases x with
  | error failure => exact ComesTo.bind_of_error h k
  | ok a => exact (ComesTo.bind_of_ok h k).trans (hk a rfl)

namespace Phrase

variable {source : String}

mutual

/-- **Compiling a phrase that is a formula is compiling the formula.** -/
theorem comesTo_compileIn (env : Environment) : (ph : Phrase) → {f : Formula} →
    {focus : Focus} → ph.formula? = some f → focus.source = some source →
    ComesTo focus (ph.compileIn env) (worded (f.compile source env))
  | whole n s, _, _, h, hsource => by
    obtain rfl := Option.some.inj h
    exact comesTo_within (comesTo_ofRule hsource s _)
  | real d s, _, _, h, _ => by
    obtain rfl := Option.some.inj h
    exact comesTo_within (comesTo_pure _ _)
  | name id s, _, _, h, hsource => by
    obtain rfl := Option.some.inj h
    refine comesTo_within ?_
    unfold Formula.compile
    cases env.find? id with
    | some e => exact comesTo_pure _ e
    | none => exact comesTo_ofRule hsource s (.error (.unknownIdentifier id))
  | binary op known left right s, f, focus, h, hsource => by
    unfold formula? at h
    obtain ⟨operation, hop, h⟩ := Option.bind_eq_some_iff.1 h
    obtain ⟨l, hl, h⟩ := Option.bind_eq_some_iff.1 h
    obtain ⟨r, hr, h⟩ := Option.bind_eq_some_iff.1 h
    obtain rfl := Option.some.inj h
    unfold compileIn Formula.compile
    rw [hop]
    refine comesTo_within (comesTo_bind (comesTo_compileIn env left hl hsource) fun _ _ => ?_)
    refine comesTo_bind (comesTo_compileIn env right hr hsource) fun _ _ => ?_
    exact comesTo_ofRule hsource s _
  | unary op known operand s, f, focus, h, hsource => by
    unfold formula? at h
    obtain ⟨sign, hop, h⟩ := Option.bind_eq_some_iff.1 h
    obtain ⟨o, ho, h⟩ := Option.bind_eq_some_iff.1 h
    obtain rfl := Option.some.inj h
    unfold compileIn Formula.compile
    rw [hop]
    refine comesTo_within (comesTo_bind (comesTo_compileIn env operand ho hsource) fun _ _ => ?_)
    exact comesTo_ofRule hsource s _
  | call callee args keywords s, f, focus, h, hsource => by
    unfold formula? at h
    split at h
    · next function t =>
      cases keywords with
      | true => cases h
      | false =>
        obtain ⟨fs, hfs, rfl⟩ := Option.map_eq_some_iff.1 h
        unfold compileIn Formula.compile
        refine comesTo_within ?_
        dsimp only
        split
        · exact comesTo_bind (comesTo_compileAllIn env args hfs hsource)
            fun _ _ => comesTo_ofRule hsource s _
        · exact comesTo_ofRule hsource s (.error (.unknownFunction function))
    · cases h
  | member value field s, f, focus, h, hsource => by
    unfold formula? at h
    obtain ⟨v, hv, rfl⟩ := Option.map_eq_some_iff.1 h
    unfold compileIn Formula.compile
    exact comesTo_within
      (comesTo_bind (comesTo_compileIn env value hv hsource) fun _ _ => comesTo_ofRule hsource s _)
  | constant _, _, _, h, _ | unpacked _, _, _, h, _ | form _ _, _, _, h, _ => nomatch h

theorem comesTo_compileAllIn (env : Environment) : (phs : List Phrase) → {fs : List Formula} →
    {focus : Focus} → formulas? phs = some fs → focus.source = some source →
    ComesTo focus (compileAllIn env phs) (worded (Formula.compileAll source env fs))
  | [], fs, focus, h, _ => by
    obtain rfl := Option.some.inj h
    exact comesTo_pure focus []
  | ph :: rest, fs, focus, h, hsource => by
    unfold formulas? at h
    obtain ⟨f, hf, h⟩ := Option.bind_eq_some_iff.1 h
    obtain ⟨gs, hgs, h⟩ := Option.bind_eq_some_iff.1 h
    obtain rfl := Option.some.inj h
    unfold compileAllIn Formula.compileAll
    refine comesTo_bind (comesTo_compileIn env ph hf hsource) fun _ _ => ?_
    exact comesTo_bind (comesTo_compileAllIn env rest hgs hsource) fun _ _ => comesTo_pure _ _

end

/-! ## 4. Validating -/

/-- What validating comes to, by the first refusal. -/
def verdict (source : String) : Option (Refusal × Span) → Except Failure Unit
  | none => .ok ()
  | some (why, span) => .error (.at source span (.refused why))

theorem verdict_or (a b : Option (Refusal × Span)) :
    verdict source (a.or b) = verdict source a >>= fun _ => verdict source b := by
  cases a <;> rfl

/-- A refusal at a node. -/
theorem comesTo_refused (hsource : focus.source = some source) (span : Span) (why : Refusal) :
    ComesTo (focus.enterNode (some (some span.place))) (raise (.refused why) : Focused Unit)
      (worded (verdict source (some (why, span)))) :=
  comesTo_ofRule hsource span (.error (.refused why))

mutual

/-- **Validating a phrase finds its first refusal.** -/
theorem comesTo_validateIn : (ph : Phrase) → {focus : Focus} → focus.source = some source →
    ComesTo focus ph.validateIn (worded (verdict source ph.refusal?))
  | whole _ _, _, _ | real _ _, _, _ | name _ _, _, _ => comesTo_within (comesTo_pure _ ())
  | constant s, _, hsource | unpacked s, _, hsource | form _ s, _, hsource =>
    comesTo_within (comesTo_refused hsource s _)
  | binary _ known left right s, _, hsource => by
    unfold validateIn refusal?
    refine comesTo_within ?_
    cases known with
    | true =>
      rw [if_pos rfl, if_pos rfl, verdict_or]
      exact comesTo_bind (comesTo_validateIn left hsource) fun _ _ =>
        comesTo_validateIn right hsource
    | false => exact comesTo_refused hsource s _
  | unary _ known operand s, _, hsource => by
    unfold validateIn refusal?
    refine comesTo_within ?_
    cases known with
    | true => exact comesTo_validateIn operand hsource
    | false => exact comesTo_refused hsource s _
  | call callee args keywords s, _, hsource => by
    unfold validateIn refusal?
    refine comesTo_within ?_
    cases callee with
    | name function t =>
      cases keywords with
      | true => exact comesTo_refused hsource s _
      | false => exact comesTo_validateAllIn s args hsource
    | _ => exact comesTo_refused hsource s _
  | member value _ s, _, hsource => by
    unfold validateIn refusal?
    exact comesTo_within (comesTo_validateIn value hsource)

theorem comesTo_validateAllIn (s : Span) : (phs : List Phrase) → {focus : Focus} →
    focus.source = some source → ComesTo (focus.enterNode (some (some s.place))) (validateAllIn phs)
      (worded (verdict source (argumentRefusal? s phs)))
  | [], _, _ => comesTo_pure _ ()
  | arg :: rest, focus, hsource => by
    by_cases hunpacked : ∃ t, arg = .unpacked t
    · obtain ⟨t, rfl⟩ := hunpacked
      exact comesTo_refused hsource s _
    · have hno (t : Span) : arg ≠ .unpacked t := fun h => hunpacked ⟨t, h⟩
      rw [validateAllIn, argumentRefusal?, verdict_or]
      · exact comesTo_bind (comesTo_validateIn arg hsource) fun _ _ =>
          comesTo_validateAllIn s rest hsource
      · exact hno
      · exact hno

end

end Phrase

/-! ## 5. Texts -/

namespace ParsedFormula

variable {text : String} {p : ParsedFormula}

/-- What a text that is a formula has. -/
theorem ofText_ok (h : ofText text = .ok p) :
    Text.trim text.toList ≠ [] ∧ (Text.trim text.toList).contains '\x00' = false ∧
      p.source = String.ofList (Text.trim text.toList) ∧
      ∃ tokens, Lexer.lex (Text.trim text.toList) = some tokens ∧
        Formula.read tokens = some p.formula := by
  unfold ofText at h
  dsimp only at h
  split at h
  · cases h
  next hne =>
  unfold ofTrimmed at h
  dsimp only at h
  split at h
  · cases h
  next hnul =>
  split at h
  · cases h
  next tokens hlex =>
  split at h
  · next f hread =>
    obtain rfl := Except.ok.inj h
    exact ⟨hne, Bool.eq_false_iff.2 hnul, rfl, tokens, hlex, hread⟩
  · cases h

/-- Words that are a formula are a phrase of the wider language, which has no refusal and is that
    formula. -/
theorem exists_phrase {cs : List Char} {tokens : List Token} {f : Formula}
    (hlex : Lexer.lex cs = some tokens) (h : Formula.read tokens = some f) :
    ∃ ph, Phrase.read cs.length tokens = some ph ∧ ph.refusal? = none ∧ ph.formula? = some f := by
  obtain ⟨o, ho, -⟩ := Formula.read_eq_some_iff.1 h
  obtain ⟨ph, hph, hr⟩ := ho.exists_phrase (Lexer.length_le_of_lex hlex)
  exact ⟨ph, hph, hr, (formula?_eq_some_iff hlex hph hr).2 h⟩

/-- Reading a phrase under a focus, once its words are known. -/
theorem comesTo_read {tokens : List Token} {ph : Phrase} (focus : Focus)
    (hne : Text.trim text.toList ≠ []) (hnul : (Text.trim text.toList).contains '\x00' = false)
    (hlex : Lexer.lex (Text.trim text.toList) = some tokens)
    (hph : Phrase.read (Text.trim text.toList).length tokens = some ph) :
    ComesTo focus (readIn text) (worded
      ((Phrase.verdict (String.ofList (Text.trim text.toList)) ph.refusal?).map
        fun _ => (String.ofList (Text.trim text.toList), ph))) := by
  unfold readIn
  dsimp only
  rw [if_neg hne, hnul, if_neg Bool.false_ne_true, hlex, Option.bind_some, hph]
  refine comesTo_bind (comesTo_inSource (Phrase.comesTo_validateIn ph rfl)) fun _ _ => ?_
  exact comesTo_pure focus (String.ofList (Text.trim text.toList), ph)

/-- Without words, or without a phrase in them, a text is malformed under a focus as well. -/
theorem comesTo_malformed (hne : Text.trim text.toList ≠ [])
    (hnul : (Text.trim text.toList).contains '\x00' = false)
    (hnone : (Lexer.lex (Text.trim text.toList)).bind
      (Phrase.read (Text.trim text.toList).length) = none) :
    ComesTo .nothing (readIn text) (.error (.of (.plain .malformedFormula))) := by
  unfold readIn
  dsimp only
  rw [if_neg hne, hnul, if_neg Bool.false_ne_true, hnone]
  exact comesTo_raise _ _

/-- Words that are no formula are refused under a focus for the same reason. -/
theorem comesTo_whyNot {tokens : List Token} (hne : Text.trim text.toList ≠ [])
    (hnul : (Text.trim text.toList).contains '\x00' = false)
    (hlex : Lexer.lex (Text.trim text.toList) = some tokens)
    (hread : Formula.read tokens = none) :
    ComesTo .nothing (readIn text) (.error (.of
      (whyNot (String.ofList (Text.trim text.toList)) (Text.trim text.toList).length tokens))) := by
  unfold whyNot
  cases hph : Phrase.read (Text.trim text.toList).length tokens with
  | none => exact comesTo_malformed hne hnul (by rw [hlex, Option.bind_some, hph])
  | some ph =>
    rw [Option.bind_some]
    cases hr : ph.refusal? with
    | some refusal =>
      have hcomes := comesTo_read .nothing hne hnul hlex hph
      rw [hr] at hcomes
      exact hcomes
    | none =>
      obtain ⟨f, hf⟩ := (exists_writes_iff hlex).2 ⟨ph, hph, hr⟩
      cases hread.symm.trans ((writes_iff_read hlex).1 hf)

/-- **Reading under a focus is reading.** A text that is a formula is read as the phrase of its
    words, which is that formula; every other text fails as it does without a focus. -/
theorem comesTo_readIn (text : String) :
    (∃ p tokens ph, ofText text = .ok p ∧ Lexer.lex (Text.trim text.toList) = some tokens ∧
      Phrase.read (Text.trim text.toList).length tokens = some ph ∧
      ph.formula? = some p.formula ∧ ComesTo .nothing (readIn text) (.ok (p.source, ph))) ∨
    ∃ failure, ofText text = .error failure ∧
      ComesTo .nothing (readIn text) (.error (.of failure)) := by
  unfold ofText
  dsimp only
  split
  · next hempty =>
    have hraised : ComesTo .nothing (readIn text) (.error (.of (.plain .emptyFormula))) := by
      unfold readIn
      dsimp only
      rw [if_pos hempty]
      exact comesTo_raise _ _
    exact .inr ⟨_, rfl, hraised⟩
  next hne =>
  unfold ofTrimmed
  dsimp only
  split
  · next hnul =>
    have hraised : ComesTo .nothing (readIn text) (.error (.of (.plain .nulCharacter))) := by
      unfold readIn
      dsimp only
      rw [if_neg hne, if_pos hnul]
      exact comesTo_raise _ _
    exact .inr ⟨_, rfl, hraised⟩
  next hnul =>
  have hnul := Bool.eq_false_iff.2 hnul
  split
  · next hlex =>
    exact .inr ⟨_, rfl, comesTo_malformed hne hnul (by rw [hlex, Option.bind_none])⟩
  next tokens hlex =>
  split
  · next f hread =>
    obtain ⟨ph, hph, hr, hformula⟩ := exists_phrase hlex hread
    have hcomes := comesTo_read .nothing hne hnul hlex hph
    rw [hr] at hcomes
    exact .inl ⟨_, tokens, ph, rfl, hlex, hph, hformula, hcomes⟩
  · next hread => exact .inr ⟨_, rfl, comesTo_whyNot hne hnul hlex hread⟩

/-- The words of a formula are a phrase that is read and compiled, under any focus, to what reading
    and compiling the formula give. -/
theorem exists_phrase_comesTo (h : ofText text = .ok p) :
    ∃ tokens ph, Lexer.lex (Text.trim text.toList) = some tokens ∧
      Phrase.read (Text.trim text.toList).length tokens = some ph ∧
      ComesTo .nothing (readIn text) (.ok (p.source, ph)) ∧ ph.formula? = some p.formula ∧
      ∀ env focus, ComesTo focus (inSource p.source (ph.compileIn env)) (worded (p.compile env)) := by
  obtain ⟨q, tokens, ph, hq, hlex, hph, hformula, hreading⟩ | ⟨failure, herror, -⟩ :=
    comesTo_readIn text
  · obtain rfl := Except.ok.inj (h.symm.trans hq)
    exact ⟨tokens, ph, hlex, hph, hreading, hformula, fun env focus =>
      comesTo_inSource (Phrase.comesTo_compileIn env ph hformula rfl)⟩
  · cases h.symm.trans herror

/-- **What the validator lets through, the compiler can handle.** The words of a text that is a
    formula are a phrase that the validator lets through. Each node of that phrase is one that
    formulas have; so against every environment it is compiled, under any focus, to what compiling
    the formula gives, and never gets to a node that the compiler has no rule for. -/
theorem compileIn_of_ofText (h : ofText text = .ok p) :
    ∃ tokens ph, Lexer.lex (Text.trim text.toList) = some tokens ∧
      Phrase.read (Text.trim text.toList).length tokens = some ph ∧
      ComesTo .nothing (readIn text) (.ok (p.source, ph)) ∧ ph.formula? = some p.formula ∧
      ∀ env focus, ComesTo focus (inSource p.source (ph.compileIn env)) (worded (p.compile env)) ∧
        ∀ gap, (inSource p.source (ph.compileIn env) focus).1 ≠ .error (.gap gap) := by
  obtain ⟨tokens, ph, hlex, hph, hreading, hformula, hcompile⟩ := exists_phrase_comesTo h
  refine ⟨tokens, ph, hlex, hph, hreading, hformula, fun env focus => ?_⟩
  refine ⟨hcompile env focus, fun gap hgap => ?_⟩
  rw [hcompile env focus] at hgap
  cases hresult : p.compile env with
  | ok e => rw [hresult] at hgap; cases hgap
  | error failure => rw [hresult] at hgap; cases hgap

/-- A call whose argument has a sign and a component. -/
theorem compileIn_of_ofText_call :
    let p : ParsedFormula := ⟨"abs(-u.x)", .call "abs" [.signed .minus
      (.component (.name "u" ⟨⟨1, 5⟩, ⟨1, 6⟩⟩) "x" ⟨⟨1, 5⟩, ⟨1, 8⟩⟩) ⟨⟨1, 4⟩, ⟨1, 8⟩⟩]
      ⟨⟨1, 0⟩, ⟨1, 9⟩⟩⟩
    ofText " abs(-u.x) " = .ok p ∧ ∃ ph, ComesTo .nothing (readIn " abs(-u.x) ") (.ok (p.source, ph)) ∧
      ComesTo .nothing (inSource p.source (ph.compileIn [("u", .column "u" .float)]))
        (.error (.of ⟨.noComponent .float "x", some ⟨p.source, ⟨⟨1, 5⟩, ⟨1, 8⟩⟩⟩⟩)) := by
  intro p
  have hread : ofText " abs(-u.x) " = .ok p := rfl
  obtain ⟨tokens, ph, -, -, hreading, -, hcompile⟩ := compileIn_of_ofText hread
  exact ⟨hread, ph, hreading, (hcompile [("u", .column "u" .float)] .nothing).1⟩

end ParsedFormula

end VisualScale
