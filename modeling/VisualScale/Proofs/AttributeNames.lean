import VisualScale.Proofs.Announcement
import VisualScale.Proofs.Language.Names
import VisualScale.Proofs.Session
import VisualScale.Proofs.Source.RoundTrip

/-!
# Which attributes a formula can read

An attribute may be called by any identifier but the one of the input. A formula that is just this
identifier reads what is declared under its one spelling (`ParsedFormula.exists_ofText_word`), and a
reserved word is none (`ParsedFormula.not_ofText_keyword`). So the formula reads the attribute that
it spells exactly if this is called by a name (`Scale.reads_attribute_iff`). An attribute under
another spelling can be declared and bound, and its own name does not read it
(`Scale.exists_not_reads_attribute`).
-/

namespace VisualScale

open Lexer

/-! ## 1. Texts of one word -/

namespace ParsedFormula

variable {word : String}

/-- **An identifier that is no reserved word is the formula of its name.** -/
theorem exists_ofText_word (h : Text.isIdentifier word.toList = true)
    (hkey : isKeyword word.toList = false) :
    ∃ p span, ofText word = .ok p ∧ p.formula = .name (nameOf word) span := by
  have hlexeme : wordLexeme word.toList = some (.name (nameOf word)) := by
    rw [wordLexeme_of_isIdentifier h, hkey, String.ofList_toList]
    rfl
  have htext := operandText_word h hlexeme .float
  have hbracket : '(' ∉ word.toList := fun hm =>
    absurd (isWordChar_of_isIdentifier h _ hm) (by decide)
  obtain ⟨tokens, hlex, htokens⟩ := htext.exists_lex (room_of_notMem hbracket (Nat.zero_le _))
  obtain ⟨t, rfl, ht⟩ := List.map_eq_singleton_iff.1 htokens
  have hwrites : Writes word (.name (nameOf word) t.span) := by
    refine ⟨[t], .word (.name (nameOf word) t.span), ?_, ?_, rfl⟩
    · rw [htext.trim_eq, hlex]
    · exact .term (.factor (.primary (.atom (.name ht))))
  obtain ⟨p, hp, hformula⟩ := exists_ofText_of_writes htext.nul_notMem hwrites
  exact ⟨p, t.span, hp, hformula⟩

/-- A reserved word is no formula. -/
theorem not_ofText_keyword (h : Text.isIdentifier word.toList = true)
    (hkey : isKeyword word.toList = true) (p : ParsedFormula) : ofText word ≠ .ok p := by
  intro hp
  have hlexeme : wordLexeme word.toList = some (.other (.keyword word)) := by
    rw [wordLexeme_of_isIdentifier h, hkey, String.ofList_toList]
    rfl
  have htext := operandText_word h hlexeme .float
  obtain ⟨tokens, o, hlex, ho, -⟩ := writes_of_ofText hp
  rw [htext.trim_eq] at hlex
  obtain ⟨tokens', hlex', htokens⟩ := htext.exists_lex (htext.room_of_lex hlex)
  obtain rfl := Option.some.inj (hlex.symm.trans hlex')
  obtain ⟨t, rfl, ht⟩ := List.map_eq_singleton_iff.1 htokens
  exact ho.not_other (List.mem_singleton_self t) _ ht

/-- The formula of a name is compiled to what stands for the name. -/
theorem compile_word {p : ParsedFormula} {id : String} {span : Span}
    (h : p.formula = .name id span) {env : Environment} {e : Expr} :
    p.compile env = .ok e ↔ env.find? id = some e := by
  unfold compile
  rw [h]
  unfold Formula.compile
  cases env.find? id with
  | none => exact iff_of_false (by nofun) (by nofun)
  | some e' => simp

end ParsedFormula

/-! ## 2. An identifier with another spelling -/

namespace Lexer

-- the first string of the table has some eighty characters
set_option maxRecDepth 10000 in
/-- The ordinal indicator is spelled as the letter. -/
theorem nameOf_ordinal : nameOf "ª" = "a" := by
  have hentry : (Text.entriesOf (Text.substitutes.flatMap String.toList)).find?
      (fun entry => entry.1 == 'ª') = some ('ª', ['a']) := by
    unfold Text.substitutes
    exact Text.find?_entriesOf rfl (by decide) (by decide) _
  have hsubstitute : Text.substitute? 'ª' = some ['a'] := by
    unfold Text.substitute? Text.substituteTable
    rw [hentry]
    rfl
  have hchars : "ª".toList = ['ª'] := rfl
  have hnot : Text.isAscii 'ª' = false := rfl
  have hapart : Text.takeApart 5 'ª' = ['a'] := by
    unfold Text.takeApart
    rw [hnot, if_neg Bool.false_ne_true, hsubstitute]
    rfl
  unfold nameOf Text.normalized
  rw [hchars, List.all_cons, hnot, Bool.false_and, if_neg Bool.false_ne_true, List.flatMap_cons,
    hapart]
  rfl

-- so has the first string of the runs
set_option maxRecDepth 10000 in
theorem isIdentifier_ordinal : Text.isIdentifier "ª".toList = true := by
  have hruns : Text.inRuns
      (Text.runsOf ([] ++ Text.identifierStartRuns.flatMap String.toList)) 'ª' = true := by
    unfold Text.identifierStartRuns
    refine Text.check_cons (fun cs => Text.inRuns (Text.runsOf cs) 'ª') rfl ?_
    decide +kernel
  have hchars : "ª".toList = ['ª'] := rfl
  have hnot : Text.isAscii 'ª' = false := rfl
  rw [List.nil_append] at hruns
  unfold Text.isIdentifier Text.isIdentifierStart Text.startRuns
  rw [hchars]
  dsimp only
  rw [hnot, if_neg Bool.false_ne_true, hruns]
  rfl

end Lexer

/-! ## 3. Attributes that can be read -/

namespace Scale

variable {before after : Table CustomAttribute} {name typeName : String} {value : Value}
variable {t : ValueType}

/-- A custom scale whose formula is the variable of an attribute announces the attribute's type,
    whatever it is invoked with. -/
theorem exists_invoke_of_compile {p : ParsedFormula}
    (h : p.compile (typeEnvironment after) = .ok (.var name t)) {s : Store} {id : ScaleId}
    (hs : s.scale? id = some (.custom p after)) (x : Value) :
    ∃ b, s.invoke id [x] = .ok (s.addBinding b) ∧ b.valueType = t := by
  have htype : (custom p after).valueType = .ok t := by
    show (p.compile (typeEnvironment after)).map Expr.valueType = _
    rw [h]
    rfl
  have hscale := Store.scale_of hs
  refine ⟨⟨id, t, [.float], [x], .created, rfl⟩, ?_, rfl⟩
  unfold Store.invoke
  rw [hscale]
  show (Store.bind id (.custom p after) [x] >>= _) = _
  have hbind : Store.bind id (.custom p after) [x] = .ok ⟨id, t, [.float], [x], .created, rfl⟩ := by
    show (custom p after).valueType.map
      (fun u => (⟨id, u, [.float], [x], .created, rfl⟩ : Binding)) = _
    rw [htype]
    rfl
  rw [hbind]
  rfl

/-- A declaration that succeeds is a step of every store that holds the scale. -/
theorem step_of_declare {s : Store} {id : ScaleId} {p : ParsedFormula}
    (hs : s.scale? id = some (.custom p before))
    (h : declare before name value (some typeName) = .ok after) :
    s.Step (s.setScale id (.custom p after)) := by
  have hscale := Store.scale_of hs
  have hset : (s.setAttribute id name value (some typeName)).map Prod.fst =
      .ok (s.setScale id (.custom p after)) := by
    unfold Store.setAttribute setAttribute
    simp only [hscale, h, bind, Except.bind, unplaced]
    rfl
  obtain ⟨⟨_, warnings⟩, hset, rfl⟩ := Outcome.of_map hset
  exact .setAttribute hset

/-- **The formula that is just an attribute's name reads the attribute, and the scale announces the
    attribute's type, exactly if the attribute is called by a name**: by an identifier that is no
    reserved word and is its own one spelling. -/
theorem reads_attribute_iff (h : declare before name value (some typeName) = .ok after)
    (ht : ValueType.parse typeName = .ok t) :
    (∃ p, newCustom name = .ok (.custom p []) ∧
      p.compile (typeEnvironment after) = .ok (.var name t) ∧
      ∀ (s : Store) (id : ScaleId) (x : Value), s.scale? id = some (.custom p after) →
        ∃ b, s.invoke id [x] = .ok (s.addBinding b) ∧ b.valueType = t) ↔ IsName name := by
  obtain ⟨hinput, hidentifier, u, hu, rfl⟩ := declare_ok h
  obtain rfl : t = u := Except.ok.inj (ht.symm.trans hu)
  rw [isName_iff]
  constructor
  · rintro ⟨p, hp, hcompile, -⟩
    obtain ⟨q, hq, heq⟩ := Outcome.of_map hp
    obtain ⟨rfl, -⟩ := Scale.custom.inj heq
    have hkey : isKeyword name.toList = false :=
      Bool.eq_false_iff.2 fun hkey => ParsedFormula.not_ofText_keyword hidentifier hkey q hq
    obtain ⟨p, span, hp, hformula⟩ := ParsedFormula.exists_ofText_word hidentifier hkey
    obtain rfl : p = q := Except.ok.inj (hp.symm.trans hq)
    -- the variable that is found is that of the one spelling
    have hread := (ParsedFormula.compile_word hformula).1 hcompile
    rw [find?_typeEnvironment] at hread
    refine ⟨⟨hidentifier, hkey⟩, ?_⟩
    split at hread
    · exact absurd (Expr.var.inj (Option.some.inj hread)).1.symm hinput
    · obtain ⟨a, -, hvar⟩ := Option.map_eq_some_iff.1 hread
      exact (Expr.var.inj hvar).1
  · rintro ⟨⟨-, hkey⟩, hspelling⟩
    obtain ⟨p, span, hp, hformula⟩ := ParsedFormula.exists_ofText_word hidentifier hkey
    have hcompile :
        p.compile (typeEnvironment (before.set name ⟨t, value⟩)) = .ok (.var name t) := by
      rw [ParsedFormula.compile_word hformula, hspelling, find?_typeEnvironment, if_neg hinput,
        Table.find?_set, if_pos rfl]
      rfl
    refine ⟨p, ?_, hcompile, fun s id x hs => exists_invoke_of_compile hcompile hs x⟩
    unfold newCustom
    rw [hp]
    rfl

/-- An attribute that is a vector, and called by a name. -/
theorem reads_attribute_gain :
    let after : Table CustomAttribute := [("gain", ⟨.vector2, .unbound⟩)]
    declare [] "gain" .unbound (some "Vector2") = .ok after ∧
      ValueType.parse "Vector2" = .ok .vector2 ∧
      ((∃ p, newCustom "gain" = .ok (.custom p []) ∧
        p.compile (typeEnvironment after) = .ok (.var "gain" .vector2) ∧
        ∀ (s : Store) (id : ScaleId) (x : Value), s.scale? id = some (.custom p after) →
          ∃ b, s.invoke id [x] = .ok (s.addBinding b) ∧ b.valueType = .vector2) ↔
        IsName "gain") := by
  intro after
  have h : declare [] "gain" .unbound (some "Vector2") = .ok after := rfl
  exact ⟨h, rfl, reads_attribute_iff h rfl⟩

/-- **An attribute can be declared that is not read under its name**: the text is a formula, and
    invoking its scale fails. -/
theorem exists_not_reads_attribute :
    ∃ (name : String) (after : Table CustomAttribute) (p : ParsedFormula) (s : Store),
      newCustom name = .ok (.custom p []) ∧
      declare [] name .unbound (some "Vector2") = .ok after ∧
      s.Reachable ∧ s.scale? ⟨0⟩ = some (.custom p after) ∧
      ∀ (x : Value), ¬ ∃ b s', s.invoke ⟨0⟩ [x] = .ok (b, s') := by
  let after : Table CustomAttribute := [("ª", ⟨.vector2, .unbound⟩)]
  have hdeclared : declare [] "ª" .unbound (some "Vector2") = .ok after :=
    declare_of_isIdentifier (by decide) isIdentifier_ordinal rfl .unbound
  obtain ⟨p, span, hp, hformula⟩ :=
    ParsedFormula.exists_ofText_word isIdentifier_ordinal (by decide)
  rw [nameOf_ordinal] at hformula
  have hnew : newCustom "ª" = .ok (.custom p []) := by
    unfold newCustom
    rw [hp]
    rfl
  let s : Store := ⟨[.custom p after], []⟩
  have hcreated : Store.Reachable ⟨[.custom p []], []⟩ :=
    Store.Reachable.empty.step (.create (.custom hnew))
  have hscale : Store.scale? ⟨[.custom p []], []⟩ ⟨0⟩ = some (.custom p []) := rfl
  have hstep : Store.Step ⟨[.custom p []], []⟩ s := step_of_declare hscale hdeclared
  refine ⟨"ª", after, p, s, hnew, hdeclared, hcreated.step hstep, rfl, ?_⟩
  rintro x ⟨b, s', hinvoke⟩
  obtain ⟨scale, hscale, hinvoke⟩ := Outcome.of_bind hinvoke
  obtain rfl : custom p after = scale := Option.some.inj (Store.scale_ok hscale)
  obtain ⟨bound, hbound, -⟩ := Outcome.of_bind hinvoke
  obtain ⟨e, he, -⟩ := exists_of_bind hbound
  cases (ParsedFormula.compile_word hformula).1 he

end Scale

end VisualScale
