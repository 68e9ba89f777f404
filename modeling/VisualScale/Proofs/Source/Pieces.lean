import VisualScale.Expr.Source
import VisualScale.Proofs.Source.Normal
import VisualScale.Proofs.Source.Reads
import VisualScale.Proofs.Source.Words

/-!
# The pieces of an expression's source

The source of an expression is made of the sources of its operands, and so is what becomes of it
when it is read. A piece of a source is an operand, which can be read wherever an operand may stand,
or an argument, which needs a bracket or a comma behind it. Each is taken apart into lexemes
(`OperandText`, `ArgumentText`), and these are read as a formula that compiles to an expression
(`IsOperand`, `IsArgument`).

For each kind of node one lemma makes the text of the node from those of its operands, and one what
it is read as.
-/

namespace VisualScale

open Lexer Reader

/-! ## 1. Characters -/

/-- No character is white space, except for blanks, and none is the null character. -/
def Clean (cs : List Char) : Prop := ∀ c ∈ cs, c = ' ' ∨ Text.isBlank c = false ∧ c ≠ '\x00'

/-- The character begins a name, a number or a bracket. -/
def BeginsOperand (c : Char) : Prop :=
  Text.isIdentifierStart c = true ∨ c.isDigit = true ∨ c = '('

variable {as bs cs : List Char}

theorem Clean.append (h : Clean as) (h' : Clean bs) : Clean (as ++ bs) :=
  fun c hc => (List.mem_append.mp hc).elim (h c) (h' c)

theorem clean_singleton {c : Char} (h : c = ' ' ∨ Text.isBlank c = false ∧ c ≠ '\x00') :
    Clean [c] := fun _ hd => List.mem_singleton.mp hd ▸ h

theorem clean_space : Clean [' '] := clean_singleton (.inl rfl)

theorem clean_charOf (m : Mark) : Clean [charOf m] := by
  refine clean_singleton (.inr ?_)
  cases m <;> decide

theorem not_isBlank_of_isIdentifier (h : Text.isIdentifier cs = true) :
    ∀ c ∈ cs, Text.isBlank c = false := by
  cases cs with
  | nil => cases h
  | cons d cs =>
    obtain ⟨hstart, hparts⟩ := Bool.and_eq_true _ _ |>.mp h
    intro c hc
    rcases List.mem_cons.mp hc with rfl | hc
    · exact Text.not_isBlank_of_isIdentifierStart hstart
    · exact Text.not_isBlank_of_isIdentifierPart (List.all_eq_true.mp hparts c hc)

theorem clean_word (h : Text.isIdentifier cs = true) : Clean cs := by
  refine fun c hc => .inr ⟨not_isBlank_of_isIdentifier h c hc, ?_⟩
  intro heq
  subst heq
  exact absurd (isWordChar_of_isIdentifier h _ hc) (by decide)

theorem getLast?_append_word (h : Text.isIdentifier cs = true) (as : List Char) :
    (as ++ cs).getLast? ≠ some ' ' := by
  obtain ⟨c, rest, rfl, -⟩ := exists_cons_of_isIdentifier h
  intro hlast
  rw [List.getLast?_append_of_ne_nil _ (List.cons_ne_nil _ _)] at hlast
  exact absurd (not_isBlank_of_isIdentifier h ' ' (List.mem_of_getLast? hlast)) (by decide)

theorem not_isDigit_of_isIdentifierStart {c : Char} (h : Text.isIdentifierStart c = true) :
    c.isDigit = false := by
  refine Bool.eq_false_iff.2 fun hd => ?_
  have hnot := not_wordStart_of_isDigit hd
  rw [Text.isWordStart_of_isIdentifierStart h] at hnot
  cases hnot

theorem not_isBlank_of_isNumeralChar {c : Char} (h : Numeral.IsNumeralChar c) :
    Text.isBlank c = false := by
  rcases h with h | h
  · refine Text.not_isBlank_of_alphanum ?_
    unfold Char.isAlphanum
    rw [h, Bool.or_true, Bool.true_or]
  · simp only [List.mem_cons, List.not_mem_nil, or_false] at h
    rcases h with rfl | rfl | rfl | rfl
    all_goals decide

theorem clean_numeral (h : Numeral.IsNumeral cs) : Clean cs := by
  refine fun c hc => .inr ⟨not_isBlank_of_isNumeralChar (h.chars c hc), ?_⟩
  intro heq
  subst heq
  rcases h.chars _ hc with h | h
  all_goals exact absurd h (by decide)

/-- No sign of two characters ends in one that begins an operand. -/
theorem getLastD_signs2 : ∀ sign ∈ signs2, sign.getLastD ' ' ∈ ['=', '*', '>', '/', '<'] := by
  decide

theorem BeginsOperand.notMem {d : Char} (h : BeginsOperand d) :
    d ∉ ['=', '*', '>', '/', '<', '.'] := by
  intro hm
  simp only [List.mem_cons, List.not_mem_nil, or_false] at hm
  rcases h with h | h | h
  · have hstart := Text.isWordStart_of_isIdentifierStart h
    rcases hm with rfl | rfl | rfl | rfl | rfl | rfl
    all_goals exact absurd hstart (by decide)
  · rcases hm with rfl | rfl | rfl | rfl | rfl | rfl
    all_goals cases h
  · subst h
    simp at hm

/-- A mark in front of an operand; a point only in front of a name. -/
theorem BeginsOperand.apart {c d : Char} (h : BeginsOperand d) (hc : c ≠ '.' ∨ d.isDigit = false)
    (cs : List Char) : Apart c (d :: cs) := by
  intro d' hd
  obtain rfl := Option.some.inj hd
  refine ⟨fun hm => h.notMem ?_, fun hdot => ⟨?_, hc.resolve_left fun hne => hne hdot⟩⟩
  · exact List.mem_append_left ['.'] (getLastD_signs2 [c, d] hm)
  · intro heq
    subst heq
    exact h.notMem (by decide)

theorem apart_space (m : Mark) (cs : List Char) : Apart (charOf m) (' ' :: cs) := by
  intro c hc
  obtain rfl := Option.some.inj hc
  cases m <;> decide

/-! ## 2. What follows a piece -/

/-- An operand of a type ends here: at a blank, a bracket or a comma, or before a component. -/
def Follows (t : ValueType) (cs : List Char) : Prop :=
  ∀ c ∈ cs.head?, c = ' ' ∨ c = ')' ∨ c = ',' ∨ c = '.' ∧ t.isVectorLike = true

/-- An argument ends here: at a bracket or a comma. -/
def Delimited (cs : List Char) : Prop := ∀ c ∈ cs.head?, c = ')' ∨ c = ','

theorem Delimited.follows (h : Delimited cs) (t : ValueType) : Follows t cs := by
  intro c hc
  rcases h c hc with rfl | rfl
  · exact .inr (.inl rfl)
  · exact .inr (.inr (.inl rfl))

theorem Follows.endsWord {t : ValueType} (h : Follows t cs) : EndsWord cs := by
  intro c hc
  rcases h c hc with rfl | rfl | rfl | ⟨rfl, -⟩
  all_goals decide

theorem Follows.ends {t : ValueType} (ht : t.isVectorLike = false) (h : Follows t cs) :
    Numeral.Ends cs := by
  intro c hc
  rcases h c hc with rfl | rfl | rfl | ⟨-, hv⟩
  · decide
  · decide
  · decide
  · exact absurd (ht.symm.trans hv) Bool.false_ne_true

theorem follows_nil (t : ValueType) : Follows t [] := fun _ hc => nomatch hc

theorem follows_space (t : ValueType) (cs : List Char) : Follows t (' ' :: cs) := by
  intro c hc
  obtain rfl := Option.some.inj hc
  exact .inl rfl

theorem delimited_closing (cs : List Char) : Delimited (')' :: cs) := by
  intro c hc
  obtain rfl := Option.some.inj hc
  exact .inl rfl

theorem delimited_comma (cs : List Char) : Delimited (',' :: cs) := by
  intro c hc
  obtain rfl := Option.some.inj hc
  exact .inr rfl

/-! ## 3. Texts of operands and arguments -/

/-- A text that spells lexemes wherever an operand may stand. -/
structure OperandText (t : ValueType) (cs : List Char) (ls : List Lexeme) : Prop where
  clean : Clean cs
  begins : ∃ c rest, cs = c :: rest ∧ BeginsOperand c
  closes : cs.getLast? ≠ some ' '
  spells : Spells cs ls (Follows t)

/-- A text that spells lexemes in front of a bracket or a comma. -/
structure ArgumentText (cs : List Char) (ls : List Lexeme) : Prop where
  clean : Clean cs
  spells : Spells cs ls Delimited

section

variable {t : ValueType} {ls ms : List Lexeme} {l : Lexeme}

theorem OperandText.argument (h : OperandText t cs ls) : ArgumentText cs ls where
  clean := h.clean
  spells := h.spells.mono fun _ hrest => hrest.follows t

/-- Brackets around an argument. -/
theorem ArgumentText.grouped (h : ArgumentText cs ls) (t : ValueType) :
    OperandText t ('(' :: (cs ++ [')'])) (.mark .opening :: (ls ++ [.mark .closing])) where
  clean := (clean_charOf .opening).append (h.clean.append (clean_charOf .closing))
  begins := ⟨'(', _, rfl, .inr (.inr rfl)⟩
  closes := by
    rw [← List.cons_append, List.getLast?_concat]
    decide
  spells := (h.spells.bracketed delimited_closing).mono fun _ _ => trivial

theorem operandText_word (h : Text.isIdentifier cs = true) (hl : wordLexeme cs = some l)
    (t : ValueType) : OperandText t cs [l] where
  clean := clean_word h
  begins := by
    obtain ⟨c, rest, hcs, hc⟩ := exists_cons_of_isIdentifier h
    exact ⟨c, rest, hcs, .inl hc⟩
  closes := getLast?_append_word h []
  spells := (spells_word h hl).mono fun _ hrest => hrest.endsWord

theorem operandText_numeral (hcs : Numeral.IsNumeral cs) (hspells : Spells cs [l] Numeral.Ends)
    (ht : t.isVectorLike = false) : OperandText t cs [l] where
  clean := clean_numeral hcs
  begins := by
    obtain ⟨c, rest, hcs, hc⟩ := hcs.first
    exact ⟨c, rest, hcs, .inr (.inl hc)⟩
  closes := fun hlast =>
    absurd (not_isBlank_of_isNumeralChar (hcs.chars ' ' (List.mem_of_getLast? hlast))) (by decide)
  spells := hspells.mono fun _ hrest => hrest.ends ht

/-- A sign before an operand. -/
theorem OperandText.signed (h : OperandText t cs ls) (sign : Sign) :
    ArgumentText (charOf (signMark sign) :: cs) (.mark (signMark sign) :: ls) where
  clean := (clean_charOf _).append h.clean
  spells := by
    have hsign : Spells [charOf (signMark sign)] [.mark (signMark sign)]
        (Apart (charOf (signMark sign))) := by
      cases sign <;> exact spells_mark (by decide) (by decide)
    have hpoint : charOf (signMark sign) ≠ '.' := by cases sign <;> decide
    obtain ⟨c, rest, rfl, hc⟩ := h.begins
    exact hsign.append (h.spells.mono fun _ hrest => hrest.follows t) fun more _ =>
      hc.apart (.inl hpoint) _

/-- An operation between two operands. -/
theorem OperandText.binary {t' : ValueType} (hl : OperandText t as ls)
    (hr : OperandText t' bs ms) (op : Operator) :
    ArgumentText (as ++ ' ' :: charOf (operatorMark op) :: ' ' :: bs)
      (ls ++ .mark (operatorMark op) :: ms) where
  clean := hl.clean.append (clean_space.append ((clean_charOf _).append
    (clean_space.append hr.clean)))
  spells := by
    have hop : Spells [charOf (operatorMark op)] [.mark (operatorMark op)]
        (Apart (charOf (operatorMark op))) := by
      cases op <;> exact spells_mark (by decide) (by decide)
    have hright : Spells (' ' :: bs) ms Delimited :=
      spells_space.append (hr.spells.mono fun _ hrest => hrest.follows t') fun _ _ => trivial
    have hspaced : Spells (' ' :: charOf (operatorMark op) :: ' ' :: bs)
        (.mark (operatorMark op) :: ms) Delimited :=
      spells_space.append (hop.append hright fun _ _ => apart_space _ _) fun _ _ => trivial
    exact hl.spells.append hspaced fun _ _ => follows_space t _

/-- A component of an operand. -/
theorem OperandText.component {field : String} (h : OperandText t cs ls)
    (ht : t.isVectorLike = true) (hfield : IsName field) (t' : ValueType) :
    OperandText t' (cs ++ '.' :: field.toList) (ls ++ [.mark .dot, .name field]) where
  clean := h.clean.append ((clean_charOf .dot).append (clean_word hfield.identifier))
  begins := by
    obtain ⟨c, rest, rfl, hc⟩ := h.begins
    exact ⟨c, _, rfl, hc⟩
  closes := by
    rw [List.append_cons]
    exact getLast?_append_word hfield.identifier _
  spells := by
    have hdot : Spells ['.'] [.mark .dot] (Apart '.') :=
      spells_mark (m := .dot) (by decide) (by decide)
    have hname := (spells_word hfield.identifier (wordLexeme_of_isName hfield)).mono
      fun _ (hrest : Follows t' _) => hrest.endsWord
    have hfollows (more : List Char) : Apart '.' (field.toList ++ more) := by
      obtain ⟨c, rest, hcs, hc⟩ := exists_cons_of_isIdentifier hfield.identifier
      rw [hcs]
      exact BeginsOperand.apart (.inl hc) (.inr (not_isDigit_of_isIdentifierStart hc)) _
    have hpoint : Spells ('.' :: field.toList) [.mark .dot, .name field] (Follows t') :=
      hdot.append hname fun more _ => hfollows more
    refine h.spells.append hpoint fun _ _ => ?_
    intro c hc
    obtain rfl := Option.some.inj hc
    exact .inr (.inr (.inr ⟨rfl, ht⟩))

/-- Arguments with commas between them. -/
theorem argumentText_joined {texts : List (List Char)} {lss : List (List Lexeme)} (hne : lss ≠ [])
    (h : List.Forall₂ ArgumentText texts lss) : ArgumentText (joined texts) (separated lss) := by
  induction h with
  | nil => exact absurd rfl hne
  | @cons text ls texts lss ha hrest ih =>
    cases hrest with
    | nil => exact ha
    | cons hnext hrest =>
      have hbehind := ih (List.cons_ne_nil _ _)
      have hspaced := spells_space.append hbehind.spells fun _ _ => trivial
      have hcomma : Spells [','] [.mark .comma] (Apart ',') :=
        spells_mark (m := .comma) (by decide) (by decide)
      have hbehindComma := hcomma.append hspaced fun _ _ => apart_space .comma _
      exact ⟨ha.clean.append ((clean_charOf .comma).append (clean_space.append hbehind.clean)),
        ha.spells.append hbehindComma fun _ _ => delimited_comma _⟩

/-- A call of a function. -/
theorem operandText_call {name : String} {texts : List (List Char)} {lss : List (List Lexeme)}
    (hname : IsName name) (hne : lss ≠ []) (h : List.Forall₂ ArgumentText texts lss)
    (t : ValueType) : OperandText t (name.toList ++ '(' :: (joined texts ++ [')']))
      (.name name :: .mark .opening :: (separated lss ++ [.mark .closing])) := by
  have hjoined := argumentText_joined hne h
  have hends (more : List Char) : EndsWord ('(' :: more) := by
    intro c hc
    obtain rfl := Option.some.inj hc
    decide
  have hspells := (spells_word hname.identifier (wordLexeme_of_isName hname)).append
    (hjoined.spells.bracketed delimited_closing) fun _ _ => hends _
  refine ⟨(clean_word hname.identifier).append ((clean_charOf .opening).append
    (hjoined.clean.append (clean_charOf .closing))), ?_, ?_, hspells.mono fun _ _ => trivial⟩
  · obtain ⟨c, rest, hcs, hc⟩ := exists_cons_of_isIdentifier hname.identifier
    rw [hcs]
    exact ⟨c, _, rfl, .inl hc⟩
  · rw [← List.cons_append, ← List.append_assoc, List.getLast?_concat]
    decide

end

/-! ## 4. Operands and arguments -/

/-- A piece that is read as an operand. -/
structure IsOperand (source : String) (env : Environment) (t : ValueType) (cs : List Char)
    (e : Expr) : Prop where
  clean : Clean cs
  begins : ∃ c rest, cs = c :: rest ∧ BeginsOperand c
  closes : cs.getLast? ≠ some ' '
  read : ∃ ls, Spells cs ls (Follows t) ∧ Reads source env ls e

/-- A piece that is read in front of a bracket or a comma. -/
structure IsArgument (source : String) (env : Environment) (cs : List Char) (e : Expr) : Prop where
  clean : Clean cs
  read : ∃ ls, Spells cs ls Delimited ∧ Inside source env ls e

variable {source : String} {env : Environment} {t : ValueType} {e e' : Expr}

theorem isOperand_iff :
    IsOperand source env t cs e ↔ ∃ ls, OperandText t cs ls ∧ Reads source env ls e where
  mp h := by
    obtain ⟨ls, hspells, hreads⟩ := h.read
    exact ⟨ls, ⟨h.clean, h.begins, h.closes, hspells⟩, hreads⟩
  mpr := fun ⟨ls, h, hreads⟩ => ⟨h.clean, h.begins, h.closes, ls, h.spells, hreads⟩

theorem isArgument_iff :
    IsArgument source env cs e ↔ ∃ ls, ArgumentText cs ls ∧ Inside source env ls e where
  mp h := by
    obtain ⟨ls, hspells, hinside⟩ := h.read
    exact ⟨ls, ⟨h.clean, hspells⟩, hinside⟩
  mpr := fun ⟨ls, h, hinside⟩ => ⟨h.clean, ls, h.spells, hinside⟩

theorem IsOperand.argument (h : IsOperand source env t cs e) : IsArgument source env cs e := by
  obtain ⟨ls, htext, hreads⟩ := isOperand_iff.1 h
  exact isArgument_iff.2 ⟨ls, htext.argument, hreads.inside⟩

theorem IsArgument.grouped (h : IsArgument source env cs e) (t : ValueType) :
    IsOperand source env t ('(' :: (cs ++ [')'])) e := by
  obtain ⟨ls, htext, hinside⟩ := isArgument_iff.1 h
  exact isOperand_iff.2 ⟨_, htext.grouped t, hinside.grouped⟩

theorem isOperand_name {name : String} (h : IsName name) (henv : env.find? name = some e)
    (t : ValueType) : IsOperand source env t name.toList e :=
  isOperand_iff.2
    ⟨_, operandText_word h.identifier (wordLexeme_of_isName h) t, reads_name henv⟩

theorem isOperand_numeral {l : Lexeme} (hcs : Numeral.IsNumeral cs)
    (hspells : Spells cs [l] Numeral.Ends) (hreads : Reads source env [l] e)
    (ht : t.isVectorLike = false) : IsOperand source env t cs e :=
  isOperand_iff.2 ⟨_, operandText_numeral hcs hspells ht, hreads⟩

/-! ## 5. Nodes -/

theorem IsOperand.signed {sign : Sign} (h : IsOperand source env t cs e)
    (hn : Formula.signNode sign e = .ok e') :
    IsArgument source env (charOf (signMark sign) :: cs) e' := by
  obtain ⟨ls, htext, hreads⟩ := isOperand_iff.1 h
  exact isArgument_iff.2 ⟨_, htext.signed sign, hreads.signed hn⟩

theorem IsOperand.binary {op : Operator} {t' : ValueType} {left right : Expr}
    (hl : IsOperand source env t as left) (hr : IsOperand source env t' bs right)
    (hn : Build.binaryNode op.symbol left right = .ok e) :
    IsArgument source env (as ++ ' ' :: charOf (operatorMark op) :: ' ' :: bs) e := by
  obtain ⟨ls, htext, hreads⟩ := isOperand_iff.1 hl
  obtain ⟨ms, htext', hreads'⟩ := isOperand_iff.1 hr
  exact isArgument_iff.2 ⟨_, htext.binary htext' op, hreads.binary hreads' hn⟩

theorem IsOperand.component {field : String} (h : IsOperand source env t cs e)
    (ht : t.isVectorLike = true) (hfield : IsName field)
    (hn : Formula.componentNode e field = .ok e') (t' : ValueType) :
    IsOperand source env t' (cs ++ '.' :: field.toList) e' := by
  obtain ⟨ls, htext, hreads⟩ := isOperand_iff.1 h
  exact isOperand_iff.2 ⟨_, htext.component ht hfield t', hreads.component hn⟩

/-! ## 6. Calls -/

/-- Arguments side by side, by their lexemes. -/
theorem exists_argumentTexts {texts : List (List Char)} {es : List Expr}
    (h : List.Forall₂ (IsArgument source env) texts es) : ∃ lss,
      List.Forall₂ ArgumentText texts lss ∧ List.Forall₂ (Inside source env) lss es := by
  induction h with
  | nil => exact ⟨[], .nil, .nil⟩
  | cons ha _ ih =>
    obtain ⟨ls, htext, hinside⟩ := isArgument_iff.1 ha
    obtain ⟨lss, htexts, hrest⟩ := ih
    exact ⟨ls :: lss, .cons htext htexts, .cons hinside hrest⟩

theorem isOperand_call {name : String} {texts : List (List Char)} {es : List Expr}
    (hname : IsName name) (hne : es ≠ []) (h : List.Forall₂ (IsArgument source env) texts es)
    (hn : Build.callNode name es = .ok e) (t : ValueType) :
    IsOperand source env t (name.toList ++ '(' :: (joined texts ++ [')'])) e := by
  obtain ⟨lss, htexts, hinside⟩ := exists_argumentTexts h
  have hlss : lss ≠ [] := by
    intro heq
    subst heq
    cases hinside
    exact hne rfl
  exact isOperand_iff.2 ⟨_, operandText_call hname hlss htexts t, reads_call hlss hinside hn⟩

theorem isName_intrinsic (f : Signature.Intrinsic) : IsName f.name where
  identifier := by cases f <;> decide
  not_keyword := by cases f <;> decide
  normalized := Text.normalized_of_ascii (by cases f <;> decide)

theorem isName_of_callType {name : String} {types : List ValueType}
    (h : Signature.callType name types = .ok t) : IsName name ∧ types ≠ [] := by
  unfold Signature.callType at h
  cases hf : Signature.Intrinsic.ofName? name with
  | none => rw [hf] at h; cases h
  | some f =>
    rw [hf] at h
    refine ⟨Signature.Intrinsic.name_of_ofName? hf ▸ isName_intrinsic f, ?_⟩
    intro heq
    subst heq
    cases f <;> cases h

theorem isName_component {field : String} (h : field ∈ t.components) : IsName field := by
  have hall : ∀ t : ValueType, ∀ f ∈ t.components, Text.isIdentifier f.toList = true ∧
      isKeyword f.toList = false ∧ f.toList.all Text.isAscii = true := by
    intro t
    cases t <;> decide
  obtain ⟨hid, hkey, hascii⟩ := hall t field h
  exact ⟨hid, hkey, Text.normalized_of_ascii hascii⟩

/-! ## 7. Numbers with a sign -/

theorem BeginsOperand.ne_minus {c : Char} (h : BeginsOperand c) : c ≠ '-' := by
  intro heq
  subst heq
  rcases h with h | h | h
  all_goals exact absurd h (by decide)

/-- A text with a minus sign, if there is one. -/
def withSign (negative : Bool) (cs : List Char) : List Char := if negative then '-' :: cs else cs

/-- A number with its sign, as an argument. -/
theorem isArgument_signedNumber {d : Double}
    (h : IsOperand source env t cs (.number d.magnitude)) :
    IsArgument source env (withSign d.isNegative cs) (.signedNumber d) := by
  unfold Double.magnitude at h
  unfold withSign Expr.signedNumber
  cases hd : d.isNegative with
  | true =>
    rw [hd] at h
    have hn : Formula.signNode .minus (.number d.neg) = .ok (.unary "-" (.number d.neg) .float) := rfl
    exact h.signed hn
  | false =>
    rw [hd] at h
    exact h.argument

theorem shielded_of_ne_minus {c : Char} (h : c ≠ '-') (cs : List Char) :
    shielded (c :: cs) = c :: cs := by
  unfold shielded
  split
  · next heq => cases heq; exact absurd rfl h
  · rfl

/-- A number with its sign, in brackets if it has one. -/
theorem isOperand_shielded {d : Double} (h : IsOperand source env t cs (.number d.magnitude)) :
    IsOperand source env t (shielded (withSign d.isNegative cs)) (.signedNumber d) := by
  have harg := isArgument_signedNumber h
  unfold Double.magnitude at h
  unfold withSign Expr.signedNumber at harg ⊢
  cases hd : d.isNegative with
  | true =>
    rw [hd] at harg
    exact harg.grouped t
  | false =>
    rw [hd] at h
    obtain ⟨c, rest, rfl, hc⟩ := h.begins
    show IsOperand source env t (shielded (c :: rest)) _
    rw [shielded_of_ne_minus hc.ne_minus]
    exact h

/-! ## 8. Constants -/

theorem doubleSource_of_isFinite {d : Double} (hd : d.isFinite = true) :
    doubleSource d = .ok (withSign d.isNegative d.magnitudeText) := by
  unfold doubleSource Double.text withSign
  rw [if_pos hd, String.toList_ofList]

theorem toDouble_of_isFinite {s : Scalar} (hs : s.double.isFinite = true) :
    Build.toDouble s = .ok s.double := by
  cases s with
  | bool b => rfl
  | int n =>
    show Build.finiteDouble (Double.ofInt? n) = _
    rw [Double.ofInt?_of_isFinite hs]
    rfl
  | float d => rfl

theorem numberSource_true {s : Scalar} (hs : s.double.isFinite = true) :
    numberSource true s = .ok (withSign s.double.isNegative s.double.magnitudeText) := by
  have hsource := doubleSource_of_isFinite hs
  unfold numberSource
  rw [toDouble_of_isFinite hs]
  generalize s.double = d at hsource ⊢
  cases s with
  | bool b => exact hsource
  | int n =>
    show (if true = true then doubleSource d else .ok (intText n)) = _
    rw [if_pos rfl]
    exact hsource
  | float d' => exact hsource

theorem isOperand_magnitude {d : Double} (hd : d.isFinite = true) (ht : t.isVectorLike = false) :
    IsOperand source env t d.magnitudeText (.number d.magnitude) :=
  isOperand_numeral (Numeral.isNumeral_magnitudeText hd) (spells_magnitudeText hd) (reads_real _) ht

/-- The parts of a vector or color. -/
theorem exists_partSources {parts : List Scalar}
    (h : ∀ s ∈ parts, s.double.isFinite = true) :
    ∃ texts, partSources (parts.map .number) = .ok texts ∧
      List.Forall₂ (IsArgument source env) texts
        (parts.map fun s => Expr.signedNumber s.double) := by
  induction parts with
  | nil => exact ⟨[], rfl, .nil⟩
  | cons s parts ih =>
    obtain ⟨texts, htexts, hargs⟩ := ih fun s hs => h s (List.mem_cons_of_mem _ hs)
    have hs := h s List.mem_cons_self
    refine ⟨withSign s.double.isNegative s.double.magnitudeText :: texts, ?_, .cons ?_ hargs⟩
    · rw [List.map_cons, partSources, partSource, numberSource_true hs, htexts]
      rfl
    · exact isArgument_signedNumber (t := .float) (isOperand_magnitude hs rfl)

theorem intText_eq (n : Int) :
    intText n = withSign (Double.ofInt n).isNegative (Nat.toDigits 10 n.natAbs) := by
  unfold intText withSign
  rw [Double.isNegative_ofInt]
  by_cases h : n < 0
  · rw [if_pos h, decide_eq_true h, if_pos rfl]
  · rw [if_neg h, decide_eq_false h, if_neg Bool.false_ne_true]

theorem magnitude_ofInt (n : Int) : (Double.ofInt n).magnitude = Double.ofInt n.natAbs := by
  unfold Double.magnitude
  rw [Double.isNegative_ofInt]
  by_cases h : n < 0
  · rw [decide_eq_true h, if_pos rfl, Double.ofInt_natAbs_of_neg h]
  · rw [decide_eq_false h, if_neg Bool.false_ne_true,
      Double.ofInt_natAbs_of_nonneg (Int.not_lt.mp h)]

/-- The digits of a whole number that a double can stand for. -/
theorem isOperand_whole {n : Int} (hn : (Double.ofInt n).isFinite = true)
    (ht : t.isVectorLike = false) :
    IsOperand source env t (Nat.toDigits 10 n.natAbs) (.number (Double.ofInt n).magnitude) := by
  have hfinite : (Scalar.int n.natAbs).double.isFinite = true :=
    (Double.isFinite_ofInt_natAbs n).trans hn
  have hlen : (Nat.toDigits 10 n.natAbs).length ≤ Numeral.maxWholeDigits :=
    (Nat.length_toDigits_le_iff (by decide) (by decide)).2
      (Double.natAbs_lt_of_isFinite hn (by decide))
  rw [magnitude_ofInt]
  exact isOperand_numeral
    (.of_digits (Decimal.allDigits_toDigits _) Nat.toDigits_ne_nil) (spells_whole hlen)
    (reads_whole (toDouble_of_isFinite hfinite)) ht

/-- The constant of a number. -/
theorem exists_numberSource {s : Scalar} (hs : s.valueType ≠ .bool)
    (hfinite : s.double.isFinite = true) :
    ∃ text, constantSource s.valueType (.literal (.scalar s)) = .ok text ∧
      IsOperand source env s.valueType text (.signedNumber s.double) := by
  cases s with
  | bool b => exact absurd rfl hs
  | int n =>
    refine ⟨shielded (intText n), ?_, ?_⟩
    · show (numberSource false (.int n)).map shielded = _
      unfold numberSource
      rw [toDouble_of_isFinite hfinite]
      rfl
    · rw [intText_eq]
      exact isOperand_shielded (isOperand_whole hfinite rfl)
  | float d =>
    refine ⟨shielded (withSign d.isNegative d.magnitudeText), ?_, ?_⟩
    · show (numberSource true (.float d)).map shielded = _
      rw [numberSource_true hfinite]
      rfl
    · exact isOperand_shielded (isOperand_magnitude hfinite rfl)

theorem constantSource_vector {l : Literal} (hl : l.parts ≠ []) (t : ValueType) :
    constantSource t (.literal l) = (partSources (l.parts.map .number)).map fun texts =>
      t.name.toList ++ '(' :: (joined texts ++ [')']) := by
  cases l with
  | scalar s => exact absurd rfl hl
  | _ => rfl

/-- The constant of a vector or a color. -/
theorem exists_vectorSource {l : Literal} (hl : l.parts ≠ [])
    (hfinite : ∀ s ∈ l.parts, s.double.isFinite = true) :
    ∃ text, constantSource l.valueType (.literal l) = .ok text ∧
      IsOperand source env l.valueType text (Expr.normal (.const (.literal l) l.valueType)) := by
  obtain ⟨texts, htexts, hargs⟩ := exists_partSources hfinite
  have hcall := Expr.callNode_parts hl
  obtain ⟨t, ht, -⟩ := Outcome.of_map hcall
  have hne : (l.parts.map fun s => Expr.signedNumber s.double) ≠ [] :=
    fun h => hl (List.map_eq_nil_iff.mp h)
  refine ⟨l.valueType.name.toList ++ '(' :: (joined texts ++ [')']), ?_,
    isOperand_call (isName_of_callType ht).1 hne hargs hcall l.valueType⟩
  rw [constantSource_vector hl, htexts]
  rfl

end VisualScale
