import VisualScale.Formula.Parsed
import VisualScale.Proofs.Source.Pieces
import VisualScale.Proofs.Table

/-!
# The source of an expression is read back

A plain expression has a source, and the source is a formula that compiles to the normal form of the
expression, where every name stands for the leaf that it came from
(`Expr.Plain.exists_source_compile`). The one thing that can be in the way is the nesting of
brackets.

* `Expr.Plain.exists_isOperand` -- every plain expression is written as an operand;
* `ParsedFormula.exists_ofText` -- a text that is an operand is read as a formula.
-/

namespace VisualScale

open Lexer Reader

/-! ## 1. Every plain expression is written as an operand -/

namespace Expr

/-- The name of a variable or column. -/
def leafName : Expr → String
  | var name _ | column name _ => name
  | _ => ""

/-- The environment in which the name of every leaf stands for the leaf. -/
def leafEnvironment (e : Expr) : Environment := .ofEntries (e.leaves.map fun l => (l.leafName, l))

variable {source : String} {env : Environment}

theorem toList_signText (sign : Sign) : (signText sign).toList = [charOf (signMark sign)] := by
  cases sign <;> rfl

theorem toList_symbol (op : Operator) : op.symbol.toList = [charOf (operatorMark op)] := by
  cases op <;> rfl

theorem exists_sourcesOfAll {args : List Expr}
    (h : ∀ a ∈ args, ∃ cs, a.sourceChars = .ok cs ∧ IsOperand source env a.valueType cs a.normal) :
    ∃ texts, sourcesOfAll args = .ok texts ∧
      List.Forall₂ (IsArgument source env) texts (args.map normal) := by
  induction args with
  | nil => exact ⟨[], rfl, .nil⟩
  | cons a args ih =>
    obtain ⟨cs, hcs, ha⟩ := h a List.mem_cons_self
    obtain ⟨texts, htexts, hargs⟩ := ih fun a ha => h a (List.mem_cons_of_mem _ ha)
    refine ⟨cs :: texts, ?_, .cons ha.argument hargs⟩
    unfold sourcesOfAll
    rw [hcs, htexts]
    rfl

theorem sourceChars_unary {sign : Sign} {operand : Expr} {cs : List Char}
    (h : operand.sourceChars = .ok cs) (t : ValueType) :
    (unary (signText sign) operand t).sourceChars =
      .ok ('(' :: (charOf (signMark sign) :: cs ++ [')'])) := by
  show (operand.sourceChars >>= _) = _
  rw [h, toList_signText]
  rfl

theorem sourceChars_binary {op : Operator} {left right : Expr} {as bs : List Char}
    (hl : left.sourceChars = .ok as) (hr : right.sourceChars = .ok bs) (t : ValueType) :
    (binary op.symbol left right t).sourceChars =
      .ok ('(' :: (as ++ ' ' :: charOf (operatorMark op) :: ' ' :: bs ++ [')'])) := by
  show (left.sourceChars >>= fun l => right.sourceChars >>= _) = _
  rw [hl, hr, toList_symbol]
  show Except.ok ('(' :: (as ++ ' ' :: charOf (operatorMark op) :: ' ' :: (bs ++ [')']))) = _
  rw [List.append_assoc]
  rfl

theorem sourceChars_call {args : List Expr} {texts : List (List Char)}
    (h : sourcesOfAll args = .ok texts) (name : String) (t : ValueType) :
    (call name args t).sourceChars = .ok (name.toList ++ '(' :: (joined texts ++ [')'])) := by
  show (sourcesOfAll args >>= _) = _
  rw [h]
  rfl

theorem sourceChars_component {value : Expr} {cs : List Char} (h : value.sourceChars = .ok cs)
    (field : String) (t : ValueType) :
    (component value field t).sourceChars = .ok (cs ++ '.' :: field.toList) := by
  show (value.sourceChars >>= _) = _
  rw [h]
  rfl

theorem mem_leaves_call {a l : Expr} {args : List Expr} (ha : a ∈ args) (hl : l ∈ a.leaves)
    (name : String) (t : ValueType) : l ∈ (call name args t).leaves := by
  show l ∈ leavesOfAll args
  rw [leavesOfAll_eq]
  exact List.mem_flatMap.2 ⟨a, ha, hl⟩

/-- **A plain expression is written as an operand that is read as its normal form.** -/
theorem Plain.exists_isOperand {e : Expr} (h : e.Plain)
    (henv : ∀ l ∈ e.leaves, env.find? l.leafName = some l) :
    ∃ cs, e.sourceChars = .ok cs ∧ IsOperand source env e.valueType cs e.normal := by
  induction h with
  | number hs hfinite => exact exists_numberSource hs hfinite
  | vector hl hfinite => exact exists_vectorSource hl hfinite
  | @var name t hname =>
    exact ⟨_, rfl, isOperand_name hname (henv (.var name t) (List.mem_singleton_self _)) t⟩
  | @column name t hname =>
    exact ⟨_, rfl, isOperand_name hname (henv (.column name t) (List.mem_singleton_self _)) t⟩
  | @unary sign operand t ht hp ih =>
    obtain ⟨cs, hcs, hop⟩ := ih henv
    have hnode := hp.signNode_normal sign ht
    exact ⟨_, sourceChars_unary hcs t, (hop.signed hnode).grouped t⟩
  | @binary op left right t ht hl hr ihl ihr =>
    obtain ⟨as, has, hleft⟩ := ihl fun l hl => henv l (List.mem_append_left _ hl)
    obtain ⟨bs, hbs, hright⟩ := ihr fun l hl => henv l (List.mem_append_right _ hl)
    have hnode := Plain.binaryNode_normal op hl hr ht
    exact ⟨_, sourceChars_binary has hbs t, (hleft.binary hright hnode).grouped t⟩
  | @call name args t ht hp ih =>
    obtain ⟨texts, htexts, hargs⟩ := exists_sourcesOfAll fun a ha =>
      ih a ha fun l hl => henv l (mem_leaves_call ha hl name t)
    obtain ⟨hname, htypes⟩ := isName_of_callType ht
    have hne : args.map normal ≠ [] := fun h =>
      htypes (List.map_eq_nil_iff.mpr (List.map_eq_nil_iff.mp h))
    have hnode := Plain.callNode_normal hp ht
    exact ⟨_, sourceChars_call htexts name t, isOperand_call hname hne hargs hnode t⟩
  | @component value field hf hp ih =>
    obtain ⟨cs, hcs, hop⟩ := ih henv
    have hvector : value.valueType.isVectorLike = true := decide_eq_true (List.ne_nil_of_mem hf)
    have hnode := hp.componentNode_normal hf
    exact ⟨_, sourceChars_component hcs field .float,
      hop.component hvector (isName_component hf) hnode .float⟩

theorem find?_leafEnvironment {e l : Expr} (hl : l ∈ e.leaves)
    (hsame : ∀ a ∈ e.leaves, ∀ b ∈ e.leaves, a.leafName = b.leafName → a = b) :
    e.leafEnvironment.find? l.leafName = some l := by
  refine Table.find?_ofEntries (List.mem_map_of_mem hl) fun b hb => ?_
  obtain ⟨a, ha, heq⟩ := List.mem_map.mp hb
  obtain ⟨hname, rfl⟩ := Prod.mk.inj heq
  exact hsame a ha l hl hname

end Expr

/-! ## 2. A text that is an operand is read -/

theorem BeginsOperand.beginsLexeme {c : Char} (h : BeginsOperand c) : BeginsLexeme c := by
  rcases h with h | h | rfl
  · exact beginsLexeme_of_isWordChar
      (isWordChar_of_isWordStart (Text.isWordStart_of_isIdentifierStart h))
  · exact beginsLexeme_of_isWordChar (Numeral.isWordChar_of_isDigit h)
  · exact beginsLexeme_charOf .opening

theorem BeginsOperand.not_isBlank {c : Char} (h : BeginsOperand c) : Text.isBlank c = false := by
  rcases h with h | h | rfl
  · exact Text.not_isBlank_of_isIdentifierStart h
  · exact not_isBlank_of_isNumeralChar (.inl h)
  · decide

namespace Lexer

theorem unifyLineEnds_of_notMem {cs : List Char} (h : '\r' ∉ cs) : unifyLineEnds cs = cs := by
  induction cs with
  | nil => rfl
  | cons c cs ih =>
    have hc : c ≠ '\r' := fun heq => h (heq ▸ List.mem_cons_self)
    conv_lhs => unfold unifyLineEnds
    split
    · next heq => cases heq
    · next heq => cases heq; exact absurd rfl hc
    · next heq =>
      cases heq
      rw [if_neg hc, ih fun hm => h (List.mem_cons_of_mem _ hm)]

theorem toFirstWord_of_beginsLexeme {c : Char} (h : BeginsLexeme c) (p : Position)
    (cs : List Char) : toFirstWord p false ⟨0, 0⟩ (c :: cs) = some (p, c :: cs) := by
  unfold toFirstWord
  split
  · next heq => cases heq
  · next heq => cases heq; exact absurd rfl h.not_backslash
  · next heq =>
    cases heq
    rw [if_neg h.not_lineFeed, Bool.false_or, if_neg (by simpa using h.not_comment), h.not_space,
      if_neg Bool.false_ne_true]
    exact if_pos rfl

end Lexer

namespace OperandText

variable {t : ValueType} {cs : List Char} {ls : List Lexeme} {tokens : List Token}

theorem solid (h : OperandText t cs ls) {c : Char} (hc : c ∈ cs) (hne : c ≠ ' ') :
    Text.isBlank c = false ∧ c ≠ '\x00' := (h.clean c hc).resolve_left hne

theorem trim_eq (h : OperandText t cs ls) : Text.trim cs = cs := by
  refine Text.trim_eq_self (fun c hc => ?_) fun c hc => ?_
  · obtain ⟨d, rest, rfl, hd⟩ := h.begins
    obtain rfl := Option.some.inj hc
    exact hd.not_isBlank
  · refine (h.solid (List.mem_of_getLast? hc) ?_).1
    intro heq
    subst heq
    exact h.closes hc

theorem nul_notMem (h : OperandText t cs ls) : '\x00' ∉ cs :=
  fun hm => (h.solid hm (by decide)).2 rfl

theorem lex_eq (h : OperandText t cs ls) : lex cs = words cs.length ⟨1, 0⟩ [] cs := by
  have hreturn : '\r' ∉ cs := fun hm => absurd (h.solid hm (by decide)).1 (by decide)
  obtain ⟨c, rest, rfl, hc⟩ := h.begins
  unfold lex
  rw [unifyLineEnds_of_notMem hreturn, toFirstWord_of_beginsLexeme hc.beginsLexeme]
  rfl

/-- The text of an operand is taken apart into its lexemes, if there is room for its brackets. -/
theorem exists_lex (h : OperandText t cs ls) (hroom : Room 0 cs) :
    ∃ tokens, lex cs = some tokens ∧ tokens.map Token.lexeme = ls := by
  have hlexes := h.spells.lexes hroom (follows_nil t) lexes_nil
  rw [List.append_nil, List.append_nil] at hlexes
  rw [h.lex_eq]
  exact hlexes cs.length ⟨1, 0⟩ (Nat.le_refl _)

/-- Only if there is room for its brackets. -/
theorem room_of_lex (h : OperandText t cs ls) (hlex : lex cs = some tokens) : Room 0 cs := by
  rw [h.lex_eq] at hlex
  have hs : Separable 0 (cs ++ []) := ⟨_, _, _, by rwa [List.append_nil]⟩
  exact (h.spells.needs (Nat.zero_le _) (follows_nil t) hs).1

end OperandText

namespace ParsedFormula

variable {env : Environment} {t : ValueType} {cs : List Char} {e : Expr}

/-- **A text that is an operand is read as a formula.** -/
theorem exists_ofText (h : IsOperand (.ofList cs) env t cs e) (hroom : Room 0 cs) :
    ∃ p, ofText (.ofList cs) = .ok p ∧ p.compile env = .ok e := by
  obtain ⟨ls, htext, hreads⟩ := isOperand_iff.1 h
  have hnul : cs.contains '\x00' = false :=
    Bool.eq_false_iff.2 fun hm => htext.nul_notMem (List.contains_iff_mem.mp hm)
  have hne : cs ≠ [] := by
    obtain ⟨c, rest, rfl, -⟩ := htext.begins
    exact List.cons_ne_nil _ _
  obtain ⟨tokens, hlex, htokens⟩ := htext.exists_lex hroom
  obtain ⟨s', hrun, o, rfl, ho⟩ := hreads .start rfl tokens htokens
  refine ⟨⟨.ofList cs, o.formula⟩, ?_, ho⟩
  have hread : Formula.read tokens = some o.formula := by
    unfold Formula.read
    rw [hrun]
    rfl
  unfold ofText
  rw [String.toList_ofList, htext.trim_eq, if_neg hne]
  unfold ofTrimmed
  dsimp only
  rw [hnul, if_neg Bool.false_ne_true, hlex]
  dsimp only
  rw [hread]

end ParsedFormula

/-! ## 3. From an expression to its source and back -/

namespace Expr

/-- **The source of a plain expression is read back as its normal form.** The expression has a
    source; and if no more brackets are ever open in it than may be, it is a formula, which compiles
    to the normal form where each name stands for the leaf of that name. -/
theorem Plain.exists_source_compile {e : Expr} (h : e.Plain)
    (hsame : ∀ a ∈ e.leaves, ∀ b ∈ e.leaves, a.leafName = b.leafName → a = b) :
    ∃ text, e.source = .ok text ∧ (Room 0 text.toList → ∃ p,
      ParsedFormula.ofText text = .ok p ∧ p.compile e.leafEnvironment = .ok e.normal) := by
  have henv (l : Expr) (hl : l ∈ e.leaves) := find?_leafEnvironment hl hsame
  have hread (source : String) : ∃ cs, e.sourceChars = .ok cs ∧
      IsOperand source e.leafEnvironment e.valueType cs e.normal := h.exists_isOperand henv
  -- the source is known only once the expression is written
  obtain ⟨cs, hcs, -⟩ := hread ""
  obtain ⟨cs', hcs', hop⟩ := hread (.ofList cs)
  obtain rfl : cs = cs' := Except.ok.inj (hcs.symm.trans hcs')
  refine ⟨.ofList cs, ?_, fun hroom => ?_⟩
  · unfold source
    rw [hcs]
    rfl
  · rw [String.toList_ofList] at hroom
    exact ParsedFormula.exists_ofText hop hroom

/-- The product of a variable and a negative whole number. -/
theorem exists_source_compile_product :
    let e : Expr := .binary "*" (.var "x" .float) (.const (.literal (.scalar (.int (-2)))) .int) .float
    ∃ p, e.source = .ok "(x * (-2))" ∧ ParsedFormula.ofText "(x * (-2))" = .ok p ∧
      p.compile e.leafEnvironment = .ok e.normal := by
  intro e
  have hx : IsName "x" := ⟨by decide, by decide, Text.normalized_of_ascii (by decide)⟩
  have hplain : e.Plain := .binary .mul rfl (.var .float hx)
    (.number (s := .int (-2)) (by decide) (by decide +kernel))
  have hsame : ∀ a ∈ e.leaves, ∀ b ∈ e.leaves, a.leafName = b.leafName → a = b := by
    intro a ha b hb _
    rw [List.mem_singleton.mp ha, List.mem_singleton.mp hb]
  have hchars : e.sourceChars.toOption = some "(x * (-2))".toList := by decide +kernel
  obtain ⟨text, hsource, hread⟩ := Plain.exists_source_compile hplain hsame
  obtain ⟨cs, hcs, rfl⟩ := Outcome.of_map hsource
  rw [hcs] at hchars
  obtain rfl : cs = "(x * (-2))".toList := Option.some.inj hchars
  obtain ⟨p, hp, hcompile⟩ := hread (room_of_length (by decide))
  exact ⟨p, hsource, hp, hcompile⟩

end Expr

end VisualScale
