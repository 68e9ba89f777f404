import VisualScale.Proofs.Language.Names
import VisualScale.Proofs.Source.Names
import VisualScale.Proofs.Source.RoundTrip
import VisualScale.Proofs.Typing

/-!
# Which sources are read again

An expression of the nodes that formulas have (`Expr.Formed`), whose leaves are called by
identifiers, is written as an operand (`Expr.Formed.exists_sourceText`). So its source is a formula
exactly if there is room for its brackets and no leaf is called by a reserved word; and then the
formula reads each leaf under the one spelling of its name (`Expr.Formed.ofText_source`).

The names of the leaves need not be those of the formula that the expression came from, and the
types need not fit again; so nothing is compiled here.
-/

namespace VisualScale

open Lexer Reader

/-! ## 1. Expressions of the nodes that formulas have -/

namespace Expr

/-- Every sign and operation is one of formulas, every call one of a function with arguments, every
    component one that its operand has, and every constant has the type of its literal. -/
inductive Formed : Expr → Prop where
  | const (l : Literal) : Formed (.const (.literal l) l.valueType)
  | var (name : String) (t : ValueType) : Formed (.var name t)
  | column (field : String) (t : ValueType) : Formed (.column field t)
  | unary (sign : Sign) {operand : Expr} (t : ValueType) (h : operand.Formed) :
      Formed (.unary (signText sign) operand t)
  | binary (op : Operator) {left right : Expr} (t : ValueType) (hl : left.Formed)
      (hr : right.Formed) : Formed (.binary op.symbol left right t)
  | call {name : String} {args : List Expr} (t : ValueType) (hname : IsName name) (hne : args ≠ [])
      (h : ∀ a ∈ args, a.Formed) : Formed (.call name args t)
  | component {value : Expr} {field : String} (t : ValueType)
      (hf : field ∈ value.valueType.components) (h : value.Formed) :
      Formed (.component value field t)

/-- **The rules build such nodes.** -/
theorem keptByRules_formed : KeptByRules Formed where
  number d := .const (.scalar (.float d))
  binary op l r e hl hr h := by
    obtain ⟨t, -, rfl⟩ := Outcome.of_map h
    exact .binary op t hl hr
  signed {sign e e'} he h := by
    cases sign with
    | plus =>
      obtain ⟨t, -, rfl⟩ := Outcome.of_map h
      exact he
    | minus =>
      obtain ⟨t, -, rfl⟩ := Outcome.of_map h
      exact .unary .minus t he
  call {function es e} hes h := by
    obtain ⟨t, ht, rfl⟩ := Outcome.of_map h
    obtain ⟨hname, htypes⟩ := isName_of_callType ht
    exact .call t hname (fun hnil => htypes (by rw [hnil]; rfl)) hes
  component he h := by
    obtain ⟨hf, rfl⟩ := componentNode_ok h
    exact .component .float hf he

end Expr

/-! ## 2. Constants that are written -/

/-- A number that is written is finite. -/
theorem isFinite_of_numberSource {asFloat : Bool} {s : Scalar} {cs : List Char}
    (h : numberSource asFloat s = .ok cs) : s.double.isFinite = true := by
  have hdouble {d : Double} (h : doubleSource d = .ok cs) : d.isFinite = true := by
    unfold doubleSource at h
    split at h
    · assumption
    · cases h
  obtain ⟨d, hd, h⟩ := Outcome.of_bind h
  cases s with
  | bool b =>
    obtain rfl := Except.ok.inj hd
    exact hdouble h
  | float d' =>
    obtain rfl := Except.ok.inj hd
    exact hdouble h
  | int n =>
    cases hfinite : (Double.ofInt n).isFinite with
    | true => exact hfinite
    | false =>
      replace hd : Build.finiteDouble (Double.ofInt? n) = .ok d := hd
      unfold Double.ofInt? at hd
      dsimp only at hd
      rw [hfinite] at hd
      cases hd

theorem isFinite_of_partSources {parts : List Scalar} {texts : List (List Char)}
    (h : partSources (parts.map .number) = .ok texts) : ∀ s ∈ parts, s.double.isFinite = true := by
  induction parts generalizing texts with
  | nil => exact fun s hs => absurd hs List.not_mem_nil
  | cons s parts ih =>
    obtain ⟨text, htext, h⟩ := Outcome.of_bind h
    obtain ⟨rest, hrest, -⟩ := Outcome.of_bind h
    exact List.forall_mem_cons.2 ⟨isFinite_of_numberSource htext, ih hrest⟩

/-- A constant that is written is an operand, where no name stands for anything. -/
theorem exists_constantOperand {l : Literal} {cs : List Char}
    (h : constantSource l.valueType (.literal l) = .ok cs) :
    ∃ e, IsOperand "" [] l.valueType cs e := by
  have hsame {e : Expr} (hop : ∃ text, constantSource l.valueType (.literal l) = .ok text ∧
      IsOperand "" [] l.valueType text e) : ∃ e, IsOperand "" [] l.valueType cs e := by
    obtain ⟨text, htext, hop⟩ := hop
    obtain rfl := Except.ok.inj (h.symm.trans htext)
    exact ⟨e, hop⟩
  by_cases hl : l.parts = []
  · cases l with
    | scalar s =>
      cases s with
      | bool b => cases h
      | int n | float d =>
        obtain ⟨text, htext, -⟩ := Outcome.of_map h
        exact hsame (exists_numberSource (by nofun) (isFinite_of_numberSource htext))
    | _ => cases hl
  · have hparts := (constantSource_vector hl l.valueType).symm.trans h
    obtain ⟨texts, htexts, -⟩ := Outcome.of_map hparts
    exact hsame (exists_vectorSource hl (isFinite_of_partSources htexts))

/-! ## 3. Sources as operands -/

namespace Expr

/-- The names under which the leaves of an expression are read, from left to right. -/
def readNames (e : Expr) : List String := e.leaves.map fun l => nameOf l.leafName

/-- A source is the text of an operand. Unless a leaf is called by a reserved word, its lexemes read
    the leaves; otherwise the word is among them. -/
structure SourceText (e : Expr) (cs : List Char) (ls : List Lexeme) : Prop where
  text : OperandText e.valueType cs ls
  reads : (∀ l ∈ e.leaves, isKeyword l.leafName.toList = false) →
    DerivesReading .primary ls e.readNames
  refused : ∀ l ∈ e.leaves, isKeyword l.leafName.toList = true → ∃ x, .other x ∈ ls

theorem readNames_call (name : String) (args : List Expr) (t : ValueType) :
    (call name args t).readNames = (args.map readNames).flatten := by
  unfold readNames
  rw [leaves, leavesOfAll_eq, List.map_flatMap]
  rfl

theorem exists_leafText {e : Expr} (hleaf : e.leaves = [e])
    (h : Text.isIdentifier e.leafName.toList = true) : ∃ ls, e.SourceText e.leafName.toList ls := by
  have hword := wordLexeme_of_isIdentifier h
  rw [String.ofList_toList] at hword
  refine ⟨_, operandText_word h hword e.valueType, fun hall => ?_, fun l hl hkey => ?_⟩
  · have hnot := hall e (hleaf ▸ List.mem_singleton_self e)
    unfold readNames
    rw [hleaf, hnot]
    exact .name _
  · obtain rfl := List.mem_singleton.1 (hleaf ▸ hl)
    rw [hkey]
    exact ⟨_, List.mem_singleton_self _⟩

theorem mem_separated {l : Lexeme} {ls : List Lexeme} {lss : List (List Lexeme)} (hl : l ∈ ls)
    (hls : ls ∈ lss) : l ∈ separated lss := by
  induction lss with
  | nil => cases hls
  | cons ms lss ih =>
    cases lss with
    | nil => exact List.mem_singleton.1 hls ▸ hl
    | cons ns lss =>
      refine List.mem_append.2 ?_
      rcases List.mem_cons.1 hls with rfl | hls
      · exact .inl hl
      · exact .inr (List.mem_cons_of_mem _ (ih hls))

/-- The arguments of a call, each by its own lexemes. -/
theorem exists_sourceTexts {args : List Expr} {texts : List (List Char)}
    (h : ∀ a ∈ args, ∀ cs, a.sourceChars = .ok cs → ∃ ls, a.SourceText cs ls)
    (htexts : sourcesOfAll args = .ok texts) :
    ∃ lss, List.Forall₂ ArgumentText texts lss ∧
      ((∀ a ∈ args, ∀ l ∈ a.leaves, isKeyword l.leafName.toList = false) →
        List.Forall₂ (DerivesReading .expr) lss (args.map readNames)) ∧
      (args ≠ [] → lss ≠ []) ∧
      ∀ a ∈ args, ∀ l ∈ a.leaves, isKeyword l.leafName.toList = true →
        ∃ ls ∈ lss, ∃ x, .other x ∈ ls := by
  induction args generalizing texts with
  | nil =>
    obtain rfl := Except.ok.inj htexts
    exact ⟨[], .nil, fun _ => .nil, fun hne => absurd rfl hne,
      fun a ha => absurd ha List.not_mem_nil⟩
  | cons a args ih =>
    obtain ⟨cs, hcs, htexts⟩ := Outcome.of_bind htexts
    obtain ⟨rest, hrest, htexts⟩ := Outcome.of_bind htexts
    obtain rfl := Except.ok.inj htexts
    obtain ⟨ls, hls⟩ := h a List.mem_cons_self cs hcs
    obtain ⟨lss, htext, hreads, -, hrefused⟩ :=
      ih (fun b hb => h b (List.mem_cons_of_mem _ hb)) hrest
    refine ⟨ls :: lss, .cons hls.text.argument htext, fun hall => ?_,
      fun _ => List.cons_ne_nil _ _, fun b hb l hl hkey => ?_⟩
    · obtain ⟨ha, hargs⟩ := List.forall_mem_cons.1 hall
      exact .cons (hls.reads ha).expr (hreads hargs)
    · rcases List.mem_cons.1 hb with rfl | hb
      · exact ⟨ls, List.mem_cons_self, hls.refused l hl hkey⟩
      · obtain ⟨ms, hms, hx⟩ := hrefused b hb l hl hkey
        exact ⟨ms, List.mem_cons_of_mem _ hms, hx⟩

/-- **What is written of an expression of such nodes is an operand.** -/
theorem Formed.exists_sourceText {e : Expr} (h : e.Formed)
    (hleaves : ∀ l ∈ e.leaves, Text.isIdentifier l.leafName.toList = true) {cs : List Char}
    (hcs : e.sourceChars = .ok cs) : ∃ ls, e.SourceText cs ls := by
  induction h generalizing cs with
  | const l =>
    obtain ⟨e, hop⟩ := exists_constantOperand hcs
    obtain ⟨ls, htext, hreads⟩ := isOperand_iff.1 hop
    exact ⟨ls, htext, fun _ => hreads.derivesReading, fun l hl => absurd hl List.not_mem_nil⟩
  | var name t =>
    obtain rfl := Except.ok.inj hcs
    exact exists_leafText (e := .var name t) rfl (hleaves _ (List.mem_singleton_self _))
  | column name t =>
    obtain rfl := Except.ok.inj hcs
    exact exists_leafText (e := .column name t) rfl (hleaves _ (List.mem_singleton_self _))
  | @unary sign operand t h ih =>
    obtain ⟨text, htext, -⟩ := Outcome.of_bind hcs
    obtain rfl := Except.ok.inj ((sourceChars_unary htext t).symm.trans hcs)
    obtain ⟨ls, hls⟩ := ih hleaves htext
    refine ⟨_, (hls.text.signed sign).grouped t, fun hall => ((hls.reads hall).signed sign).grouped,
      fun l hl hkey => ?_⟩
    obtain ⟨x, hx⟩ := hls.refused l hl hkey
    exact ⟨x, by simp [hx]⟩
  | @binary op left right t hl hr ihl ihr =>
    obtain ⟨as, has, hbehind⟩ := Outcome.of_bind hcs
    obtain ⟨bs, hbs, -⟩ := Outcome.of_bind hbehind
    obtain rfl := Except.ok.inj ((sourceChars_binary has hbs t).symm.trans hcs)
    obtain ⟨ls, hls⟩ := ihl (fun l hl => hleaves l (List.mem_append_left _ hl)) has
    obtain ⟨ms, hms⟩ := ihr (fun l hl => hleaves l (List.mem_append_right _ hl)) hbs
    refine ⟨_, (hls.text.binary hms.text op).grouped t, fun hall => ?_, fun l hl hkey => ?_⟩
    · have hleft := hls.reads fun l hl => hall l (List.mem_append_left _ hl)
      have hright := hms.reads fun l hl => hall l (List.mem_append_right _ hl)
      have hnode := (hleft.binary hright op).grouped
      rwa [readNames, readNames, ← List.map_append] at hnode
    · rcases List.mem_append.1 hl with hl | hl
      · obtain ⟨x, hx⟩ := hls.refused l hl hkey
        exact ⟨x, by simp [hx]⟩
      · obtain ⟨x, hx⟩ := hms.refused l hl hkey
        exact ⟨x, by simp [hx]⟩
  | @call name args t hname hne h ih =>
    have hmem {a l : Expr} (ha : a ∈ args) (hl : l ∈ a.leaves) :
        l ∈ (Expr.call name args t).leaves :=
      mem_leaves_call ha hl name t
    obtain ⟨texts, htexts, -⟩ := Outcome.of_bind hcs
    obtain rfl := Except.ok.inj ((sourceChars_call htexts name t).symm.trans hcs)
    obtain ⟨lss, htext, hreads, hlss, hrefused⟩ := exists_sourceTexts
      (fun a ha cs hcs => ih a ha (fun l hl => hleaves l (hmem ha hl)) hcs) htexts
    refine ⟨_, operandText_call hname (hlss hne) htext t, fun hall => ?_, fun l hl hkey => ?_⟩
    · rw [readNames_call]
      exact .call name (hreads fun a ha l hl => hall l (hmem ha hl))
    · rw [leaves, leavesOfAll_eq] at hl
      obtain ⟨a, ha, hl⟩ := List.mem_flatMap.1 hl
      obtain ⟨ls, hls, x, hx⟩ := hrefused a ha l hl hkey
      exact ⟨x, by simp [mem_separated hx hls]⟩
  | @component value field t hf h ih =>
    obtain ⟨text, htext, -⟩ := Outcome.of_bind hcs
    obtain rfl := Except.ok.inj ((sourceChars_component htext field t).symm.trans hcs)
    obtain ⟨ls, hls⟩ := ih hleaves htext
    have hvector : value.valueType.isVectorLike = true := decide_eq_true (List.ne_nil_of_mem hf)
    refine ⟨_, hls.text.component hvector (isName_component hf) t,
      fun hall => (hls.reads hall).component field, fun l hl hkey => ?_⟩
    obtain ⟨x, hx⟩ := hls.refused l hl hkey
    exact ⟨x, by simp [hx]⟩

/-- **The source of an expression of such nodes is a formula exactly if there is room for its
    brackets and no leaf is called by a reserved word**; and then it reads the leaves. -/
theorem Formed.ofText_source {e : Expr} (h : e.Formed)
    (hleaves : ∀ l ∈ e.leaves, Text.isIdentifier l.leafName.toList = true) {out : String}
    (hout : e.source = .ok out) :
    (∀ p, ParsedFormula.ofText out = .ok p → p.formula.reads = e.readNames) ∧
      ((∃ p, ParsedFormula.ofText out = .ok p) ↔
        Room 0 out.toList ∧ ∀ l ∈ e.leaves, isKeyword l.leafName.toList = false) := by
  obtain ⟨cs, hcs, rfl⟩ := Outcome.of_map hout
  obtain ⟨ls, hls⟩ := h.exists_sourceText hleaves hcs
  have hnul : '\x00' ∉ (String.ofList cs).toList := by
    rw [String.toList_ofList]
    exact hls.text.nul_notMem
  -- what the text writes, it writes with the lexemes of the source
  have hwrites {f : Formula} (hf : Writes (.ofList cs) f) : Room 0 cs ∧ ∃ tokens o,
      tokens.map Token.lexeme = ls ∧ Derives .expr tokens o ∧ o.formula = f := by
    obtain ⟨tokens, o, hlex, ho, hformula⟩ := hf
    rw [String.toList_ofList, hls.text.trim_eq] at hlex
    have hroom := hls.text.room_of_lex hlex
    obtain ⟨tokens', hlex', htokens⟩ := hls.text.exists_lex hroom
    obtain rfl := Option.some.inj (hlex.symm.trans hlex')
    exact ⟨hroom, tokens, o, htokens, ho, hformula⟩
  have hkeywords {tokens : List Token} {o : Operand} (htokens : tokens.map Token.lexeme = ls)
      (ho : Derives .expr tokens o) : ∀ l ∈ e.leaves, isKeyword l.leafName.toList = false := by
    intro l hl
    refine Bool.eq_false_iff.2 fun hkey => ?_
    obtain ⟨x, hx⟩ := hls.refused l hl hkey
    obtain ⟨t, ht, hlexeme⟩ := List.mem_map.1 (htokens ▸ hx)
    exact ho.not_other ht x hlexeme
  refine ⟨fun p hp => ?_, fun ⟨p, hp⟩ => ?_, fun ⟨hroom, hall⟩ => ?_⟩
  · obtain ⟨-, tokens, o, htokens, ho, hformula⟩ :=
      hwrites (ParsedFormula.writes_of_ofText hp)
    obtain ⟨o', ho', hreads⟩ := (hls.reads (hkeywords htokens ho)).expr tokens htokens
    rw [← hformula, ho.formula_eq ho', hreads]
  · obtain ⟨hroom, tokens, o, htokens, ho, -⟩ :=
      hwrites (ParsedFormula.writes_of_ofText hp)
    rw [String.toList_ofList]
    exact ⟨hroom, hkeywords htokens ho⟩
  · rw [String.toList_ofList] at hroom
    obtain ⟨tokens, hlex, htokens⟩ := hls.text.exists_lex hroom
    obtain ⟨o, ho, -⟩ := (hls.reads hall).expr tokens htokens
    have hw : Writes (.ofList cs) o.formula := by
      refine ⟨tokens, o, ?_, ho, rfl⟩
      rw [String.toList_ofList, hls.text.trim_eq, hlex]
    obtain ⟨p, hp, -⟩ := ParsedFormula.exists_ofText_of_writes hnul hw
    exact ⟨p, hp⟩

end Expr

end VisualScale
