import VisualScale.Proofs.Language.Machine

/-!
# The names in a piece of a source

Which names a text reads can be told from its pieces as well, and without looking at what the names
stand for: `DerivesReading` says that words with some lexemes derive from a symbol of the grammar,
and which names the formula reads that they write. For each kind of node one lemma puts the names
of its operands together. A piece that is read against no names reads none
(`Reader.Reads.derivesReading`).
-/

namespace VisualScale

open Reader

/-- All words with the given lexemes derive from the symbol, and write a formula that reads the
    given names, from left to right. -/
def DerivesReading (symbol : Symbol) (ls : List Lexeme) (names : List String) : Prop :=
  ∀ tokens : List Token, tokens.map Token.lexeme = ls →
    ∃ o, Derives symbol tokens o ∧ o.formula.reads = names

namespace DerivesReading

variable {symbol symbol' : Symbol} {ls ms : List Lexeme} {names names' : List String}

/-! ## 1. Nodes -/

theorem mono (h : DerivesReading symbol ls names)
    (hsymbol : ∀ {ts o}, Derives symbol ts o → Derives symbol' ts o) :
    DerivesReading symbol' ls names := by
  intro tokens ht
  obtain ⟨o, ho, hreads⟩ := h tokens ht
  exact ⟨o, hsymbol ho, hreads⟩

theorem expr (h : DerivesReading .primary ls names) : DerivesReading .expr ls names :=
  h.mono fun ho => .term (.factor (.primary ho))

theorem name (id : String) : DerivesReading .primary [.name id] [id] := by
  intro tokens ht
  obtain ⟨t, rest, rfl, hlexeme, hrest⟩ := List.map_eq_cons_iff.1 ht
  obtain rfl := List.map_eq_nil_iff.1 hrest
  exact ⟨_, .atom (.name hlexeme), rfl⟩

theorem grouped (h : DerivesReading .expr ls names) :
    DerivesReading .primary (.mark .opening :: (ls ++ [.mark .closing])) names := by
  intro tokens ht
  obtain ⟨opening, rest, rfl, hopening, hrest⟩ := List.map_eq_cons_iff.1 ht
  obtain ⟨inner, last, rfl, hinner, hlast⟩ := List.map_eq_append_iff.1 hrest
  obtain ⟨closing, none, rfl, hclosing, hnone⟩ := List.map_eq_cons_iff.1 hlast
  obtain rfl := List.map_eq_nil_iff.1 hnone
  obtain ⟨o, ho, hreads⟩ := h inner hinner
  exact ⟨_, .atom (.group hopening ho hclosing), hreads⟩

theorem signed (h : DerivesReading .primary ls names) (sign : Sign) :
    DerivesReading .expr (.mark (signMark sign) :: ls) names := by
  intro tokens ht
  obtain ⟨t, rest, rfl, hsign, hrest⟩ := List.map_eq_cons_iff.1 ht
  obtain ⟨o, ho, hreads⟩ := h rest hrest
  exact ⟨_, .term (.factor (.signed hsign (.primary ho))), hreads⟩

theorem binary (hl : DerivesReading .primary ls names) (hr : DerivesReading .primary ms names')
    (op : Operator) :
    DerivesReading .expr (ls ++ .mark (operatorMark op) :: ms) (names ++ names') := by
  intro tokens ht
  obtain ⟨left, rest, rfl, hleft, hrest⟩ := List.map_eq_append_iff.1 ht
  obtain ⟨t, right, rfl, hop, hright⟩ := List.map_eq_cons_iff.1 hrest
  obtain ⟨l, hl, hreads⟩ := hl left hleft
  obtain ⟨r, hr, hreads'⟩ := hr right hright
  refine ⟨(Waiting.mk l op).complete r, ?_, ?_⟩
  · cases op with
    | add | sub =>
      exact .sum (by decide) (.term (.factor (.primary hl))) hop (.factor (.primary hr))
    | mul | div =>
      exact .term (.product (by decide) (.factor (.primary hl)) hop (.primary hr))
  · show l.formula.reads ++ r.formula.reads = _
    rw [hreads, hreads']

theorem component (h : DerivesReading .primary ls names) (field : String) :
    DerivesReading .primary (ls ++ [.mark .dot, .name field]) names := by
  intro tokens ht
  obtain ⟨inner, rest, rfl, hinner, hrest⟩ := List.map_eq_append_iff.1 ht
  obtain ⟨dot, rest, rfl, hdot, hrest⟩ := List.map_eq_cons_iff.1 hrest
  obtain ⟨t, none, rfl, hfield, hnone⟩ := List.map_eq_cons_iff.1 hrest
  obtain rfl := List.map_eq_nil_iff.1 hnone
  obtain ⟨o, ho, hreads⟩ := h inner hinner
  exact ⟨_, .component ho hdot hfield, hreads⟩

/-! ## 2. Calls -/

/-- Arguments with commas between them. -/
theorem exists_arguments {lss : List (List Lexeme)} {namess : List (List String)}
    (h : List.Forall₂ (DerivesReading .expr) lss namess) {tokens : List Token}
    (ht : tokens.map Token.lexeme = separated lss) :
    ∃ args : List (List Token × Operand), (∀ a ∈ args, Derives .expr a.1 a.2) ∧
      Listed (args.map Prod.fst) tokens ∧
      Formula.readsOfAll (args.map fun a => a.2.formula) = namess.flatten := by
  induction h generalizing tokens with
  | nil =>
    obtain rfl := List.map_eq_nil_iff.1 ht
    exact ⟨[], fun _ ha => absurd ha List.not_mem_nil, .nil, rfl⟩
  | @cons ls names lss namess hfirst hrest ih =>
    cases hrest with
    | nil =>
      obtain ⟨o, ho, hreads⟩ := hfirst tokens ht
      refine ⟨[(tokens, o)], fun a ha => List.mem_singleton.1 ha ▸ ho, .last tokens, ?_⟩
      simp [Formula.readsOfAll, hreads]
    | cons hnext hrest =>
      obtain ⟨first, behind, rfl, hfirstTokens, hbehind⟩ := List.map_eq_append_iff.1 ht
      obtain ⟨comma, rest, rfl, hcomma, hrestTokens⟩ := List.map_eq_cons_iff.1 hbehind
      obtain ⟨o, ho, hreads⟩ := hfirst first hfirstTokens
      obtain ⟨args, hargs, hlisted, hnames⟩ := ih hrestTokens
      refine ⟨(first, o) :: args, List.forall_mem_cons.2 ⟨ho, hargs⟩, .cons hcomma hlisted, ?_⟩
      show o.formula.reads ++ Formula.readsOfAll (args.map fun a => a.2.formula) = _
      rw [hreads, hnames]
      rfl

theorem call {lss : List (List Lexeme)} {namess : List (List String)} (function : String)
    (h : List.Forall₂ (DerivesReading .expr) lss namess) :
    DerivesReading .primary
      (.name function :: .mark .opening :: (separated lss ++ [.mark .closing]))
      namess.flatten := by
  intro tokens ht
  obtain ⟨t, rest, rfl, hname, hrest⟩ := List.map_eq_cons_iff.1 ht
  obtain ⟨opening, rest, rfl, hopening, hrest⟩ := List.map_eq_cons_iff.1 hrest
  obtain ⟨inner, last, rfl, hinner, hlast⟩ := List.map_eq_append_iff.1 hrest
  obtain ⟨closing, none, rfl, hclosing, hnone⟩ := List.map_eq_cons_iff.1 hlast
  obtain rfl := List.map_eq_nil_iff.1 hnone
  obtain ⟨args, hargs, hlisted, hnames⟩ := exists_arguments h hinner
  exact ⟨_, .call (.calleeName hname) hopening hargs hlisted hclosing, hnames⟩

end DerivesReading

/-! ## 3. No names -/

/-- A piece that is read where no name stands for anything reads no names. -/
theorem Reader.Reads.derivesReading {source : String} {ls : List Lexeme} {e : Expr}
    (h : Reads source [] ls e) : DerivesReading .primary ls [] := by
  intro tokens ht
  obtain ⟨s, hrun, o, rfl, ho⟩ := h .start rfl tokens ht
  have hbound := Formula.isSome_of_compile o.formula ho
  have hnone : o.formula.reads = [] :=
    List.eq_nil_iff_forall_not_mem.2 fun n hn => nomatch hbound n hn
  have hcovers := covers_start.run hrun
  generalize htokens : [] ++ tokens = ts at hcovers
  obtain @⟨_, _, _, as, bs, cs, houter, hpending, hphase⟩ := hcovers
  cases houter
  obtain rfl := hpending.eq_nil_of_isEmpty rfl
  obtain rfl : tokens = cs := htokens
  cases hphase with
  | behind hd => exact ⟨o, hd, hnone⟩

end VisualScale
