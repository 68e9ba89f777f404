import VisualScale.Formula.Compile
import VisualScale.Formula.Reader
import VisualScale.Proofs.Compile

/-!
# Reading a formula, piece by piece

The reader takes one word at a time, so what a run comes to can be told from the pieces of its words
(`Leads.append`). Two kinds of pieces occur in the source of an expression:

* pieces that `Reads` takes as one operand, wherever an operand may stand;
* pieces that stand alone in a bracket or as an argument, `Inside`, where operations and signs are
  completed by the bracket or comma behind them.

Both say what the formula that has been read compiles to.
-/

namespace VisualScale

namespace Reader

/-! ## 1. Where words lead -/

/-- From a state, all words with the given lexemes lead to a state of a kind. -/
def Leads (s : State) (ls : List Lexeme) (P : State → Prop) : Prop :=
  ∀ tokens : List Token, tokens.map Token.lexeme = ls → ∃ s', run s tokens = some s' ∧ P s'

variable {s : State} {l : Lexeme} {ls ms : List Lexeme} {P Q : State → Prop}

theorem leads_nil (h : P s) : Leads s [] P := by
  intro tokens ht
  obtain rfl := List.map_eq_nil_iff.mp ht
  exact ⟨s, rfl, h⟩

theorem leads_cons (h : ∀ span, ∃ s', step s ⟨l, span⟩ = some s' ∧ Leads s' ls P) :
    Leads s (l :: ls) P := by
  intro tokens ht
  obtain ⟨t, rest, rfl, hl, hrest⟩ := List.map_eq_cons_iff.mp ht
  obtain ⟨lexeme, span⟩ := t
  obtain rfl : lexeme = l := hl
  obtain ⟨s', hstep, hs'⟩ := h span
  obtain ⟨s'', hrun, hP⟩ := hs' rest hrest
  refine ⟨s'', ?_, hP⟩
  show (step s ⟨lexeme, span⟩).bind (fun s => run s rest) = some s''
  rw [hstep]
  exact hrun

theorem Leads.append (h : Leads s ls P) (h' : ∀ s', P s' → Leads s' ms Q) :
    Leads s (ls ++ ms) Q := by
  intro tokens ht
  obtain ⟨first, second, rfl, hfirst, hsecond⟩ := List.map_eq_append_iff.mp ht
  obtain ⟨s', hrun, hP⟩ := h first hfirst
  obtain ⟨s'', hrun', hQ⟩ := h' s' hP second hsecond
  refine ⟨s'', ?_, hQ⟩
  rw [run_append, hrun]
  exact hrun'

theorem Leads.mono (h : Leads s ls P) (hPQ : ∀ s', P s' → Q s') : Leads s ls Q := by
  intro tokens ht
  obtain ⟨s', hrun, hP⟩ := h tokens ht
  exact ⟨s', hrun, hPQ s' hP⟩

/-! ## 2. Operands and what stands in brackets -/

section

variable (source : String) (env : Environment)

/-- Where an operand may stand, the words are read as one that compiles to an expression. -/
def Reads (ls : List Lexeme) (e : Expr) : Prop :=
  ∀ s : State, s.phase = .operand →
    Leads s ls fun s' => ∃ o, s' = s.put o ∧ o.formula.compile source env = .ok e

/-- Right behind an open bracket or a comma, the words are read as a formula that compiles to an
    expression once it is completed. -/
def Inside (ls : List Lexeme) (e : Expr) : Prop :=
  ∀ outer, Leads ⟨outer, .empty, .operand⟩ ls fun s' => ∃ pending o,
    s' = ⟨outer, pending, .behind o⟩ ∧ (pending.expr o).formula.compile source env = .ok e

end

variable {source : String} {env : Environment} {e e' : Expr}

theorem Reads.inside (h : Reads source env ls e) : Inside source env ls e :=
  fun outer => (h ⟨outer, .empty, .operand⟩ rfl).mono fun _ ⟨o, hs', ho⟩ => ⟨.empty, o, hs', ho⟩

/-- A formula that is one word. -/
theorem reads_leaf (formula : Span → Formula)
    (hstep : ∀ outer pending span, step ⟨outer, pending, .operand⟩ ⟨l, span⟩ =
      some ((⟨outer, pending, .operand⟩ : State).leaf (formula span)))
    (hcompile : ∀ span, (formula span).compile source env = .ok e) : Reads source env [l] e := by
  intro s hs
  obtain ⟨outer, pending, phase⟩ := s
  subst hs
  refine leads_cons fun span => ⟨_, hstep outer pending span, leads_nil ?_⟩
  exact ⟨⟨formula span, (formula span).span⟩, rfl, hcompile span⟩

theorem reads_name {id : String} (h : env.find? id = some e) :
    Reads source env [.name id] e := by
  refine reads_leaf (.name id) (fun _ _ _ => rfl) fun span => ?_
  unfold Formula.compile
  rw [h]

theorem reads_real (d : Double) : Reads source env [.real d] (.number d) :=
  reads_leaf (.real d) (fun _ _ _ => rfl) fun _ => rfl

theorem reads_whole {n : Nat} {d : Double} (h : Build.toDouble (.int n) = .ok d) :
    Reads source env [.whole n] (.number d) := by
  refine reads_leaf (.whole n) (fun _ _ _ => rfl) fun span => ?_
  show Formula.placed source span ((Build.toDouble (.int n)).map _) = _
  rw [h]
  rfl

/-- Brackets make an operand of what stands in them. -/
theorem Inside.grouped (h : Inside source env ls e) :
    Reads source env (.mark .opening :: (ls ++ [.mark .closing])) e := by
  intro s hs
  obtain ⟨outer, pending, phase⟩ := s
  subst hs
  refine leads_cons fun span => ⟨_, rfl, (h _).append ?_⟩
  intro s hs
  obtain ⟨pending', o, rfl, ho⟩ := hs
  exact leads_cons fun span' => ⟨_, rfl, leads_nil ⟨⟨(pending'.expr o).formula, _⟩, rfl, ho⟩⟩

/-- The mark of a sign. -/
def signMark : Sign → Mark
  | .plus => .plus
  | .minus => .minus

/-- A sign before an operand. -/
theorem Reads.signed {sign : Sign} (h : Reads source env ls e)
    (hn : Formula.signNode sign e = .ok e') :
    Inside source env (.mark (signMark sign) :: ls) e' := by
  intro outer
  have hcompile (o : Operand) (p : Position) (ho : o.formula.compile source env = .ok e) :
      (o.signed sign p).formula.compile source env = .ok e' := by
    show (o.formula.compile source env >>= _) = _
    rw [ho]
    show Formula.placed source _ (Formula.signNode sign e) = _
    rw [hn]
    rfl
  refine leads_cons fun span => ⟨(⟨outer, .empty, .operand⟩ : State).sign sign span.start, ?_, ?_⟩
  · cases sign <;> rfl
  · refine (h _ rfl).mono ?_
    intro s hs
    obtain ⟨o, rfl, ho⟩ := hs
    exact ⟨_, o, rfl, hcompile o span.start ho⟩

/-- The mark of an operation. -/
def operatorMark : Operator → Mark
  | .add => .plus
  | .sub => .minus
  | .mul => .times
  | .div => .over

/-- An operation between two operands. -/
theorem Reads.binary {op : Operator} {left right : Expr} (hl : Reads source env ls left)
    (hr : Reads source env ms right) (hn : Build.binaryNode op.symbol left right = .ok e) :
    Inside source env (ls ++ .mark (operatorMark op) :: ms) e := by
  intro outer
  have hcompile (a b : Operand) (ha : a.formula.compile source env = .ok left)
      (hb : b.formula.compile source env = .ok right) :
      ((Waiting.mk a op).complete b).formula.compile source env = .ok e := by
    show (a.formula.compile source env >>= fun l => b.formula.compile source env >>= _) = _
    rw [ha]
    show (b.formula.compile source env >>= _) = _
    rw [hb]
    show Formula.placed source _ (Build.binaryNode op.symbol left right) = _
    rw [hn]
    rfl
  refine (hl _ rfl).append ?_
  intro s hs
  obtain ⟨a, rfl, ha⟩ := hs
  -- a product waits in another place than a sum, but nothing else waits here
  cases op
  all_goals
    refine leads_cons fun span => ⟨_, rfl, (hr _ rfl).mono ?_⟩
    intro s hs
    obtain ⟨b, rfl, hb⟩ := hs
    exact ⟨_, b, rfl, hcompile a b ha hb⟩

/-- A component of an operand. -/
theorem Reads.component {field : String} (h : Reads source env ls e)
    (hn : Formula.componentNode e field = .ok e') :
    Reads source env (ls ++ [.mark .dot, .name field]) e' := by
  intro s hs
  obtain ⟨outer, pending, phase⟩ := s
  subst hs
  refine (h _ rfl).append ?_
  intro s hs
  obtain ⟨o, rfl, ho⟩ := hs
  refine leads_cons fun _ => ⟨_, rfl, leads_cons fun span => ⟨_, rfl, leads_nil ?_⟩⟩
  refine ⟨⟨.component o.formula field ⟨o.extent.start, span.stop⟩, _⟩, rfl, ?_⟩
  show (o.formula.compile source env >>= _) = _
  rw [ho]
  show Formula.placed source _ (Formula.componentNode e field) = _
  rw [hn]
  rfl

/-! ## 3. Calls -/

/-- Lexemes of pieces with commas between the pieces. -/
def separated : List (List Lexeme) → List Lexeme
  | [] => []
  | [ls] => ls
  | ls :: rest => ls ++ .mark .comma :: separated rest

theorem compileAll_concat {fs : List Formula} {f : Formula} {es : List Expr}
    (h : Formula.compileAll source env fs = .ok es) (hf : f.compile source env = .ok e) :
    Formula.compileAll source env (fs ++ [f]) = .ok (es ++ [e]) := by
  induction fs generalizing es with
  | nil =>
    obtain rfl := Except.ok.inj h
    show (f.compile source env >>= _) = _
    rw [hf]
    rfl
  | cons g fs ih =>
    obtain ⟨a, ha, h⟩ := Outcome.of_bind (x := g.compile source env) h
    obtain ⟨as, has, h⟩ := Outcome.of_bind (x := Formula.compileAll source env fs) h
    obtain rfl := Except.ok.inj h
    show (g.compile source env >>= fun e => Formula.compileAll source env (fs ++ [f]) >>= _) = _
    rw [ha, ih has]
    rfl

/-- The arguments of a call, after others. The last one waits for the bracket behind it. -/
theorem leads_arguments {lss : List (List Lexeme)} {es : List Expr}
    (h : List.Forall₂ (Inside source env) (ls :: lss) (e :: es)) (outer : List (Pending × Frame))
    (around : Pending) (function : String) (start : Position) {args : List Formula}
    {done : List Expr} (hargs : Formula.compileAll source env args.reverse = .ok done) :
    Leads ⟨(around, .call function start args) :: outer, .empty, .operand⟩ (separated (ls :: lss))
      fun s' => ∃ args' pending o,
        s' = ⟨(around, .call function start args') :: outer, pending, .behind o⟩ ∧
        Formula.compileAll source env (args'.reverse ++ [(pending.expr o).formula]) =
          .ok (done ++ e :: es) := by
  induction lss generalizing ls e es args done with
  | nil =>
    obtain _ | ⟨hfirst, ⟨⟩⟩ := h
    refine (hfirst _).mono ?_
    intro s hs
    obtain ⟨pending, o, rfl, ho⟩ := hs
    exact ⟨args, pending, o, rfl, compileAll_concat hargs ho⟩
  | cons ms lss ih =>
    obtain _ | ⟨hfirst, hrest⟩ := h
    cases hrest with
    | @cons _ e' _ es hnext hrest =>
      refine (hfirst _).append ?_
      intro s hs
      obtain ⟨pending, o, rfl, ho⟩ := hs
      refine leads_cons fun span => ⟨_, rfl, ?_⟩
      have hdone : Formula.compileAll source env ((pending.expr o).formula :: args).reverse =
          .ok (done ++ [e]) := by
        rw [List.reverse_cons]
        exact compileAll_concat hargs ho
      have := ih (.cons hnext hrest) hdone
      rwa [List.append_assoc] at this

/-- A call of a function. -/
theorem reads_call {function : String} {lss : List (List Lexeme)} {es : List Expr}
    (hne : lss ≠ []) (h : List.Forall₂ (Inside source env) lss es)
    (hn : Build.callNode function es = .ok e) :
    Reads source env
      (.name function :: .mark .opening :: (separated lss ++ [.mark .closing])) e := by
  have hknown : Signature.isKnownFunction function = true := by
    obtain ⟨t, ht, -⟩ := Outcome.of_map hn
    unfold Signature.callType at ht
    unfold Signature.isKnownFunction
    cases hf : Signature.Intrinsic.ofName? function with
    | none => rw [hf] at ht; cases ht
    | some f => rfl
  intro s hs
  obtain ⟨outer, pending, phase⟩ := s
  subst hs
  refine leads_cons fun span => ⟨_, rfl, leads_cons fun _ => ⟨_, rfl, ?_⟩⟩
  cases h with
  | nil => exact absurd rfl hne
  | @cons ls e' lss es hfirst hrest =>
    refine (leads_arguments (.cons hfirst hrest) outer pending function span.start 
      (show Formula.compileAll source env [].reverse = .ok [] from rfl)).append ?_
    intro s hs
    obtain ⟨args', pending', o, rfl, ho⟩ := hs
    refine leads_cons fun span' => ⟨_, rfl, leads_nil ⟨_, rfl, ?_⟩⟩
    show (if Signature.isKnownFunction function then
      Formula.compileAll source env (args'.reverse ++ [(pending'.expr o).formula]) >>= _
      else _) = _
    rw [if_pos hknown, ho]
    show Formula.placed source _ (Build.callNode function (e' :: es)) = _
    rw [hn]
    rfl

end Reader

end VisualScale
