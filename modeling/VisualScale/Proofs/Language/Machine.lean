import VisualScale.Proofs.Language.Derivation

/-!
# The machine reads what the grammar derives

The machine that reads formulas takes one word at a time, and the grammar derives whole words from
symbols. Both have the same formulas:

* words that derive are read to the end, from every state in which the symbol may begin
  (`Derives.readAs`): each symbol leaves behind what it may leave;
* whatever the machine has taken is made of pieces that derive (`Covers`), and one more word keeps
  this (`Covers.step`), so at the end the words derive a formula (`Covers.finish`).

`Formula.read_eq_some_iff` states both at once.
-/

namespace VisualScale

open Reader

/-! ## 1. What derives is read -/

/-- The machine reads words as an operand of a symbol. An expression or a term may leave operations
    and signs behind that wait for what stands at its end; completed, they make the operand. -/
def ReadAs : Symbol → List Token → Operand → Prop
  | .expr, ts, o => ∀ outer, ∃ p last,
      run ⟨outer, .empty, .operand⟩ ts = some ⟨outer, p, .behind last⟩ ∧ p.expr last = o
  | .term, ts, o => ∀ outer sum, ∃ product signs last,
      run ⟨outer, ⟨sum, none, []⟩, .operand⟩ ts =
        some ⟨outer, ⟨sum, product, signs⟩, .behind last⟩ ∧
      Pending.term ⟨sum, product, signs⟩ last = o
  | .factor, ts, o => ∀ outer sum product signs, ∃ added last,
      run ⟨outer, ⟨sum, product, signs⟩, .operand⟩ ts =
        some ⟨outer, ⟨sum, product, added ++ signs⟩, .behind last⟩ ∧
      Pending.factor ⟨sum, product, added⟩ last = o
  | .primary, ts, o | .callee, ts, o | .atom, ts, o => ∀ outer p,
      run ⟨outer, p, .operand⟩ ts = some ⟨outer, p, .behind o⟩

section

variable {ts us : List Token} {o l r : Operand} {t : Token} {outer : List (Pending × Frame)}

/-- Words after words that have led to a state. -/
theorem run_append_of {s s' : State} (h : run s ts = some s') : run s (ts ++ us) = run s' us := by
  rw [run_append, h]
  rfl

theorem run_cons_of {s s' : State} (h : step s t = some s') : run s (t :: ts) = run s' ts := by
  show (step s t).bind (fun s => run s ts) = _
  rw [h]
  rfl

theorem run_singleton_of {s s' : State} (h : step s t = some s') : run s [t] = some s' :=
  run_cons_of h

/-- A word is one that fits if its lexeme does. -/
theorem step_of_lexeme {s : State} {x : Lexeme} (ht : t.lexeme = x) :
    step s t = step s ⟨x, t.span⟩ := by
  rw [← ht]

theorem readAs_term (h : ReadAs .factor ts o) : ReadAs .term ts o := by
  intro outer sum
  obtain ⟨added, last, hrun, hlast⟩ := h outer sum none []
  rw [List.append_nil] at hrun
  exact ⟨none, added, last, hrun, hlast⟩

theorem readAs_expr (h : ReadAs .term ts o) : ReadAs .expr ts o := by
  intro outer
  obtain ⟨product, signs, last, hrun, hlast⟩ := h outer none
  exact ⟨_, last, hrun, hlast⟩

theorem readAs_factor (h : ReadAs .primary ts o) : ReadAs .factor ts o :=
  fun outer sum product signs => ⟨[], o, h outer ⟨sum, product, signs⟩, rfl⟩

theorem readAs_sum {op : Operator} (hop : op = .add ∨ op = .sub) (hl : ReadAs .expr ts l)
    (ht : t.lexeme = .mark (operatorMark op)) (hr : ReadAs .term us r) :
    ReadAs .expr (ts ++ t :: us) ((Waiting.mk l op).complete r) := by
  intro outer
  obtain ⟨p, last, hrun, rfl⟩ := hl outer
  obtain ⟨product, signs, last', hrun', rfl⟩ := hr outer (some ⟨p.expr last, op⟩)
  have hstep : step ⟨outer, p, .behind last⟩ t =
      some ⟨outer, ⟨some ⟨p.expr last, op⟩, none, []⟩, .operand⟩ := by
    rw [step_of_lexeme ht]
    rcases hop with rfl | rfl <;> rfl
  refine ⟨⟨some ⟨p.expr last, op⟩, product, signs⟩, last', ?_, rfl⟩
  rw [run_append_of hrun, run_cons_of hstep]
  exact hrun'

theorem readAs_product {op : Operator} (hop : op = .mul ∨ op = .div) (hl : ReadAs .term ts l)
    (ht : t.lexeme = .mark (operatorMark op)) (hr : ReadAs .factor us r) :
    ReadAs .term (ts ++ t :: us) ((Waiting.mk l op).complete r) := by
  intro outer sum
  obtain ⟨product, signs, last, hrun, rfl⟩ := hl outer sum
  let left := Pending.term ⟨sum, product, signs⟩ last
  obtain ⟨added, last', hrun', rfl⟩ := hr outer sum (some ⟨left, op⟩) []
  have hstep : step ⟨outer, ⟨sum, product, signs⟩, .behind last⟩ t =
      some ⟨outer, ⟨sum, some ⟨left, op⟩, []⟩, .operand⟩ := by
    rw [step_of_lexeme ht]
    rcases hop with rfl | rfl <;> rfl
  refine ⟨some ⟨left, op⟩, added, last', ?_, rfl⟩
  rw [run_append_of hrun, run_cons_of hstep, hrun', List.append_nil]

theorem readAs_signed {sign : Sign} (ht : t.lexeme = .mark (signMark sign))
    (h : ReadAs .factor ts o) : ReadAs .factor (t :: ts) (o.signed sign t.span.start) := by
  intro outer sum product signs
  obtain ⟨added, last, hrun, rfl⟩ := h outer sum product ((sign, t.span.start) :: signs)
  have hstep : step ⟨outer, ⟨sum, product, signs⟩, .operand⟩ t =
      some ⟨outer, ⟨sum, product, (sign, t.span.start) :: signs⟩, .operand⟩ := by
    rw [step_of_lexeme ht]
    cases sign <;> rfl
  refine ⟨added ++ [(sign, t.span.start)], last, ?_, ?_⟩
  · rw [run_cons_of hstep, hrun, List.append_assoc]
    rfl
  · exact List.foldl_append

theorem readAs_component {dot : Token} {field : String} (h : ReadAs .primary ts o)
    (hdot : dot.lexeme = .mark .dot) (ht : t.lexeme = .name field) :
    ReadAs .primary (ts ++ [dot, t]) (o.component field t.span.stop) := by
  intro outer p
  have hstep : step ⟨outer, p, .behind o⟩ dot = some ⟨outer, p, .field o⟩ := by
    rw [step_of_lexeme hdot]
    rfl
  have hstep' : step ⟨outer, p, .field o⟩ t =
      some ⟨outer, p, .behind (o.component field t.span.stop)⟩ := by
    rw [step_of_lexeme ht]
    rfl
  rw [run_append_of (h outer p), run_cons_of hstep]
  exact run_singleton_of hstep'

/-- Words in brackets, where they are read as an expression by themselves. -/
theorem readAs_group {opening closing : Token} (hopening : opening.lexeme = .mark .opening)
    (h : ReadAs .expr ts o) (hclosing : closing.lexeme = .mark .closing) :
    ReadAs .atom (opening :: (ts ++ [closing])) (o.grouped opening closing) := by
  intro outer p
  obtain ⟨inner, last, hrun, rfl⟩ := h ((p, .group opening.span.start) :: outer)
  have hstep : step ⟨outer, p, .operand⟩ opening =
      some ⟨(p, .group opening.span.start) :: outer, .empty, .operand⟩ := by
    rw [step_of_lexeme hopening]
    rfl
  rw [run_cons_of hstep, run_append_of hrun]
  refine run_singleton_of ?_
  rw [step_of_lexeme hclosing]
  rfl

theorem readAs_word {symbol : Symbol} (hsymbol : symbol = .atom ∨ symbol = .callee)
    {formula : Formula}
    (hstep : ∀ outer p, step ⟨outer, p, .operand⟩ t = some ⟨outer, p, .behind (.word formula)⟩) :
    ReadAs symbol [t] (.word formula) := by
  rcases hsymbol with rfl | rfl
  · exact fun outer p => run_singleton_of (hstep outer p)
  · exact fun outer p => run_singleton_of (hstep outer p)

/-- The arguments of a call, behind others, and the bracket behind them. -/
theorem run_arguments {args : List (List Token × Operand)} {function : String} {start : Position}
    {closing : Token} {p : Pending} (hargs : ∀ a ∈ args, ReadAs .expr a.1 a.2)
    (hlisted : Listed (args.map Prod.fst) us) (hclosing : closing.lexeme = .mark .closing)
    (done : List Formula) :
    run ⟨(p, .call function start done) :: outer, .empty, .operand⟩ (us ++ [closing]) =
      some ⟨outer, p, .behind (callOperand function
        (done.reverse ++ args.map fun a => a.2.formula) start closing.span.stop)⟩ := by
  generalize hpieces : args.map Prod.fst = pieces at hlisted
  induction hlisted generalizing args done with
  | nil =>
    obtain rfl := List.map_eq_nil_iff.1 hpieces
    refine run_singleton_of ?_
    rw [step_of_lexeme hclosing, List.map_nil, List.append_nil]
    rfl
  | last ts =>
    obtain ⟨a, rfl, rfl⟩ := List.map_eq_singleton_iff.1 hpieces
    obtain ⟨inner, last, hrun, hlast⟩ := hargs a List.mem_cons_self _
    rw [run_append_of hrun]
    refine run_singleton_of ?_
    rw [step_of_lexeme hclosing, List.map_singleton, ← hlast]
    rfl
  | @cons ts us pieces comma hcomma _ ih =>
    obtain ⟨a, rest, rfl, rfl, hrest⟩ := List.map_eq_cons_iff.1 hpieces
    obtain ⟨hfirst, hothers⟩ := List.forall_mem_cons.1 hargs
    obtain ⟨inner, last, hrun, hlast⟩ := hfirst ((p, .call function start done) :: outer)
    have hstep : step ⟨(p, .call function start done) :: outer, inner, .behind last⟩ comma =
        some ⟨(p, .call function start (a.2.formula :: done)) :: outer, .empty, .operand⟩ := by
      rw [step_of_lexeme hcomma, ← hlast]
      rfl
    rw [List.append_assoc, run_append_of hrun, List.cons_append, run_cons_of hstep,
      ih hothers (a.2.formula :: done) hrest, List.reverse_cons, List.append_assoc, List.map_cons]
    rfl

theorem readAs_call {function : String} {span extent : Span} {opening closing : Token}
    {args : List (List Token × Operand)}
    (hcallee : ReadAs .callee ts ⟨.name function span, extent⟩)
    (hopening : opening.lexeme = .mark .opening) (hargs : ∀ a ∈ args, ReadAs .expr a.1 a.2)
    (hlisted : Listed (args.map Prod.fst) us) (hclosing : closing.lexeme = .mark .closing) :
    ReadAs .primary (ts ++ opening :: (us ++ [closing]))
      (callOperand function (args.map fun a => a.2.formula) extent.start closing.span.stop) := by
  intro outer p
  have hstep : step ⟨outer, p, .behind ⟨.name function span, extent⟩⟩ opening =
      some ⟨(p, .call function extent.start []) :: outer, .empty, .operand⟩ := by
    rw [step_of_lexeme hopening]
    rfl
  rw [run_append_of (hcallee outer p), run_cons_of hstep]
  exact run_arguments hargs hlisted hclosing []

/-- **Words that derive are read.** -/
theorem Derives.readAs {symbol : Symbol} (h : Derives symbol ts o) : ReadAs symbol ts o := by
  induction h with
  | term _ ih => exact readAs_expr ih
  | sum hop _ ht _ ihl ihr => exact readAs_sum hop ihl ht ihr
  | factor _ ih => exact readAs_term ih
  | product hop _ ht _ ihl ihr => exact readAs_product hop ihl ht ihr
  | primary _ ih => exact readAs_factor ih
  | signed ht _ ih => exact readAs_signed ht ih
  | atom _ ih => exact ih
  | component _ hdot ht ih => exact readAs_component ih hdot ht
  | call _ hopening _ hlisted hclosing ih ihargs =>
    exact readAs_call ih hopening ihargs hlisted hclosing
  | calleeName ht =>
    exact readAs_word (.inr rfl) fun _ _ => (step_of_lexeme ht).trans rfl
  | calleeGroup hopening _ hclosing ih =>
    exact readAs_group hopening (readAs_expr (readAs_term (readAs_factor ih))) hclosing
  | whole ht | real ht | name ht =>
    exact readAs_word (.inl rfl) fun _ _ => (step_of_lexeme ht).trans rfl
  | group hopening _ hclosing ih => exact readAs_group hopening ih hclosing

end

/-! ## 2. What the machine has taken -/

/-- Words of an operation that waits for its right operand. -/
inductive WaitingCovers (symbol : Symbol) (P : Operator → Prop) :
    Option Waiting → List Token → Prop where
  | none : WaitingCovers symbol P none []
  | some {ts : List Token} {l : Operand} {t : Token} {op : Operator} (hop : P op)
      (h : Derives symbol ts l) (ht : t.lexeme = .mark (operatorMark op)) :
      WaitingCovers symbol P (some ⟨l, op⟩) (ts ++ [t])

/-- Words that are signs, the last one first. -/
inductive SignsCover : List (Sign × Position) → List Token → Prop where
  | nil : SignsCover [] []
  | cons {signs : List (Sign × Position)} {ts : List Token} {sign : Sign} {t : Token}
      (ht : t.lexeme = .mark (signMark sign)) (h : SignsCover signs ts) :
      SignsCover ((sign, t.span.start) :: signs) (ts ++ [t])

/-- Words of what waits inside one bracket. -/
inductive PendingCovers : Pending → List Token → Prop where
  | mk {sum product : Option Waiting} {signs : List (Sign × Position)} {as bs cs : List Token}
      (hsum : WaitingCovers .expr (fun op => op = .add ∨ op = .sub) sum as)
      (hproduct : WaitingCovers .term (fun op => op = .mul ∨ op = .div) product bs)
      (hsigns : SignsCover signs cs) : PendingCovers ⟨sum, product, signs⟩ (as ++ (bs ++ cs))

/-- Words of an open bracket and of what has been completed in it. -/
inductive FrameCovers : Frame → List Token → Prop where
  | group {opening : Token} (hopening : opening.lexeme = .mark .opening) :
      FrameCovers (.group opening.span.start) [opening]
  | call {ts us : List Token} {function : String} {span extent : Span} {opening : Token}
      {args : List (List Token × Operand)}
      (hcallee : Derives .callee ts ⟨.name function span, extent⟩)
      (hopening : opening.lexeme = .mark .opening) (hargs : ∀ a ∈ args, Derives .expr a.1 a.2)
      (hended : CommaEnded (args.map Prod.fst) us) :
      FrameCovers (.call function extent.start (args.map fun a => a.2.formula).reverse)
        (ts ++ opening :: us)

/-- Words of all open brackets, the innermost one last. -/
inductive OuterCovers : List (Pending × Frame) → List Token → Prop where
  | nil : OuterCovers [] []
  | cons {outer : List (Pending × Frame)} {around : Pending} {frame : Frame}
      {as bs cs : List Token} (h : OuterCovers outer as) (hp : PendingCovers around bs)
      (hf : FrameCovers frame cs) : OuterCovers ((around, frame) :: outer) (as ++ (bs ++ cs))

/-- Words behind what waits. -/
inductive PhaseCovers : Phase → List Token → Prop where
  | operand : PhaseCovers .operand []
  | behind {ts : List Token} {o : Operand} (h : Derives .primary ts o) : PhaseCovers (.behind o) ts
  | field {ts : List Token} {o : Operand} {dot : Token} (h : Derives .primary ts o)
      (hdot : dot.lexeme = .mark .dot) : PhaseCovers (.field o) (ts ++ [dot])

/-- The words that have led to a state. -/
inductive Covers : State → List Token → Prop where
  | mk {outer : List (Pending × Frame)} {pending : Pending} {phase : Phase} {as bs cs : List Token}
      (ho : OuterCovers outer as) (hp : PendingCovers pending bs) (hphase : PhaseCovers phase cs) :
      Covers ⟨outer, pending, phase⟩ (as ++ (bs ++ cs))

section

variable {ts us : List Token} {o : Operand} {t : Token} {p : Pending}

theorem pendingCovers_empty : PendingCovers .empty [] := .mk .none .none .nil

theorem PendingCovers.eq_nil_of_isEmpty (h : PendingCovers p ts) (hp : p.isEmpty = true) :
    ts = [] := by
  obtain ⟨hsum, hproduct, hsigns⟩ := h
  cases hsum with
  | some => cases hp
  | none =>
    cases hproduct with
    | some => cases hp
    | none =>
      cases hsigns with
      | cons => cases hp
      | nil => rfl

/-! ## 3. What waits is completed -/

theorem SignsCover.factor {signs : List (Sign × Position)} (h : SignsCover signs ts)
    (hd : Derives .factor us o) :
    Derives .factor (ts ++ us) (signs.foldl (fun o (sign, start) => o.signed sign start) o) := by
  induction h generalizing us o with
  | nil => exact hd
  | cons ht _ ih =>
    rw [List.append_assoc]
    exact ih (.signed ht hd)

theorem SignsCover.term {product : Option Waiting} {signs : List (Sign × Position)}
    {bs : List Token} (h : SignsCover signs ts)
    (hproduct : WaitingCovers .term (fun op => op = .mul ∨ op = .div) product bs)
    (sum : Option Waiting) (hd : Derives .primary us o) :
    Derives .term (bs ++ (ts ++ us)) (Pending.term ⟨sum, product, signs⟩ o) := by
  have hfactor := h.factor (.primary hd)
  cases hproduct with
  | none => exact .factor hfactor
  | some hop hl ht =>
    rw [List.append_assoc]
    exact .product hop hl ht hfactor

theorem PendingCovers.expr (h : PendingCovers p ts) (hd : Derives .primary us o) :
    Derives .expr (ts ++ us) (p.expr o) := by
  obtain @⟨sum, product, signs, as, bs, cs, hsum, hproduct, hsigns⟩ := h
  have hterm := hsigns.term hproduct sum hd
  rw [List.append_assoc, List.append_assoc]
  cases hsum with
  | none => exact .term hterm
  | some hop hl ht =>
    rw [List.append_assoc]
    exact .sum hop hl ht hterm

/-! ## 4. One more word -/

variable {s s' : State} {outer : List (Pending × Frame)} {as bs cs : List Token} {op : Operator}

theorem Covers.congr (h : Covers s ts) (hts : ts = us) : Covers s us := hts ▸ h

theorem covers_additive (ho : OuterCovers outer as) (hp : PendingCovers p bs)
    (hd : Derives .primary cs o) (hop : op = .add ∨ op = .sub)
    (ht : t.lexeme = .mark (operatorMark op)) :
    Covers ((⟨outer, p, .behind o⟩ : State).additive o op) (as ++ (bs ++ cs) ++ [t]) := by
  have hwaits : PendingCovers ⟨some ⟨p.expr o, op⟩, none, []⟩ (bs ++ cs ++ [t] ++ ([] ++ [])) :=
    .mk (.some hop (hp.expr hd) ht) .none .nil
  exact (Covers.mk ho hwaits .operand).congr (by simp)

theorem covers_multiplicative (ho : OuterCovers outer as) (hp : PendingCovers p bs)
    (hd : Derives .primary cs o) (hop : op = .mul ∨ op = .div)
    (ht : t.lexeme = .mark (operatorMark op)) :
    Covers ((⟨outer, p, .behind o⟩ : State).multiplicative o op) (as ++ (bs ++ cs) ++ [t]) := by
  obtain @⟨sum, product, signs, as, bs, cs, hsum, hproduct, hsigns⟩ := hp
  have hterm := hsigns.term hproduct sum hd
  have hwaits := PendingCovers.mk hsum (.some hop hterm ht) .nil
  exact (Covers.mk ho hwaits .operand).congr (by simp)

theorem covers_sign {sign : Sign} (ho : OuterCovers outer as) (hp : PendingCovers p bs)
    (ht : t.lexeme = .mark (signMark sign)) :
    Covers ((⟨outer, p, .operand⟩ : State).sign sign t.span.start) (as ++ (bs ++ []) ++ [t]) := by
  obtain ⟨hsum, hproduct, hsigns⟩ := hp
  have hwaits := PendingCovers.mk hsum hproduct (.cons ht hsigns)
  exact (Covers.mk ho hwaits .operand).congr (by simp)

/-- A comma completes an argument. -/
theorem covers_argument (ho : OuterCovers outer as) (hp : PendingCovers p bs)
    (hd : Derives .primary cs o) (ht : t.lexeme = .mark .comma)
    (h : (⟨outer, p, .behind o⟩ : State).argument? o = some s') :
    Covers s' (as ++ (bs ++ cs) ++ [t]) := by
  cases ho with
  | nil => cases h
  | @cons outer around frame xs ys zs ho haround hframe =>
    cases hframe with
    | group => cases h
    | @call ts us function span extent opening args hcallee hopening hargs hended =>
      obtain rfl := Option.some.inj h
      let arg : List Token × Operand := (bs ++ cs, p.expr o)
      have hargs' : ∀ a ∈ args ++ [arg], Derives .expr a.1 a.2 :=
        List.forall_mem_append.2 ⟨hargs, List.forall_mem_singleton.2 (hp.expr hd)⟩
      have hended' : CommaEnded ((args ++ [arg]).map Prod.fst) (us ++ (bs ++ cs ++ [t])) := by
        rw [List.map_append]
        exact hended.append (.cons ht .nil)
      have hframe := FrameCovers.call hcallee hopening hargs' hended'
      rw [List.map_append, List.reverse_append] at hframe
      exact (Covers.mk (.cons ho haround hframe) pendingCovers_empty .operand).congr (by simp)

/-- A bracket closes behind an operand. -/
theorem covers_closeBehind (ho : OuterCovers outer as) (hp : PendingCovers p bs)
    (hd : Derives .primary cs o) (ht : t.lexeme = .mark .closing)
    (h : (⟨outer, p, .behind o⟩ : State).closeBehind? o t.span.stop = some s') :
    Covers s' (as ++ (bs ++ cs) ++ [t]) := by
  have hlast := hp.expr hd
  cases ho with
  | nil => cases h
  | @cons outer around frame xs ys zs ho haround hframe =>
    cases hframe with
    | @group opening hopening =>
      obtain rfl := Option.some.inj h
      have hgroup : Derives .primary _ _ := .atom (.group hopening hlast ht)
      exact (Covers.mk ho haround (.behind hgroup)).congr (by simp)
    | @call ts us function span extent opening args hcallee hopening hargs hended =>
      obtain rfl := Option.some.inj h
      let arg : List Token × Operand := (bs ++ cs, p.expr o)
      have hargs' : ∀ a ∈ args ++ [arg], Derives .expr a.1 a.2 :=
        List.forall_mem_append.2 ⟨hargs, List.forall_mem_singleton.2 hlast⟩
      have hlisted : Listed ((args ++ [arg]).map Prod.fst) (us ++ (bs ++ cs)) := by
        rw [List.map_append]
        exact hended.listed (.last (bs ++ cs))
      have hcall := Derives.call hcallee hopening hargs' hlisted ht
      rw [List.map_append] at hcall
      have hphase : PhaseCovers (.behind (callOperand function
          ((args.map fun a => a.2.formula).reverse.reverse ++ [(p.expr o).formula]) extent.start
          t.span.stop)) _ := .behind (by rw [List.reverse_reverse]; exact hcall)
      exact (Covers.mk ho haround hphase).congr (by simp)

/-- A bracket closes behind an open bracket or a comma. -/
theorem covers_closeBare (ho : OuterCovers outer as) (hp : PendingCovers p bs)
    (ht : t.lexeme = .mark .closing)
    (h : (⟨outer, p, .operand⟩ : State).closeBare? t.span.stop = some s') :
    Covers s' (as ++ (bs ++ []) ++ [t]) := by
  cases ho with
  | nil => cases h
  | @cons outer around frame xs ys zs ho haround hframe =>
    cases hframe with
    | group => cases h
    | @call ts us function span extent opening args hcallee hopening hargs hended =>
      unfold State.closeBare? at h
      dsimp only at h
      split at h
      · next hempty =>
        obtain rfl := hp.eq_nil_of_isEmpty hempty
        obtain rfl := Option.some.inj h
        have hlisted := hended.listed .nil
        rw [List.append_nil] at hlisted
        have hcall := Derives.call hcallee hopening hargs hlisted ht
        have hphase : PhaseCovers (.behind (callOperand function
            (args.map fun a => a.2.formula).reverse.reverse extent.start t.span.stop)) _ :=
          .behind (by rw [List.reverse_reverse]; exact hcall)
        exact (Covers.mk ho haround hphase).congr (by simp)
      · cases h

/-- A bracket opens where an operand may stand. -/
theorem covers_group (ho : OuterCovers outer as) (hp : PendingCovers p bs)
    (ht : t.lexeme = .mark .opening) :
    Covers ((⟨outer, p, .operand⟩ : State).push (.group t.span.start)) (as ++ (bs ++ []) ++ [t]) :=
  (Covers.mk (.cons ho hp (.group ht)) pendingCovers_empty .operand).congr (by simp)

/-- A bracket opens behind a name. -/
theorem covers_call (ho : OuterCovers outer as) (hp : PendingCovers p bs)
    (hd : Derives .primary cs o) (ht : t.lexeme = .mark .opening)
    (h : (⟨outer, p, .behind o⟩ : State).call? o = some s') :
    Covers s' (as ++ (bs ++ cs) ++ [t]) := by
  unfold State.call? at h
  split at h
  · next function span hname =>
    obtain rfl := Option.some.inj h
    obtain ⟨formula, extent⟩ := o
    obtain rfl : formula = .name function span := hname
    have hcallee : Derives .callee cs ⟨.name function span, extent⟩ := hd.callee_of_name rfl
    have hframe : FrameCovers (.call function extent.start []) (cs ++ t :: []) := by
      have hnone : ∀ a ∈ ([] : List (List Token × Operand)), Derives .expr a.1 a.2 :=
        fun a ha => absurd ha List.not_mem_nil
      exact FrameCovers.call hcallee ht hnone .nil
    exact (Covers.mk (.cons ho hp hframe) pendingCovers_empty .operand).congr (by simp)
  · cases h

/-- **What the machine has taken is made of pieces that derive, and one more word keeps this.** -/
theorem Covers.step (h : Covers s ts) (hs : Reader.step s t = some s') : Covers s' (ts ++ [t]) := by
  obtain @⟨outer, p, phase, as, bs, cs, ho, hp, hphase⟩ := h
  obtain ⟨lexeme, span⟩ := t
  cases hphase with
  | operand =>
    have hleaf {formula : Formula}
        (h : Derives .atom [⟨lexeme, span⟩] (.word formula)) :
        Covers ⟨outer, p, .behind (.word formula)⟩ (as ++ (bs ++ []) ++ [⟨lexeme, span⟩]) :=
      (Covers.mk ho hp (.behind (.atom h))).congr (by simp)
    cases lexeme with
    | whole n => exact Option.some.inj hs ▸ hleaf (.whole rfl)
    | real d => exact Option.some.inj hs ▸ hleaf (.real rfl)
    | name id => exact Option.some.inj hs ▸ hleaf (.name rfl)
    | other => cases hs
    | mark m =>
      cases m with
      | plus => exact Option.some.inj hs ▸ covers_sign (t := ⟨.mark .plus, span⟩) ho hp rfl
      | minus => exact Option.some.inj hs ▸ covers_sign (t := ⟨.mark .minus, span⟩) ho hp rfl
      | opening =>
        exact Option.some.inj hs ▸ covers_group (t := ⟨.mark .opening, span⟩) ho hp rfl
      | closing => exact covers_closeBare ho hp rfl hs
      | times | «over» | dot | comma => cases hs
  | @behind cs o hd =>
    cases lexeme with
    | whole | real | name | other => cases hs
    | mark m =>
      cases m with
      | plus => exact Option.some.inj hs ▸ covers_additive ho hp hd (.inl rfl) rfl
      | minus => exact Option.some.inj hs ▸ covers_additive ho hp hd (.inr rfl) rfl
      | times => exact Option.some.inj hs ▸ covers_multiplicative ho hp hd (.inl rfl) rfl
      | «over» => exact Option.some.inj hs ▸ covers_multiplicative ho hp hd (.inr rfl) rfl
      | dot =>
        obtain rfl := Option.some.inj hs
        have hphase : PhaseCovers (.field o) (cs ++ [⟨.mark .dot, span⟩]) := .field hd rfl
        exact (Covers.mk ho hp hphase).congr (by simp)
      | comma => exact covers_argument ho hp hd rfl hs
      | opening => exact covers_call ho hp hd rfl hs
      | closing => exact covers_closeBehind ho hp hd rfl hs
  | @field cs o dot hd hdot =>
    cases lexeme with
    | whole | real | mark | other => cases hs
    | name id =>
      obtain rfl := Option.some.inj hs
      have hphase := PhaseCovers.behind (hd.component hdot (t := ⟨.name id, span⟩) rfl)
      exact (Covers.mk ho hp hphase).congr (by simp)

theorem Covers.run (h : Covers s ts) (hs : Reader.run s us = some s') : Covers s' (ts ++ us) := by
  induction us generalizing s ts with
  | nil =>
    obtain rfl := Option.some.inj hs
    exact h.congr (List.append_nil ts).symm
  | cons t us ih =>
    obtain ⟨mid, hmid, hs⟩ := Option.bind_eq_some_iff.1 hs
    exact (ih (h.step hmid) hs).congr (by simp)

theorem covers_start : Covers .start [] := .mk .nil pendingCovers_empty .operand

/-- At the end the words derive a formula. -/
theorem Covers.finish (h : Covers s ts) {f : Formula} (hf : Reader.finish s = some f) :
    ∃ o, Derives .expr ts o ∧ o.formula = f := by
  obtain @⟨outer, p, phase, as, bs, cs, ho, hp, hphase⟩ := h
  cases hphase with
  | operand | field => cases ho <;> cases hf
  | behind hd =>
    cases ho with
    | cons => cases hf
    | nil => exact ⟨_, hp.expr hd, Option.some.inj hf⟩

end

/-! ## 5. Both at once -/

/-- **The machine reads what the grammar derives.** -/
theorem Formula.read_eq_some_iff {tokens : List Token} {f : Formula} :
    Formula.read tokens = some f ↔ ∃ o, Derives .expr tokens o ∧ o.formula = f := by
  constructor
  · intro h
    obtain ⟨s, hs, hf⟩ := Option.bind_eq_some_iff.1 h
    exact (covers_start.run hs).finish hf
  · rintro ⟨o, hd, rfl⟩
    obtain ⟨p, last, hrun, rfl⟩ := hd.readAs []
    unfold Formula.read
    rw [show State.start = ⟨[], .empty, .operand⟩ from rfl, hrun]
    rfl

/-- The grammar is unambiguous. -/
theorem Derives.formula_eq {tokens : List Token} {o o' : Operand} (h : Derives .expr tokens o)
    (h' : Derives .expr tokens o') : o.formula = o'.formula := by
  have hread := Formula.read_eq_some_iff.2 ⟨o, h, rfl⟩
  have hread' := Formula.read_eq_some_iff.2 ⟨o', h', rfl⟩
  exact Option.some.inj (hread.symm.trans hread')

end VisualScale
