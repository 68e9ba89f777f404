import VisualScale.Proofs.Language.Derivation
import VisualScale.Proofs.Language.Steps
import VisualScale.Proofs.Language.Tree

/-!
# What is no formula is refused

The wider grammar reads much that formulas have no place for, and `Phrase.refusal?` finds the first
of it. Nothing else slips through: where a phrase has no refusal, its words derive from the grammar
of formulas, and the formula that they write is the phrase, node for node and place for place. Each
rule either gives only phrases that are refused (`Refuses`), or admits what
derives from one symbol (`Admits`), if the rules that it calls do; so all rules do, however deep
they nest (`admitsAll_run`).
-/

namespace VisualScale

namespace Grammar

open Reader (Operand operatorMark signMark)

/-! ## 1. What readers come to -/

section

variable {α β : Type} {Q : Cursor → α → Cursor → Prop} {P P' : α → Prop} {p q : Reader α}

/-- Whatever the reader comes to, from wherever it began, is as said. -/
def Meets (Q : Cursor → α → Cursor → Prop) (p : Reader α) : Prop :=
  ∀ ⦃c a c'⦄, p c = some (a, c') → Q c a c'

/-- Whatever the reader gives has a property. -/
def Yields (P : α → Prop) : Reader α → Prop := Meets fun _ a _ => P a

/-- The reader takes no word unless it answers yes. -/
def Probes (r : Reader Bool) : Prop := ∀ ⦃c c'⦄, r c = some (false, c') → c' = c

theorem meets_pure {a : α} (h : ∀ c, Q c a c) : Meets Q (pure a) := by
  intro c b c' hp
  obtain ⟨rfl, rfl⟩ := pure_eq_some hp
  exact h _

theorem meets_refuse : Meets Q refuse := fun _ _ _ h => nomatch h

theorem meets_ite {b : Prop} [Decidable b] (hp : Meets Q p) (hq : Meets Q q) :
    Meets Q (if b then p else q) := by
  split
  · exact hp
  · exact hq

theorem meets_still {s : Reader β} {k : β → Reader α} (hs : Still s) (hk : ∀ b, Meets Q (k b)) :
    Meets Q (s >>= k) := by
  intro c a c' h
  obtain ⟨b, hb⟩ := hs.exists_of_bind h
  exact hk b hb

/-- What a reader finds, or does not and takes no word. -/
theorem meets_probe {r : Reader Bool} (hr : Probes r)
    (htrue : Yields (fun a => ∀ c c', Q c a c') p) (hfalse : Meets Q q) :
    Meets Q (r >>= fun b => if b = true then p else q) := by
  intro c a c' h
  obtain ⟨b, mid, hb, hk⟩ := exists_of_bind h
  cases b with
  | true => exact htrue hk c c'
  | false =>
    obtain rfl := hr hb
    exact hfalse hk

theorem yields_bind {r : Reader β} {k : β → Reader α} (h : ∀ b, Yields P (k b)) :
    Yields P (r >>= k) := by
  intro c a c' hp
  obtain ⟨b, mid, -, hk⟩ := exists_of_bind hp
  exact h b hk

theorem Yields.mono (h : Yields P p) (hP : ∀ a, P a → P' a) : Yields P' p :=
  fun _ a _ hp => hP a (h hp)

theorem Yields.meets (h : Yields P p) (hP : ∀ c a c', P a → Q c a c') : Meets Q p :=
  fun c a c' hp => hP c a c' (h hp)

theorem still_nameBefore (text : String) : Still (nameBefore text) := by
  intro c
  obtain ⟨b, hb, -⟩ := nameBefore_ok text c
  exact ⟨b, hb⟩

theorem probes_accept (text : String) : Probes (accept text) := by
  intro c c' h
  rcases accept_cases h with ⟨-, rfl, -⟩ | ⟨h, -⟩
  · rfl
  · cases h

end

/-! ## 2. Phrases that are refused, and phrases that derive -/

/-- Every phrase that the reader gives has a refusal. -/
def Refuses : Reader Phrase → Prop := Yields fun ph => ph.refusal? ≠ none

/-- The reader gives a phrase and takes no word, or gives phrases that are refused. -/
abbrev Passes (ph : Phrase) : Reader Phrase → Prop :=
  Meets fun c ph' c' => ph'.refusal? = none → ph' = ph ∧ c' = c

/-- What is written like a mark is that mark. -/
def Genuine (l : Lexeme) : Prop := ∀ m, spelling l = spelling (.mark m) → l = .mark m

/-- Every word left is what it is written like. -/
def Cursor.Genuine (c : Cursor) : Prop := ∀ t ∈ c.rest, Grammar.Genuine t.lexeme

/-- The words between two cursors derive from a symbol, and write the formula that the phrase is. -/
def Derived (symbol : Symbol) (c : Cursor) (ph : Phrase) (c' : Cursor) : Prop :=
  ∃ ts o, c.rest = ts ++ c'.rest ∧ Derives symbol ts o ∧ ph.formula? = some o.formula ∧
    o.extent = ⟨c.start, c'.stop⟩

/-- The words of every phrase that the reader gives without a refusal derive from a symbol. -/
abbrev Admits (symbol : Symbol) : Reader Phrase → Prop :=
  Meets fun c ph c' => c.Genuine → ph.refusal? = none → Derived symbol c ph c'

section

variable {symbol symbol' : Symbol} {ph : Phrase} {p q : Reader Phrase} {c c' : Cursor}

theorem refuses_form (kind : String) (start : Position) : Refuses (formFrom kind start) :=
  yields_bind fun _ => meets_pure fun _ => Option.some_ne_none _

theorem Refuses.admits (h : Refuses p) (symbol : Symbol) : Admits symbol p :=
  h.meets fun _ _ _ hph _ hr => absurd hr hph

theorem Refuses.passes (h : Refuses p) (ph : Phrase) : Passes ph p :=
  h.meets fun _ _ _ hph hr => absurd hr hph

theorem passes_pure (ph : Phrase) : Passes ph (pure ph) := meets_pure fun _ _ => ⟨rfl, rfl⟩

theorem passes_probe {r : Reader Bool} (hr : Probes r) (htrue : Refuses p) (hfalse : Passes ph q) :
    Passes ph (r >>= fun b => if b = true then p else q) :=
  meets_probe hr (Yields.mono htrue fun _ h _ _ hr => absurd hr h) hfalse

theorem admits_probe {r : Reader Bool} (hr : Probes r) (htrue : Refuses p)
    (hfalse : Admits symbol q) : Admits symbol (r >>= fun b => if b = true then p else q) :=
  meets_probe hr (Yields.mono htrue fun _ h _ _ _ hr => absurd hr h) hfalse

/-- What is admitted stays so when it is passed on. -/
theorem Admits.passed {k : Phrase → Reader Phrase} (h : Admits symbol p)
    (hk : ∀ ph, Passes ph (k ph)) : Admits symbol (p >>= k) := by
  intro c ph c' hp hg hr
  obtain ⟨first, mid, hfirst, hp⟩ := exists_of_bind hp
  obtain ⟨rfl, rfl⟩ := hk first hp hr
  exact h hfirst hg hr

/-- What derives from a symbol derives from a looser one. -/
theorem Derived.promote (h : Derived symbol c ph c')
    (hpromote : ∀ {ts o}, Derives symbol ts o → Derives symbol' ts o) :
    Derived symbol' c ph c' := by
  obtain ⟨ts, o, hts, ho, hformula⟩ := h
  exact ⟨ts, o, hts, hpromote ho, hformula⟩

theorem Derived.genuine (h : Derived symbol c ph c') (hg : c.Genuine) : c'.Genuine := by
  obtain ⟨ts, o, hts, -, -⟩ := h
  exact fun t ht => hg t (hts ▸ List.mem_append_right ts ht)

/-- Behind a word that is taken, the words left are what they are written like. -/
theorem Cursor.Genuine.tail {t : Token} {rest : List Token} {stop : Position} (hg : c.Genuine)
    (hc : c.rest = t :: rest) : Cursor.Genuine ⟨stop, rest⟩ :=
  fun u hu => hg u (hc ▸ List.mem_cons_of_mem t hu)

/-- A word that is taken as a mark is the mark. -/
theorem Cursor.Genuine.mark {t : Token} {rest : List Token} {m : Mark} (hg : c.Genuine)
    (hc : c.rest = t :: rest) (ht : spelling t.lexeme = spelling (.mark m)) : t.lexeme = .mark m :=
  hg t (hc ▸ List.mem_cons_self) m ht

end

/-- The symbol of the operators of some levels. -/
def levelSymbol : List (List (String × String × Bool)) → Symbol
  | [] => .factor
  | [_] => .term
  | _ => .expr

/-- The recursive rules admit what derives. -/
structure AdmitsAll (rules : Rules) : Prop where
  expression : Admits .expr (rules .expression)
  disjunction : Admits .expr (rules .disjunction)
  sum : ∀ levels, levels <:+ operatorLevels → Admits (levelSymbol levels) (rules (.sum levels))
  factor : Admits .factor (rules .factor)
  atom : Admits .atom (rules .atom)

/-! ## 3. Comparisons and looser -/

variable {self : Rules} {c c' : Cursor}

theorem admits_separated {word kind : String} {item : Reader Phrase} {symbol : Symbol}
    (h : Admits symbol item) : Admits symbol (separated word kind item) := by
  unfold separated
  refine meets_still still_here fun start => h.passed fun first => ?_
  refine meets_still (still_at? word) fun b => meets_ite ?_ (passes_pure first)
  exact Refuses.passes (yields_bind fun _ => refuses_form kind start) first

/-- A comparison sign that is not there takes no word. -/
theorem probes_acceptComparison : Probes acceptComparison := by
  intro c c' h
  have absent {p : Reader Bool} {c : Cursor} (hp : Yields (· = true) p)
      (h : p c = some (false, c')) : c' = c := absurd (hp h) Bool.false_ne_true
  have yes : Yields (· = true) (pure true) := meets_pure fun _ => rfl
  obtain ⟨l, mid, hl, hk⟩ := exists_of_bind h
  obtain ⟨-, rfl⟩ := Prod.mk.inj (Option.some.inj hl)
  generalize l.bind spelling = text? at hk
  cases text? with
  | none => exact (pure_eq_some hk).2
  | some text =>
    dsimp only at hk
    split at hk
    · exact absent (yields_bind fun _ => yes) hk
    split at hk
    · exact absent (yields_bind fun _ => yields_bind fun _ => yes) hk
    obtain ⟨second, hk⟩ := still_peekSecond.exists_of_bind hk
    split at hk
    · exact absent (yields_bind fun _ => yields_bind fun _ => yes) hk
    · exact (pure_eq_some hk).2

theorem admits_comparison (h : AdmitsAll self) : Admits .expr (comparison self) := by
  unfold comparison
  refine meets_still still_here fun start => ?_
  have hfirst : Admits .expr (bitwiseOr self) := h.sum operatorLevels (List.suffix_refl _)
  refine hfirst.passed fun first => passes_probe probes_acceptComparison ?_ (passes_pure first)
  exact yields_bind fun _ => yields_bind fun _ => refuses_form _ _

theorem admits_inversion (h : AdmitsAll self) : Admits .expr (inversion self) := by
  unfold inversion
  refine meets_still still_here fun start => admits_probe (probes_accept _) ?_ (admits_comparison h)
  refine yields_bind fun _ => yields_bind fun _ => yields_bind fun _ => meets_pure fun _ => ?_
  exact Option.some_ne_none _

theorem admits_disjunction (h : AdmitsAll self) : Admits .expr (disjunction self) :=
  admits_separated (admits_separated (admits_inversion h))

theorem refuses_lambda : Refuses (lambda self) := by
  unfold lambda
  refine yields_bind fun start => yields_bind fun _ => yields_bind fun phase => ?_
  have hrest : Refuses
      (expect ":" >>= fun _ => self .expression >>= fun _ => formFrom "Lambda" start) :=
    yields_bind fun _ => yields_bind fun _ => refuses_form _ _
  exact meets_ite (yields_bind fun _ => hrest) hrest

theorem admits_expression (h : AdmitsAll self) : Admits .expr (expression self) := by
  unfold expression
  refine meets_still (still_at? _) fun b => meets_ite (refuses_lambda.admits _) ?_
  refine meets_still still_here fun start => h.disjunction.passed fun first => ?_
  refine passes_probe (probes_accept _) ?_ (passes_pure first)
  exact yields_bind fun _ => yields_bind fun _ => yields_bind fun _ => refuses_form _ _

theorem admits_namedExpression (h : AdmitsAll self) : Admits .expr (namedExpression self) := by
  unfold namedExpression
  refine meets_still still_here fun start => ?_
  refine meets_still (still_nameBefore _) fun named => meets_ite ?_ ?_
  · refine Refuses.admits ?_ _
    exact yields_bind fun _ => yields_bind fun _ => yields_bind fun _ => refuses_form _ _
  · refine h.expression.passed fun e => meets_still (still_at? ":=") fun b => ?_
    exact meets_ite meets_refuse (passes_pure e)

theorem admits_starredOrNamed (h : AdmitsAll self) : Admits .expr (starredOrNamed self) := by
  unfold starredOrNamed
  refine meets_still still_here fun start => ?_
  refine admits_probe (probes_accept _) ?_ (admits_namedExpression h)
  exact yields_bind fun _ => yields_bind fun _ => meets_pure fun _ => Option.some_ne_none _

/-! ## 4. Arguments -/

/-- The arguments have no refusal. -/
def Arguments.Unrefused (a : Arguments) : Prop :=
  a.keywords = false ∧ ∀ e ∈ a.args, e.refusal? = none

theorem argumentRefusal?_eq_none {s : Span} {args : List Phrase} :
    Phrase.argumentRefusal? s args = none ↔ ∀ e ∈ args, e.refusal? = none := by
  induction args with
  | nil => simp [Phrase.argumentRefusal?]
  | cons e rest ih => cases e <;> simp [Phrase.argumentRefusal?, Phrase.refusal?, ih]

/-- An argument without a refusal is a plain one, which derives. -/
theorem meets_argument (h : AdmitsAll self) (a : Arguments) :
    Meets (fun c a' c' => a'.Unrefused → ∃ e, a' = { a with args := a.args ++ [e] } ∧
      e.refusal? = none ∧ (c.Genuine → Derived .expr c e c')) (argument self a) := by
  have hkeywords {a' : Arguments} (ha' : a'.keywords = true) : ¬ a'.Unrefused :=
    fun hr => Bool.false_ne_true (hr.1.symm.trans ha')
  have hunpacked {a' : Arguments} {s : Span} (ha' : a'.args = a.args ++ [.unpacked s]) :
      ¬ a'.Unrefused := by
    have hmem : .unpacked s ∈ a'.args := ha' ▸ List.mem_append_right _ List.mem_cons_self
    exact fun hr => Option.some_ne_none _ (hr.2 _ hmem)
  -- Two stars, one star and a name with its value are refused, each for a reason of its own.
  unfold argument
  refine meets_still still_here fun start => meets_probe (probes_accept _) ?_ ?_
  · exact yields_bind fun _ => meets_pure fun _ _ _ hr => absurd hr (hkeywords rfl)
  refine meets_probe (probes_accept _) ?_ ?_
  · have hrest : Yields (fun a' : Arguments => ¬ a'.Unrefused)
        (self .expression >>= fun _ => spanFrom start >>= fun s =>
          pure { a with args := a.args ++ [.unpacked s] }) :=
      yields_bind fun _ => yields_bind fun _ => meets_pure fun _ => hunpacked rfl
    refine Yields.mono (meets_ite (yields_bind fun _ => hrest) hrest) ?_
    exact fun a' hno c c' hr => absurd hr hno
  refine meets_still (still_nameBefore _) fun named => meets_ite ?_ ?_
  · refine Yields.meets (P := fun a' => ¬ a'.Unrefused) ?_ fun c a' c' hno hr => absurd hr hno
    refine yields_bind fun _ => yields_bind fun _ => yields_bind fun _ => ?_
    exact meets_pure fun _ => hkeywords rfl
  · refine meets_ite ?_ ?_
    · exact fun _ _ _ hp => nomatch hp
    · intro c a' c' hp hr
      obtain ⟨e, mid, he, hp⟩ := exists_of_bind hp
      obtain ⟨rfl, rfl⟩ := pure_eq_some hp
      have hunrefused : e.refusal? = none := hr.2 e (List.mem_append_right _ List.mem_cons_self)
      exact ⟨e, rfl, hunrefused, fun hg => admits_namedExpression h he hg hunrefused⟩

/-- The phrases are the formulas of operands, one after another. -/
def AreFormulas (phs : List Phrase) (args : List (List Token × Operand)) : Prop :=
  phs.map Phrase.formula? = args.map fun a => some a.2.formula

theorem AreFormulas.snoc {phs : List Phrase} {args : List (List Token × Operand)}
    (h : AreFormulas phs args) {e : Phrase} {a : List Token × Operand}
    (he : e.formula? = some a.2.formula) : AreFormulas (phs ++ [e]) (args ++ [a]) := by
  unfold AreFormulas at h ⊢
  rw [List.map_append, List.map_append, h, List.map_singleton, List.map_singleton, he]

/-- Between two cursors stand arguments that derive, all but the last with a comma behind, and the
    phrases are their formulas. -/
def Gathered (c : Cursor) (phs : List Phrase) (c' : Cursor) : Prop :=
  ∃ (args : List (List Token × Operand)) (ts : List Token) (last : List Token × Operand),
    c.rest = ts ++ (last.1 ++ c'.rest) ∧ CommaEnded (args.map Prod.fst) ts ∧
      (∀ a ∈ args ++ [last], Derives .expr a.1 a.2) ∧ AreFormulas phs (args ++ [last])

theorem Gathered.genuine {phs : List Phrase} (h : Gathered c phs c') (hg : c.Genuine) :
    c'.Genuine := by
  obtain ⟨args, ts, last, hc, -, -⟩ := h
  exact fun t ht => hg t (hc ▸ List.mem_append_right ts (List.mem_append_right last.1 ht))

theorem Derived.gathered {e : Phrase} (h : Derived .expr c e c') : Gathered c [e] c' := by
  obtain ⟨ts, o, hc, ho, hformula, -⟩ := h
  have hformulas : AreFormulas [e] [(ts, o)] := congrArg (fun f => [f]) hformula
  refine ⟨[], [], (ts, o), hc, .nil, fun a ha => ?_, hformulas⟩
  obtain rfl := List.mem_singleton.1 ha
  exact ho

/-- One more argument behind a comma. -/
theorem Gathered.snoc {mid : Cursor} {comma : Token} {rest : List Token} {stop : Position}
    {phs : List Phrase} {e : Phrase} (h : Gathered c phs mid) (hmid : mid.rest = comma :: rest)
    (hcomma : comma.lexeme = .mark .comma)
    (he : Derived .expr ⟨stop, rest⟩ e c') : Gathered c (phs ++ [e]) c' := by
  obtain ⟨args, ts, last, hc, hts, hargs, hformulas⟩ := h
  obtain ⟨us, o, hrest, ho, hformula, -⟩ := he
  refine ⟨args ++ [last], ts ++ (last.1 ++ [comma]), (us, o), ?_, ?_, ?_, hformulas.snoc hformula⟩
  · have hrest' : rest = us ++ c'.rest := hrest
    rw [hc, hmid, hrest']
    simp
  · rw [List.map_append]
    exact hts.append (.cons hcomma .nil)
  · intro a ha
    rcases List.mem_append.1 ha with ha | ha
    · exact hargs a ha
    · obtain rfl := List.mem_singleton.1 ha
      exact ho

/-- The words between two cursors are what stands between the brackets of a call, and its end; the
    phrases are the formulas of the arguments. -/
def ArgumentsDerived (c : Cursor) (phs : List Phrase) (c' : Cursor) : Prop :=
  ∃ (args : List (List Token × Operand)) (us : List Token) (closing : Token),
    c.rest = us ++ closing :: c'.rest ∧ closing.lexeme = .mark .closing ∧
      (∀ a ∈ args, Derives .expr a.1 a.2) ∧ Listed (args.map Prod.fst) us ∧
      AreFormulas phs args ∧ closing.span.stop = c'.stop

/-- Gathered arguments, perhaps a comma behind them, and the closing bracket. -/
theorem Gathered.closed {mid : Cursor} {closing : Token} {commas : List Token} {phs : List Phrase}
    (h : Gathered c phs mid) (hmid : mid.rest = commas ++ closing :: c'.rest)
    (hclosing : closing.lexeme = .mark .closing) (hstop : closing.span.stop = c'.stop)
    (hcommas : commas = [] ∨ ∃ comma, commas = [comma] ∧ comma.lexeme = .mark .comma) :
    ArgumentsDerived c phs c' := by
  obtain ⟨args, ts, last, hc, hts, hargs, hformulas⟩ := h
  have hlast : Listed [last.1] (last.1 ++ commas) := by
    rcases hcommas with rfl | ⟨comma, rfl, hcomma⟩
    · rw [List.append_nil]
      exact .last last.1
    · exact .cons hcomma .nil
  refine ⟨args ++ [last], ts ++ (last.1 ++ commas), closing, ?_, hclosing, hargs, ?_, hformulas,
    hstop⟩
  · rw [hc, hmid]
    simp
  · rw [List.map_append]
    exact hts.listed hlast

/-- What `arguments` does behind an argument, again and again. -/
def nextArgument (self : Rules) (a : Arguments) : Reader (Option Arguments) := do
  if ← accept "," then
    if ← at? ")" then return none
    else return some (← argument self a)
  else return none

/-- Either another argument comes behind a comma, or none does, with a comma or without. -/
theorem nextArgument_cases {a : Arguments} {next : Option Arguments}
    (h : nextArgument self a c = some (next, c')) :
    next = none ∧ c' = c ∨
      ∃ comma rest, c.rest = comma :: rest ∧ spelling comma.lexeme = some "," ∧
        (next = none ∧ c'.rest = rest ∨
          ∃ a', next = some a' ∧ argument self a ⟨comma.span.stop, rest⟩ = some (a', c')) := by
  rcases exists_of_accept h with hbody | ⟨comma, rest, hrest, hcomma, hbody⟩
  · exact .inl (pure_eq_some hbody)
  refine .inr ⟨comma, rest, hrest, hcomma, ?_⟩
  obtain ⟨closed, hturn⟩ := (still_at? _).exists_of_bind hbody
  split at hturn
  · obtain ⟨rfl, rfl⟩ := pure_eq_some hturn
    exact .inl ⟨rfl, rfl⟩
  · obtain ⟨a', mid, ha', hnext⟩ := exists_of_bind hturn
    obtain ⟨rfl, rfl⟩ := pure_eq_some hnext
    exact .inr ⟨a', rfl, ha'⟩

/-- Arguments behind the first one, up to the closing bracket. -/
theorem argumentsDerived_of_repeated (h : AdmitsAll self) {mid last : Cursor} {first a : Arguments}
    (hg : c.Genuine) (hfirst : first.Unrefused → Gathered c first.args mid)
    (hloop : repeated (nextArgument self) first mid = some (a, last))
    (hclose : expect ")" last = some ((), c')) (hr : a.Unrefused) :
    ArgumentsDerived c a.args c' := by
  have hturn (a : Arguments) (mid : Cursor) (a' : Arguments) (mid' : Cursor)
      (ha : a.Unrefused → Gathered c a.args mid)
      (hnext : nextArgument self a mid = some (some a', mid')) (hr : a'.Unrefused) :
      Gathered c a'.args mid' := by
    rcases nextArgument_cases hnext with ⟨hnone, -⟩ | ⟨comma, rest, hrest, hcomma, ⟨hnone, -⟩ | h'⟩
    · cases hnone
    · cases hnone
    · obtain ⟨_, hsome, ha'⟩ := h'
      cases hsome
      obtain ⟨e, rfl, -, he⟩ := meets_argument h a ha' hr
      have hgathered := ha ⟨hr.1, fun e he => hr.2 e (List.mem_append_left _ he)⟩
      have hg' := hgathered.genuine hg
      exact hgathered.snoc hrest (hg'.mark hrest hcomma) (he (hg'.tail hrest))
  obtain ⟨before, hbefore, hend⟩ := repeated_invariant _ hturn hfirst hloop
  obtain ⟨closing, rest, hrest, hclosing, rfl⟩ := expect_ok hclose
  have hgathered := hbefore hr
  have hg' := hgathered.genuine hg
  rcases nextArgument_cases hend with ⟨-, rfl⟩ | ⟨comma, behind, hcomma, hspelled, ⟨-, rfl⟩ | h'⟩
  · exact hgathered.closed (List.nil_append _ ▸ hrest) (hg'.mark hrest hclosing) rfl (.inl rfl)
  · refine hgathered.closed (hrest ▸ hcomma) ?_ rfl (.inr ⟨comma, rfl, hg'.mark hcomma hspelled⟩)
    have hlast : Cursor.Genuine last := hg'.tail hcomma
    exact hlast.mark hrest hclosing
  · obtain ⟨_, hnone, -⟩ := h'
    cases hnone

/-- Arguments without a refusal derive. -/
theorem meets_arguments (h : AdmitsAll self) (opening : Position) :
    Meets (fun c a c' => c.Genuine → a.Unrefused → ArgumentsDerived c a.args c')
      (arguments self opening) := by
  intro c a c' ha hg hr
  rcases exists_of_accept ha with hbody | ⟨t, rest, hrest, ht, hbody⟩
  · obtain ⟨first, mid', hfirst, hbehind⟩ := exists_of_bind hbody
    obtain ⟨clause, hall⟩ := still_atClause.exists_of_bind hbehind
    have hgathered (hunrefused : first.Unrefused) : Gathered c first.args mid' := by
      obtain ⟨e, rfl, -, he⟩ := meets_argument h _ hfirst hunrefused
      exact (he hg).gathered
    -- A comprehension in place of all arguments is one argument, which is refused.
    generalize (_ && clause) = generator at hall
    cases generator with
    | true =>
      obtain ⟨_, _, -, hclose⟩ := exists_of_bind hall
      obtain ⟨_, _, -, hform⟩ := exists_of_bind hclose
      obtain ⟨e, _, he, hpure⟩ := exists_of_bind hform
      obtain ⟨rfl, rfl⟩ := pure_eq_some hpure
      exact absurd (hr.2 e List.mem_cons_self) (refuses_form _ _ he)
    | false =>
      obtain ⟨all, last, hloop, hrest⟩ := exists_of_bind hall
      obtain ⟨_, mid'', hclose, hpure⟩ := exists_of_bind hrest
      obtain ⟨rfl, rfl⟩ := pure_eq_some hpure
      exact argumentsDerived_of_repeated h hg hgathered hloop hclose hr
  · obtain ⟨rfl, rfl⟩ := pure_eq_some hbody
    exact ⟨[], [], t, hrest, hg.mark hrest ht, (fun _ h => nomatch h), .nil, rfl, rfl⟩

/-! ## 5. Primaries -/

/-- A member of what derives from a primary does so, too. -/
theorem Derived.member {value : Phrase} {mid : Cursor} {dot t : Token} {field : String}
    (h : Derived .primary c value mid) (hmid : mid.rest = dot :: t :: c'.rest)
    (hdot : dot.lexeme = .mark .dot) (ht : t.lexeme = .name field) (hstop : t.span.stop = c'.stop) :
    Derived .primary c (.member value field ⟨c.start, c'.stop⟩) c' := by
  obtain ⟨ts, o, hc, ho, hformula, hextent⟩ := h
  have hextent' : (o.component field t.span.stop).extent = ⟨c.start, c'.stop⟩ := by
    unfold Reader.Operand.component
    rw [hextent, hstop]
  refine ⟨ts ++ [dot, t], o.component field t.span.stop, ?_, .component ho hdot ht, ?_, hextent'⟩
  · rw [hc, hmid, List.append_assoc]
    rfl
  · rw [← hextent']
    exact Phrase.formula?_member hformula field _

/-- A call without a refusal calls a name, and none of its arguments has a refusal. -/
theorem call_unrefused {value : Phrase} {a : Arguments} {s : Span}
    (hr : (Phrase.call value a.args a.keywords s).refusal? = none) :
    (∃ function span, value = .name function span) ∧ a.Unrefused := by
  obtain ⟨phase, args, keywords⟩ := a
  cases value with
  | name function span =>
    cases keywords with
    | true => cases hr
    | false => exact ⟨⟨function, span, rfl⟩, rfl, argumentRefusal?_eq_none.1 hr⟩
  | _ => cases hr

/-- A call derives from a primary if a name is called and the arguments derive. -/
theorem Derived.call {mid : Cursor} {function : String} {span : Span} {opening : Token}
    {rest : List Token} {stop : Position} {args : List Phrase}
    (h : Derived .primary c (.name function span) mid) (hmid : mid.rest = opening :: rest)
    (hopening : opening.lexeme = .mark .opening) (ha : ArgumentsDerived ⟨stop, rest⟩ args c') :
    Derived .primary c (.call (.name function span) args false ⟨c.start, c'.stop⟩) c' := by
  obtain ⟨ts, o, hc, ho, hname, hextent⟩ := h
  obtain ⟨operands, us, closing, hrest, hclosing, hargs, hlisted, hformulas, hstop⟩ := ha
  obtain ⟨formula, extent⟩ := o
  obtain rfl : formula = .name function span := Phrase.formula?_name hname rfl
  obtain rfl : extent = ⟨c.start, mid.stop⟩ := hextent
  have hcallee := ho.callee_of_name rfl
  refine ⟨_, _, ?_, .call hcallee hopening hargs hlisted hclosing, ?_, ?_⟩
  · have hrest' : rest = us ++ closing :: c'.rest := hrest
    rw [hc, hmid, hrest']
    simp
  · rw [← hstop]
    refine Phrase.formula?_call ?_ function span _
    rw [List.map_map]
    exact hformulas
  · rw [← hstop]
    rfl

/-- What `primaryWithEnd` does behind a primary, again and again. -/
def behindPrimary (self : Rules) (start : Position) :
    Phrase × PrimaryEnd → Reader (Option (Phrase × PrimaryEnd)) := fun (value, _) => do
  let opening ← here
  if ← accept "." then
    let field ← expectName
    return some (.member value field (← spanFrom start), .member)
  else if ← accept "(" then
    let a ← arguments self opening
    return some (.call value a.args a.keywords (← spanFrom start), .call)
  else if ← accept "[" then
    slices self
    return some (← formFrom "Subscript" start, .member)
  else return none

/-- Behind a primary that derives comes another, or nothing. -/
theorem behindPrimary_derived (h : AdmitsAll self) {mid : Cursor}
    {value : Phrase × PrimaryEnd} {next : Option (Phrase × PrimaryEnd)} (hg : c.Genuine)
    (hvalue : value.1.refusal? = none → Derived .primary c value.1 mid)
    (hnext : behindPrimary self c.start value mid = some (next, c')) :
    (next = none ∧ c' = mid) ∨ ∃ value', next = some value' ∧
      (value'.1.refusal? = none → Derived .primary c value'.1 c') := by
  obtain ⟨opening, hmember⟩ := still_here.exists_of_bind hnext
  rcases exists_of_accept hmember with hbody | ⟨dot, rest, hrest, hdot, hbody⟩
  · rcases exists_of_accept hbody with hcall | ⟨bracket, rest, hrest, hbracket, hcall⟩
    · rcases exists_of_accept hcall with hsubscript | ⟨_, _, -, -, hsubscript⟩
      · exact .inl (pure_eq_some hsubscript)
      · obtain ⟨_, _, -, hform⟩ := exists_of_bind hsubscript
        obtain ⟨ph, _, hph, hpure⟩ := exists_of_bind hform
        obtain ⟨rfl, rfl⟩ := pure_eq_some hpure
        exact .inr ⟨_, rfl, fun hr => absurd hr (refuses_form _ _ hph)⟩
    · obtain ⟨a, _, ha, hspan⟩ := exists_of_bind hcall
      have hpure := of_spanFrom hspan
      obtain ⟨rfl, rfl⟩ := pure_eq_some hpure
      refine .inr ⟨_, rfl, fun hr => ?_⟩
      obtain ⟨value, hend⟩ := value
      obtain ⟨⟨function, span, rfl⟩, hunrefused⟩ := call_unrefused hr
      have hprimary := hvalue rfl
      have hg' := hprimary.genuine hg
      have hargs := meets_arguments h _ ha (hg'.tail hrest) hunrefused
      rw [hunrefused.1]
      exact hprimary.call hrest (hg'.mark hrest hbracket) hargs
  · obtain ⟨field, _, hfield, hspan⟩ := exists_of_bind hbody
    have hpure := of_spanFrom hspan
    obtain ⟨rfl, rfl⟩ := pure_eq_some hpure
    refine .inr ⟨_, rfl, fun hr => ?_⟩
    have hprimary := hvalue hr
    have hg' := hprimary.genuine hg
    obtain ⟨t, rest', rfl, ht, rfl⟩ := expectName_ok hfield
    exact hprimary.member hrest (hg'.mark hrest hdot) ht rfl

theorem admits_primary (h : AdmitsAll self) :
    Meets (fun c r c' => c.Genuine → r.1.refusal? = none → Derived .primary c r.1 c')
      (primaryWithEnd self) := by
  intro c r c' hp hg hr
  obtain ⟨first, mid, hfirst, hloop⟩ := exists_of_bind (of_here hp)
  have hderived (hr : first.refusal? = none) : Derived .primary c first mid :=
    (h.atom hfirst hg hr).promote .atom
  have hloop' : repeated (behindPrimary self c.start) (first, PrimaryEnd.atom) mid = some (r, c') :=
    hloop
  exact repeated_keeps (fun value mid => value.1.refusal? = none → Derived .primary c value.1 mid)
    (fun _ _ _ _ hvalue hnext => behindPrimary_derived h hg hvalue hnext) hderived hloop' hr

theorem admits_awaited (h : AdmitsAll self) : Admits .primary (awaited self) := by
  unfold awaited
  refine meets_still still_here fun start => admits_probe (probes_accept _) ?_ ?_
  · exact yields_bind fun _ => refuses_form _ _
  · intro c ph c' hp hg hr
    obtain ⟨r, mid, hr', hpure⟩ := exists_of_bind hp
    obtain ⟨rfl, rfl⟩ := pure_eq_some hpure
    exact admits_primary h hr' hg hr

/-! ## 6. Operations -/

/-- The signs that formulas have. -/
theorem exists_sign {text name : String} (h : (text, name, true) ∈ signOperators) :
    ∃ sign, spelling (.mark (signMark sign)) = some text ∧ Sign.ofKind? name = some sign := by
  simp only [signOperators, List.mem_cons, Prod.mk.injEq, List.not_mem_nil] at h
  rcases h with ⟨rfl, rfl, -⟩ | ⟨rfl, rfl, -⟩ | ⟨-, -, h⟩ | h
  · exact ⟨.plus, rfl, rfl⟩
  · exact ⟨.minus, rfl, rfl⟩
  · cases h
  · cases h

theorem admits_factor (h : AdmitsAll self) : Admits .factor (factor self) := by
  intro c ph c' hp hg hr
  obtain ⟨sign?, _, hsign?, hbody⟩ := exists_of_bind (of_here hp)
  cases sign? with
  | none =>
    obtain rfl := operatorAt_none hsign?
    have hpassed (start : Position) : Admits .primary (awaited self >>= fun base =>
        accept "**" >>= fun b =>
        if b = true then self .factor >>= fun power => spanFrom start >>= fun s =>
          pure (.binary "Pow" false base power s) else pure base) := by
      refine (admits_awaited h).passed fun base => ?_
      refine passes_probe (probes_accept _) ?_ (passes_pure base)
      exact yields_bind fun _ => yields_bind fun _ => meets_pure fun _ => Option.some_ne_none _
    exact (hpassed _ hbody hg hr).promote .primary
  | some entry =>
    obtain ⟨name, known⟩ := entry
    obtain ⟨hsame, t, rest, text, hrest, ht, hmem⟩ := operatorAt_ok hsign?
    rw [hsame] at hbody
    obtain ⟨_, _, htaken, hoperand⟩ := exists_of_bind hbody
    obtain ⟨operand, mid, hfactor, hspan⟩ := exists_of_bind hoperand
    have hpure := of_spanFrom hspan
    obtain ⟨rfl, rfl⟩ := pure_eq_some hpure
    obtain ⟨t', rest', hrest', rfl⟩ := advance_ok htaken
    obtain ⟨rfl, rfl⟩ := List.cons.inj (hrest.symm.trans hrest')
    cases known with
    | false => cases hr
    | true =>
      obtain ⟨sign, hsign, hkind⟩ := exists_sign hmem
      obtain ⟨us, o, hus, ho, hformula, hextent⟩ := h.factor hfactor (hg.tail hrest) hr
      have hmark := hg.mark hrest (ht.trans hsign.symm)
      have hextent' : (o.signed sign t.span.start).extent = ⟨c.start, c'.stop⟩ := by
        unfold Reader.Operand.signed Cursor.start
        rw [hextent, hrest]
        rfl
      refine ⟨t :: us, o.signed sign t.span.start, ?_, .signed hmark ho, ?_, hextent'⟩
      · rw [hrest, List.cons_append, ← hus]
      · rw [← hextent']
        exact Phrase.formula?_unary hkind hformula true _

/-- The binary operators that formulas have stand in the two tightest levels. -/
theorem exists_operator {entries : List (String × String × Bool)}
    {tighter : List (List (String × String × Bool))} {text name : String}
    (h : entries :: tighter <:+ operatorLevels) (hmem : (text, name, true) ∈ entries) :
    ∃ op, spelling (.mark (operatorMark op)) = some text ∧ Operator.ofKind? name = some op ∧
      (tighter = [] ∧ (op = .mul ∨ op = .div) ∨
        (∃ level, tighter = [level]) ∧ (op = .add ∨ op = .sub)) := by
  -- The four loosest levels have no operator of formulas.
  simp only [operatorLevels, List.suffix_cons_iff, List.cons.injEq, List.suffix_nil, reduceCtorEq,
    or_false] at h
  rcases h with ⟨rfl, rfl⟩ | ⟨rfl, rfl⟩ | ⟨rfl, rfl⟩ | ⟨rfl, rfl⟩ | ⟨rfl, rfl⟩ | ⟨rfl, rfl⟩
  · simp at hmem
  · simp at hmem
  · simp at hmem
  · simp at hmem
  · have hsum : text = "+" ∧ name = "Add" ∨ text = "-" ∧ name = "Sub" := by
      simpa [sumOperators] using hmem
    rcases hsum with ⟨rfl, rfl⟩ | ⟨rfl, rfl⟩
    · exact ⟨.add, rfl, rfl, .inr ⟨⟨_, rfl⟩, .inl rfl⟩⟩
    · exact ⟨.sub, rfl, rfl, .inr ⟨⟨_, rfl⟩, .inr rfl⟩⟩
  · have hproduct : text = "*" ∧ name = "Mult" ∨ text = "/" ∧ name = "Div" := by
      simpa [productOperators] using hmem
    rcases hproduct with ⟨rfl, rfl⟩ | ⟨rfl, rfl⟩
    · exact ⟨.mul, rfl, rfl, .inl ⟨rfl, .inl rfl⟩⟩
    · exact ⟨.div, rfl, rfl, .inl ⟨rfl, .inr rfl⟩⟩

/-- What derives from the symbol of tighter levels derives from that of looser ones. -/
theorem derives_looser {entries : List (String × String × Bool)}
    {tighter : List (List (String × String × Bool))} {ts : List Token} {o : Operand}
    (h : Derives (levelSymbol tighter) ts o) : Derives (levelSymbol (entries :: tighter)) ts o := by
  match tighter, h with
  | [], h => exact .factor h
  | [_], h => exact .term h
  | _ :: _ :: _, h => exact h

/-- An operation that formulas have, between what derives from the symbols of its level. -/
theorem exists_derives_operation {entries : List (String × String × Bool)}
    {tighter : List (List (String × String × Bool))} {text name : String}
    (h : entries :: tighter <:+ operatorLevels) (hmem : (text, name, true) ∈ entries) {t : Token}
    (hg : Genuine t.lexeme) (ht : spelling t.lexeme = some text) {ts us : List Token}
    {l r : Operand} (hl : Derives (levelSymbol (entries :: tighter)) ts l)
    (hr : Derives (levelSymbol tighter) us r) :
    ∃ op, Operator.ofKind? name = some op ∧
      Derives (levelSymbol (entries :: tighter)) (ts ++ t :: us)
        ((Reader.Waiting.mk l op).complete r) := by
  obtain ⟨op, htext, hkind, ⟨rfl, hop⟩ | ⟨⟨level, rfl⟩, hop⟩⟩ := exists_operator h hmem
  · exact ⟨op, hkind, .product hop hl (hg _ (ht.trans htext.symm)) hr⟩
  · exact ⟨op, hkind, .sum hop hl (hg _ (ht.trans htext.symm)) hr⟩

/-- What `sum` does behind an operand, again and again. -/
def behindOperand (self : Rules) (entries : List (String × String × Bool))
    (tighter : List (List (String × String × Bool))) (start : Position) (left : Phrase) :
    Reader (Option Phrase) := do
  match ← operatorAt entries with
  | some (name, known) =>
    advance
    let right ← self (.sum tighter)
    return some (.binary name known left right (← spanFrom start))
  | none => return none

/-- Behind operands that derive comes an operation with another, or nothing. -/
theorem behindOperand_derived (h : AdmitsAll self) {entries : List (String × String × Bool)}
    {tighter : List (List (String × String × Bool))} {mid : Cursor}
    {left : Phrase} {next : Option Phrase} (hlevels : entries :: tighter <:+ operatorLevels)
    (hg : c.Genuine)
    (hleft : left.refusal? = none → Derived (levelSymbol (entries :: tighter)) c left mid)
    (hnext : behindOperand self entries tighter c.start left mid = some (next, c')) :
    (next = none ∧ c' = mid) ∨ ∃ e, next = some e ∧
      (e.refusal? = none → Derived (levelSymbol (entries :: tighter)) c e c') := by
  obtain ⟨found, _, hentry, hbody⟩ := exists_of_bind hnext
  cases found with
  | none =>
    obtain rfl := operatorAt_none hentry
    exact .inl (pure_eq_some hbody)
  | some entry =>
    obtain ⟨name, known⟩ := entry
    obtain ⟨rfl, t, rest, text, hrest, ht, hmem⟩ := operatorAt_ok hentry
    obtain ⟨_, _, htaken, hoperand⟩ := exists_of_bind hbody
    obtain ⟨right, _, hright, hspan⟩ := exists_of_bind hoperand
    have hpure := of_spanFrom hspan
    obtain ⟨rfl, rfl⟩ := pure_eq_some hpure
    obtain ⟨t', rest', hrest', rfl⟩ := advance_ok htaken
    obtain ⟨rfl, rfl⟩ := List.cons.inj (hrest.symm.trans hrest')
    refine .inr ⟨_, rfl, fun hr => ?_⟩
    cases known with
    | false => cases hr
    | true =>
      obtain ⟨hrl, hrr⟩ := Option.or_eq_none_iff.1 hr
      have hderived := hleft hrl
      have hg' := hderived.genuine hg
      obtain ⟨ts, l, hts, hl, hlformula, hlextent⟩ := hderived
      have hsuffix := (List.suffix_cons entries tighter).trans hlevels
      obtain ⟨us, r, hus, hr', hrformula, hrextent⟩ :=
        h.sum tighter hsuffix hright (hg'.tail hrest) hrr
      have hgt : Genuine t.lexeme := hg' t (hrest ▸ List.mem_cons_self)
      obtain ⟨op, hkind, hop⟩ := exists_derives_operation hlevels hmem hgt ht hl hr'
      have hextent : ((Reader.Waiting.mk l op).complete r).extent = ⟨c.start, c'.stop⟩ := by
        unfold Reader.Waiting.complete
        rw [hlextent, hrextent]
      refine ⟨_, _, ?_, hop, ?_, hextent⟩
      · have hus' : rest = us ++ c'.rest := hus
        rw [hts, hrest, hus', List.append_assoc, List.cons_append]
      · rw [← hextent]
        exact Phrase.formula?_binary hkind hlformula hrformula true _

theorem admits_sum (h : AdmitsAll self) (levels : List (List (String × String × Bool)))
    (hlevels : levels <:+ operatorLevels) : Admits (levelSymbol levels) (sum self levels) := by
  cases levels with
  | nil => exact h.factor
  | cons entries tighter =>
    intro c ph c' hp hg hr
    obtain ⟨first, mid, hfirst, hloop⟩ := exists_of_bind (of_here hp)
    have hloop' : repeated (behindOperand self entries tighter c.start) first mid = some (ph, c') :=
      hloop
    have hsuffix := (List.suffix_cons entries tighter).trans hlevels
    have hderived (hr : first.refusal? = none) :
        Derived (levelSymbol (entries :: tighter)) c first mid :=
      (h.sum tighter hsuffix hfirst hg hr).promote derives_looser
    exact repeated_keeps
      (fun left mid => left.refusal? = none → Derived (levelSymbol (entries :: tighter)) c left mid)
      (fun _ _ _ _ hleft hnext => behindOperand_derived h hlevels hg hleft hnext) hderived hloop' hr

/-! ## 7. Atoms -/

theorem refuses_yielded : Refuses (yielded self) := by
  unfold yielded
  refine yields_bind fun start => yields_bind fun _ => yields_bind fun b => meets_ite ?_ ?_
  · exact yields_bind fun _ => refuses_form _ _
  · exact yields_bind fun _ => refuses_form _ _

theorem refuses_inSquare : Refuses (inSquare self) := by
  unfold inSquare
  refine yields_bind fun start => yields_bind fun _ => yields_bind fun b => meets_ite ?_ ?_
  · exact refuses_form _ _
  refine yields_bind fun first => yields_bind fun clause => meets_ite ?_ ?_
  · exact yields_bind fun _ => yields_bind fun _ => refuses_form _ _
  · refine yields_bind fun comma => meets_ite ?_ ?_
    · exact yields_bind fun _ => refuses_form _ _
    · exact yields_bind fun _ => refuses_form _ _

theorem refuses_inBraces : Refuses (inBraces self) := by
  unfold inBraces
  refine yields_bind fun start => yields_bind fun _ => yields_bind fun b => meets_ite ?_ ?_
  · exact refuses_form _ _
  refine yields_bind fun doubled => meets_ite ?_ ?_
  · exact yields_bind fun _ => refuses_form _ _
  refine yields_bind fun named => yields_bind fun first => yields_bind fun keyed => meets_ite ?_ ?_
  · refine yields_bind fun _ => yields_bind fun clause => meets_ite ?_ ?_
    · exact yields_bind fun _ => yields_bind fun _ => refuses_form _ _
    · refine yields_bind fun comma => meets_ite ?_ ?_
      · exact yields_bind fun _ => refuses_form _ _
      · exact yields_bind fun _ => refuses_form _ _
  · refine yields_bind fun clause => meets_ite ?_ ?_
    · exact yields_bind fun _ => yields_bind fun _ => refuses_form _ _
    · refine yields_bind fun comma => meets_ite ?_ ?_
      · exact yields_bind fun _ => refuses_form _ _
      · exact yields_bind fun _ => refuses_form _ _

theorem refuses_texts : Refuses (texts self) := by
  unfold texts
  refine yields_bind fun start => yields_bind fun all => meets_ite ?_ ?_
  · exact refuses_form _ _
  · exact yields_bind fun _ => meets_pure fun _ => Option.some_ne_none _

/-- An opening bracket, what derives from an expression, and the closing bracket. -/
theorem Derived.grouped {opening closing : Token} {first : Phrase} {mid : Cursor}
    {rest : List Token} {stop : Position} (hg : c.Genuine) (hc : c.rest = opening :: rest)
    (hopening : spelling opening.lexeme = some "(") (h : Derived .expr ⟨stop, rest⟩ first mid)
    (hmid : mid.rest = closing :: c'.rest) (hclosing : spelling closing.lexeme = some ")")
    (hstop : closing.span.stop = c'.stop) : Derived .atom c first c' := by
  have hg' : mid.Genuine := h.genuine (hg.tail hc)
  obtain ⟨ts, o, hts, ho, hformula, -⟩ := h
  have hts' : rest = ts ++ mid.rest := hts
  have hderives := Derives.group (hg.mark hc hopening) ho (hg'.mark hmid hclosing)
  refine ⟨_, _, ?_, hderives, hformula, ?_⟩
  · rw [hc, hts', hmid]
    simp
  · unfold Reader.Operand.grouped Cursor.start
    rw [hc, hstop]
    rfl

theorem admits_inRound (h : AdmitsAll self) : Admits .atom (inRound self) := by
  intro c ph c' hp hg hr
  obtain ⟨start, hopen⟩ := still_here.exists_of_bind hp
  obtain ⟨_, _, hopening, hempty⟩ := exists_of_bind hopen
  obtain ⟨opening, rest, hrest, hspelled, rfl⟩ := expect_ok hopening
  rcases exists_of_accept hempty with hyield | ⟨_, _, -, -, hyield⟩
  swap
  · exact absurd hr (refuses_form _ _ hyield)
  obtain ⟨b, hbody⟩ := (still_at? _).exists_of_bind hyield
  cases b with
  | true =>
    obtain ⟨y, _, hy, hclose⟩ := exists_of_bind hbody
    obtain ⟨_, _, -, hpure⟩ := exists_of_bind hclose
    obtain ⟨rfl, -⟩ := pure_eq_some hpure
    exact absurd hr (refuses_yielded hy)
  | false =>
    obtain ⟨first, mid, hfirst, hbehind⟩ := exists_of_bind hbody
    rcases exists_of_accept hbehind with htuple | ⟨_, _, -, -, htuple⟩
    swap
    · obtain ⟨_, _, -, hform⟩ := exists_of_bind htuple
      exact absurd hr (refuses_form _ _ hform)
    cases hunpacked : isUnpacked first with
    | true =>
      rw [hunpacked] at htuple
      cases htuple
    | false =>
      rw [hunpacked] at htuple
      obtain ⟨b, hclauses⟩ := still_atClause.exists_of_bind htuple
      split at hclauses
      · obtain ⟨_, _, -, hclose⟩ := exists_of_bind hclauses
        obtain ⟨_, _, -, hform⟩ := exists_of_bind hclose
        exact absurd hr (refuses_form _ _ hform)
      · obtain ⟨_, _, hclose, hpure⟩ := exists_of_bind hclauses
        obtain ⟨rfl, rfl⟩ := pure_eq_some hpure
        obtain ⟨closing, rest', hmid, hclosing, rfl⟩ := expect_ok hclose
        have hderived := admits_starredOrNamed h hfirst (hg.tail hrest) hr
        exact hderived.grouped hg hrest hspelled hmid hclosing rfl

/-- What begins with a sign or a reserved word is refused, unless it is what stands in brackets. -/
theorem admits_wordAtom (h : AdmitsAll self) (start : Position) (word : String) :
    Admits .atom (match some word with
      | some "(" => inRound self
      | some "[" => inSquare self
      | some "\x7b" => inBraces self
      | some word =>
        if constantWords.contains word then
          advance >>= fun _ => spanFrom start >>= fun s => pure (.constant s)
        else refuse
      | none => refuse) := by
  split
  · exact admits_inRound h
  · exact refuses_inSquare.admits .atom
  · exact refuses_inBraces.admits .atom
  · refine Refuses.admits ?_ .atom
    refine meets_ite (yields_bind fun _ => yields_bind fun _ => meets_pure fun _ => ?_) meets_refuse
    exact Option.some_ne_none _
  · exact meets_refuse

theorem admits_atom (h : AdmitsAll self) : Admits .atom (atom self) := by
  intro c ph c' hp hg hr
  obtain ⟨stop, tokens⟩ := c
  cases tokens with
  | nil => cases hp
  | cons t rest =>
    obtain ⟨lexeme, span⟩ := t
    have hpeek := of_here hp
    cases lexeme with
    | mark m => 
      cases m with
      | opening => exact admits_inRound h hpeek hg hr
      | _ => cases hpeek
    | whole n =>
      obtain ⟨rfl, rfl⟩ := pure_eq_some hpeek
      exact ⟨[_], _, rfl, .whole rfl, rfl, rfl⟩
    | real d =>
      obtain ⟨rfl, rfl⟩ := pure_eq_some hpeek
      exact ⟨[_], _, rfl, .real rfl, rfl, rfl⟩
    | name id =>
      obtain ⟨rfl, rfl⟩ := pure_eq_some hpeek
      exact ⟨[_], _, rfl, .name rfl, rfl, rfl⟩
    | other o =>
      cases o with
      | keyword word => exact admits_wordAtom h _ word hpeek hg hr
      | sign word => exact admits_wordAtom h _ word hpeek hg hr
      | imaginary =>
        obtain ⟨rfl, -⟩ := pure_eq_some hpeek
        cases hr
      | text => exact absurd hr (refuses_texts hpeek)
      | template => exact absurd hr (refuses_texts hpeek)

/-! ## 8. All rules -/

/-- **All rules admit what derives**, however deep they nest. -/
theorem admitsAll_run (depth : Nat) : AdmitsAll (run depth) := by
  induction depth with
  | zero => exact ⟨meets_refuse, meets_refuse, fun _ _ => meets_refuse, meets_refuse, meets_refuse⟩
  | succ depth ih =>
    exact ⟨admits_expression ih, admits_disjunction ih, admits_sum ih, admits_factor ih,
      admits_atom ih⟩

theorem admits_whole (h : AdmitsAll self) : Admits .expr (whole self) := by
  unfold whole
  refine meets_still still_here fun start => h.expression.passed fun first => ?_
  refine meets_still (still_at? _) fun b => meets_ite ?_ (passes_pure first)
  exact Refuses.passes (yields_bind fun _ => refuses_form _ _) first

end Grammar

/-- **The words of a phrase without a refusal derive from the grammar of formulas**, and write the
    formula that the phrase is. -/
theorem Phrase.exists_derives {length : Nat} {tokens : List Token} {ph : Phrase}
    (hg : ∀ t ∈ tokens, Grammar.Genuine t.lexeme) (h : Phrase.read length tokens = some ph)
    (hr : ph.refusal? = none) : ∃ o, Derives .expr tokens o ∧ ph.formula? = some o.formula := by
  unfold Phrase.read at h
  split at h
  · next read c hread =>
    split at h
    · next hempty =>
      obtain rfl := Option.some.inj h
      obtain ⟨ts, o, hts, ho, hformula, -⟩ :=
        Grammar.admits_whole (Grammar.admitsAll_run _) hread hg hr
      rw [List.isEmpty_iff.1 hempty, List.append_nil] at hts
      obtain rfl : tokens = ts := hts
      exact ⟨o, ho, hformula⟩
    · cases h
  · cases h

end VisualScale
