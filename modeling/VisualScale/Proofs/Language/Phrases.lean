import VisualScale.Proofs.Language.Lexing

/-!
# What is a formula is not refused

Words that derive from the grammar of formulas are a phrase of the wider grammar, too, and nothing
in it is refused. Each rule takes exactly the words that derive from a symbol, as long as none
follows that would go on with them (`Takes`); operations and what stands behind a primary are taken
turn by turn (`Turns`), as the derivation adds them from the left. Every rule that nests deeper
costs a unit of the depth; what twelve units for each word suffice for is counted in `Readable`.
-/

namespace VisualScale

open Reader (Operand Waiting callOperand operatorMark signMark)

namespace Grammar

/-! ## 1. Words of formulas -/

/-- How the words are written that may follow an expression. -/
def exprEnds : List (Option String) := [none, some ")", some ","]

/-- How the words are written that may follow a term. -/
def termEnds : List (Option String) := exprEnds ++ [some "+", some "-"]

/-- How the words are written that may follow a factor. -/
def factorEnds : List (Option String) := termEnds ++ [some "*", some "/"]

/-- How the words of formulas are written. -/
def formulaWords : List (Option String) := factorEnds ++ [some ".", some "("]

/-- How the first words are written of what derives from a symbol. -/
def firstWords : Symbol → List (Option String)
  | .expr | .term | .factor => [none, some "(", some "+", some "-"]
  | .primary | .callee | .atom => [none, some "("]

theorem mem_formulaWords_of_mark {t : Token} {m : Mark} (h : t.lexeme = .mark m) :
    spelling t.lexeme ∈ formulaWords := by
  rw [h]
  cases m <;> decide

/-- A word in a list of pieces is one of a piece, or a comma. -/
theorem mem_of_listed {pieces : List (List Token)} {us : List Token} (h : Listed pieces us)
    {t : Token} (ht : t ∈ us) : (∃ piece ∈ pieces, t ∈ piece) ∨ t.lexeme = .mark .comma := by
  induction h with
  | nil => cases ht
  | last ts => exact .inl ⟨ts, List.mem_cons_self, ht⟩
  | @cons ts us pieces comma hcomma _ ih =>
    rcases List.mem_append.1 ht with ht | ht
    · exact .inl ⟨ts, List.mem_cons_self, ht⟩
    rcases List.mem_cons.1 ht with rfl | ht
    · exact .inr hcomma
    rcases ih ht with ⟨piece, hmem, ht⟩ | ht
    · exact .inl ⟨piece, List.mem_cons_of_mem _ hmem, ht⟩
    · exact .inr ht

/-- Behind a word and more, fewer words are left. -/
theorem length_lt_of_cons_append (t : Token) (us rest : List Token) :
    rest.length < (t :: (us ++ rest)).length := by
  rw [List.length_cons, List.length_append]
  omega

theorem length_le_of_listed {pieces : List (List Token)} {us : List Token} (h : Listed pieces us)
    {piece : List Token} (hpiece : piece ∈ pieces) : piece.length ≤ us.length := by
  induction h with
  | nil => cases hpiece
  | last ts =>
    obtain rfl := List.mem_singleton.1 hpiece
    exact Nat.le_refl _
  | cons _ _ ih =>
    rw [List.length_append, List.length_cons]
    rcases List.mem_cons.1 hpiece with rfl | hpiece
    · exact Nat.le_add_right _ _
    · have := ih hpiece
      omega

end Grammar

section

open Grammar

variable {symbol : Symbol} {ts : List Token} {o : Operand}

/-- The words of a derivation are names, numbers and marks. -/
theorem Derives.mem_formulaWords (h : Derives symbol ts o) :
    ∀ t ∈ ts, spelling t.lexeme ∈ formulaWords := by
  have hnone {t : Token} (ht : spelling t.lexeme = none) : spelling t.lexeme ∈ formulaWords := by
    rw [ht]
    decide
  induction h with
  | term _ ih | factor _ ih | primary _ ih | atom _ ih => exact ih
  | sum _ _ ht _ ihl ihr | product _ _ ht _ ihl ihr =>
    exact List.forall_mem_append.2 ⟨ihl, List.forall_mem_cons.2 ⟨mem_formulaWords_of_mark ht, ihr⟩⟩
  | signed ht _ ih => exact List.forall_mem_cons.2 ⟨mem_formulaWords_of_mark ht, ih⟩
  | component _ hdot ht ih =>
    refine List.forall_mem_append.2 ⟨ih, List.forall_mem_cons.2 ⟨mem_formulaWords_of_mark hdot, ?_⟩⟩
    exact List.forall_mem_singleton.2 (hnone (congrArg spelling ht))
  | call _ hopening _ hlisted hclosing ihcallee ihargs =>
    have hpieces : ∀ t : Token, t ∈ _ → spelling t.lexeme ∈ formulaWords := fun t ht => by
      rcases mem_of_listed hlisted ht with ⟨piece, hpiece, ht⟩ | hcomma
      · obtain ⟨a, ha, rfl⟩ := List.mem_map.1 hpiece
        exact ihargs a ha t ht
      · exact mem_formulaWords_of_mark hcomma
    refine List.forall_mem_append.2 ⟨ihcallee, List.forall_mem_cons.2
      ⟨mem_formulaWords_of_mark hopening, List.forall_mem_append.2 ⟨hpieces, ?_⟩⟩⟩
    exact List.forall_mem_singleton.2 (mem_formulaWords_of_mark hclosing)
  | calleeGroup hopening _ hclosing ih | group hopening _ hclosing ih =>
    refine List.forall_mem_cons.2
      ⟨mem_formulaWords_of_mark hopening, List.forall_mem_append.2 ⟨ih, ?_⟩⟩
    exact List.forall_mem_singleton.2 (mem_formulaWords_of_mark hclosing)
  | calleeName ht | name ht | whole ht | real ht =>
    exact List.forall_mem_singleton.2 (hnone (congrArg spelling ht))

/-- What derives from a symbol begins with one of its first words. -/
theorem Derives.exists_first (h : Derives symbol ts o) :
    ∃ t us, ts = t :: us ∧ spelling t.lexeme ∈ firstWords symbol := by
  have append {symbol symbol' : Symbol} (hsub : firstWords symbol ⊆ firstWords symbol')
      {ts : List Token} (us : List Token)
      (h : ∃ t us, ts = t :: us ∧ spelling t.lexeme ∈ firstWords symbol) :
      ∃ t vs, ts ++ us = t :: vs ∧ spelling t.lexeme ∈ firstWords symbol' := by
    obtain ⟨t, vs, rfl, ht⟩ := h
    exact ⟨t, vs ++ us, rfl, hsub ht⟩
  induction h with
  | term _ ih | factor _ ih | atom _ ih => exact ih
  | primary _ ih =>
    obtain ⟨t, us, hts, ht⟩ := ih
    exact ⟨t, us, hts, (by decide : firstWords .primary ⊆ firstWords .factor) ht⟩
  | sum _ _ _ _ ihl | product _ _ _ _ ihl | component _ _ _ ihl =>
    exact append (List.Subset.refl _) _ ihl
  | call _ _ _ _ _ ih => exact append (List.Subset.refl _) _ ih
  | @signed ts o t sign ht h ih =>
    refine ⟨_, _, rfl, ?_⟩
    rw [ht]
    cases sign <;> decide
  | calleeName ht | name ht | whole ht | real ht =>
    refine ⟨_, _, rfl, ?_⟩
    rw [ht]
    exact List.mem_cons_self
  | calleeGroup hopening _ _ | group hopening _ _ =>
    refine ⟨_, _, rfl, ?_⟩
    rw [hopening]
    decide

/-- What derives from a symbol begins with one of its first words, whatever follows. -/
theorem Derives.word?_mem (h : Derives symbol ts o) (stop : Position) (rest : List Token) :
    (⟨stop, ts ++ rest⟩ : Cursor).word? ∈ firstWords symbol := by
  obtain ⟨t, us, rfl, ht⟩ := h.exists_first
  exact ht

theorem Derives.word?_ne (h : Derives symbol ts o) {text : String}
    (htext : some text ∉ firstWords symbol) (stop : Position) (rest : List Token) :
    (⟨stop, ts ++ rest⟩ : Cursor).word? ≠ some text :=
  fun hword => htext (hword ▸ h.word?_mem stop rest)

/-- The second word of a derivation, or of it and what follows, is a word of formulas. -/
theorem Derives.second_ne (h : Derives symbol ts o) {text : String}
    (htext : some text ∉ formulaWords) {stop : Position} {rest : List Token}
    (hrest : (⟨stop, rest⟩ : Cursor).word? ∈ formulaWords) :
    (⟨stop, ts ++ rest⟩ : Cursor).second? ≠ some text := by
  obtain ⟨t, us, rfl, -⟩ := h.exists_first
  intro hword
  cases us with
  | nil =>
    have hspelled : (⟨stop, rest⟩ : Cursor).word? = some text := by
      rw [← hword]
      cases rest <;> rfl
    exact htext (hspelled ▸ hrest)
  | cons u us =>
    have hspelled : spelling u.lexeme = some text := hword
    exact htext (hspelled ▸ h.mem_formulaWords u (List.mem_cons_of_mem _ List.mem_cons_self))

end

/-! ## 2. Readers that take words, and readers that leave them -/

namespace Grammar

variable {symbol : Symbol} {ts : List Token} {o : Operand}

/-- Before one of the ends, the reader takes no word and gives a value. -/
def Leaves {α : Type} (ends : List (Option String)) (a : α) (p : Reader α) : Prop :=
  ∀ ⦃c : Cursor⦄, c.word? ∈ ends → p c = some (a, c)

/-- Where the operand is a name, so is the phrase. -/
def Named (o : Operand) (ph : Phrase) : Prop :=
  ∀ id s, o.formula = .name id s → ∃ s', ph = .name id s'

/-- Before one of the ends, the reader takes the words and gives a phrase without a refusal. -/
def Takes (p : Reader Phrase) (ts : List Token) (o : Operand) (ends : List (Option String)) :
    Prop :=
  ∀ stop rest, (⟨stop, rest⟩ : Cursor).word? ∈ ends → ∃ ph stop',
    p ⟨stop, ts ++ rest⟩ = some (ph, ⟨stop', rest⟩) ∧ ph.refusal? = none ∧ Named o ph

section

variable {α β : Type} {ends ends' : List (Option String)} {a : α} {b : β} {text : String}
  {p q : Reader Phrase}

theorem leaves_pure (a : α) : Leaves ends a (pure a) := fun _ _ => rfl

theorem leaves_bind {p : Reader α} {k : α → Reader β} (h : Leaves ends a p)
    (hk : Leaves ends b (k a)) : Leaves ends b (p >>= k) :=
  fun _ hc => bind_eq_some (h hc) (hk hc)

theorem leaves_at? (h : some text ∉ ends) : Leaves ends false (at? text) :=
  fun _ hc => at?_of_ne fun hw => h (hw ▸ hc)

theorem leaves_accept (h : some text ∉ ends) : Leaves ends false (accept text) :=
  fun _ hc => accept_of_ne fun hw => h (hw ▸ hc)

theorem leaves_atClause : Leaves exprEnds false atClause :=
  leaves_bind (leaves_at? (by decide)) (leaves_bind (leaves_at? (by decide)) (leaves_pure false))

theorem leaves_operatorAt (ends : List (Option String)) {entries : List (String × String × Bool)}
    (h : ∀ e ∈ entries, some e.1 ∉ ends) : Leaves ends none (operatorAt entries) := by
  intro c hc
  rw [operatorAt_eq]
  have hnone :
      (c.word?.bind fun text => (entries.find? fun e => e.1 == text).map (·.2)) = none := by
    refine Option.bind_eq_none_iff.2 fun text hword => Option.map_eq_none_iff.2 ?_
    refine List.find?_eq_none.2 fun e he hspelled => h e he ?_
    rw [eq_of_beq hspelled, ← hword]
    exact hc
  rw [hnone]

theorem leaves_acceptComparison : Leaves exprEnds false acceptComparison := by
  intro c hc
  refine (bind_of_some (peek_eq c)).trans ?_
  unfold Cursor.word? at hc
  generalize (c.rest.head?.map Token.lexeme).bind spelling = word? at hc
  have hcases : word? = none ∨ word? = some ")" ∨ word? = some "," := by simpa [exprEnds] using hc
  rcases hcases with rfl | rfl | rfl <;> rfl

theorem takes_still {r : Reader α} {k : α → Reader Phrase} (hr : Still r)
    (hk : ∀ a, Takes (k a) ts o ends) : Takes (r >>= k) ts o ends := by
  intro stop rest hrest
  obtain ⟨a, ha⟩ := hr ⟨stop, ts ++ rest⟩
  rw [bind_of_some ha]
  exact hk a stop rest hrest

/-- A word that is not the first one is passed over. -/
theorem takes_accept (h : Derives symbol ts o) (htext : some text ∉ firstWords symbol)
    (hq : Takes q ts o ends) :
    Takes (accept text >>= fun b => if b = true then p else q) ts o ends := by
  intro stop rest hrest
  rw [bind_of_some (accept_of_ne (h.word?_ne htext stop rest))]
  exact hq stop rest hrest

theorem takes_at? (h : Derives symbol ts o) (htext : some text ∉ firstWords symbol)
    (hq : Takes q ts o ends) :
    Takes (at? text >>= fun b => if b = true then p else q) ts o ends := by
  intro stop rest hrest
  rw [bind_of_some (at?_of_ne (h.word?_ne htext stop rest))]
  exact hq stop rest hrest

/-- What is taken stays so when it is passed on. -/
theorem Takes.passed {k : Phrase → Reader Phrase} (h : Takes p ts o ends)
    (hk : ∀ ph, Leaves ends ph (k ph)) : Takes (p >>= k) ts o ends := by
  intro stop rest hrest
  obtain ⟨ph, stop', hp, hr, hname⟩ := h stop rest hrest
  have hrest' : (⟨stop', rest⟩ : Cursor).word? ∈ ends := hrest
  exact ⟨ph, stop', bind_eq_some hp (hk ph hrest'), hr, hname⟩

theorem Takes.mono (h : Takes p ts o ends) (hends : ends' ⊆ ends) : Takes p ts o ends' :=
  fun stop rest hrest => h stop rest (hends hrest)

end

/-! ## 3. Expressions -/

variable {self : Rules}

theorem takes_separated {word kind : String} {item : Reader Phrase} (hword : some word ∉ exprEnds)
    (h : Takes item ts o exprEnds) : Takes (separated word kind item) ts o exprEnds := by
  unfold separated
  refine takes_still still_here fun start => h.passed fun first => ?_
  exact leaves_bind (leaves_at? hword) (leaves_pure first)

theorem takes_disjunction (hts : Derives .expr ts o)
    (h : Takes (self (.sum operatorLevels)) ts o exprEnds) :
    Takes (disjunction self) ts o exprEnds := by
  have hcomparison : Takes (comparison self) ts o exprEnds := by
    unfold comparison
    refine takes_still still_here fun start => Takes.passed h fun first => ?_
    exact leaves_bind leaves_acceptComparison (leaves_pure first)
  have hinversion : Takes (inversion self) ts o exprEnds := by
    unfold inversion
    exact takes_still still_here fun start => takes_accept hts (by decide) hcomparison
  exact takes_separated (by decide) (takes_separated (by decide) hinversion)

theorem takes_expression (hts : Derives .expr ts o) (h : Takes (self .disjunction) ts o exprEnds) :
    Takes (expression self) ts o exprEnds := by
  unfold expression
  refine takes_at? hts (by decide) ?_
  refine takes_still still_here fun start => h.passed fun first => ?_
  exact leaves_bind (leaves_accept (by decide)) (leaves_pure first)

theorem takes_namedExpression (hts : Derives .expr ts o)
    (h : Takes (self .expression) ts o exprEnds) : Takes (namedExpression self) ts o exprEnds := by
  have hplain : Takes (self .expression >>= fun e => at? ":=" >>= fun b =>
      if b = true then refuse else pure e) ts o exprEnds :=
    h.passed fun e => leaves_bind (leaves_at? (by decide)) (leaves_pure e)
  unfold namedExpression
  refine takes_still still_here fun start => ?_
  intro stop rest hrest
  have hformula := (by decide : exprEnds ⊆ formulaWords) hrest
  have hunnamed : nameBefore ":=" ⟨stop, ts ++ rest⟩ = some (false, ⟨stop, ts ++ rest⟩) :=
    nameBefore_of_ne (hts.second_ne (by decide) hformula)
  obtain ⟨ph, stop', hph, hr, hname⟩ := hplain stop rest hrest
  exact ⟨ph, stop', bind_eq_some hunnamed hph, hr, hname⟩

theorem takes_starredOrNamed (hts : Derives .expr ts o)
    (h : Takes (self .expression) ts o exprEnds) : Takes (starredOrNamed self) ts o exprEnds := by
  unfold starredOrNamed
  refine takes_still still_here fun start => takes_accept hts (by decide) ?_
  exact takes_namedExpression hts h

/-! ## 4. Operations -/

/-- The words are taken as a first operand, and then operation after operation. -/
def TakesOperations (self : Rules) (entries : List (String × String × Bool))
    (tighter : List (List (String × String × Bool))) (ts : List Token) (o : Operand)
    (ends : List (Option String)) : Prop :=
  ∀ start stop rest, (⟨stop, rest⟩ : Cursor).word? ∈ ends → ∃ first mid ph stop',
    self (.sum tighter) ⟨stop, ts ++ rest⟩ = some (first, mid) ∧
      Turns (behindOperand self entries tighter start) first mid ph ⟨stop', rest⟩ ∧
      ph.refusal? = none ∧ Named o ph

section

variable {entries : List (String × String × Bool)} {tighter : List (List (String × String × Bool))}
  {ends ends' : List (Option String)} {us : List Token} {l r : Operand} {t : Token} {op : Operator}

/-- One operand, and no operation. -/
theorem Takes.takesOperations (h : Takes (self (.sum tighter)) ts o ends) :
    TakesOperations self entries tighter ts o ends := by
  intro start stop rest hrest
  obtain ⟨ph, stop', hph, hr, hname⟩ := h stop rest hrest
  exact ⟨ph, _, ph, stop', hph, .refl, hr, hname⟩

/-- The entries have an operator of formulas under a name. -/
def HasOperator (entries : List (String × String × Bool)) (op : Operator) : Prop :=
  ∃ text name, spelling (.mark (operatorMark op)) = some text ∧
    entries.find? (fun e => e.1 == text) = some (text, name, true)

/-- One more operation. -/
theorem TakesOperations.operation (hl : TakesOperations self entries tighter ts l ends)
    (hop : HasOperator entries op) (ht : t.lexeme = .mark (operatorMark op))
    (hends : spelling t.lexeme ∈ ends) (hr : Takes (self (.sum tighter)) us r ends) :
    TakesOperations self entries tighter (ts ++ t :: us) ((Waiting.mk l op).complete r) ends := by
  intro start stop rest hrest
  obtain ⟨text, name, htext, hfind⟩ := hop
  obtain ⟨first, mid, left, stop', hfirst, hturns, hleft, -⟩ :=
    hl start stop (t :: (us ++ rest)) hends
  obtain ⟨right, stop'', hright, hrefusal, -⟩ := hr t.span.stop rest hrest
  have hoperator : operatorAt entries ⟨stop', t :: (us ++ rest)⟩ =
      some (some (name, true), ⟨stop', t :: (us ++ rest)⟩) := by
    have hword : (⟨stop', t :: (us ++ rest)⟩ : Cursor).word? = some text :=
      (congrArg spelling ht).trans htext
    rw [operatorAt_eq, hword]
    show some ((entries.find? fun e => e.1 == text).map (·.2), _) = _
    rw [hfind]
    rfl
  have hturn : behindOperand self entries tighter start left ⟨stop', t :: (us ++ rest)⟩ =
      some (some (.binary name true left right ⟨start, stop''⟩), ⟨stop'', rest⟩) :=
    bind_eq_some hoperator (bind_eq_some rfl (bind_eq_some hright rfl))
  have hless := length_lt_of_cons_append t us rest
  refine ⟨first, mid, _, stop'', ?_, hturns.snoc hturn hless, ?_, fun _ _ h => nomatch h⟩
  · rw [List.append_assoc]
    exact hfirst
  · exact Option.or_eq_none_iff.2 ⟨hleft, hrefusal⟩

/-- Operations up to a word that goes on with none of the level. -/
theorem TakesOperations.takes (h : TakesOperations self entries tighter ts o ends)
    (hends : ends' ⊆ ends) (hentries : ∀ e ∈ entries, some e.1 ∉ ends') :
    Takes (sum self (entries :: tighter)) ts o ends' := by
  refine takes_still still_here fun start => ?_
  intro stop rest hrest
  obtain ⟨first, mid, ph, stop', hfirst, hturns, hr, hname⟩ := h start stop rest (hends hrest)
  have hend : behindOperand self entries tighter start ph ⟨stop', rest⟩ =
      some (none, ⟨stop', rest⟩) :=
    bind_eq_some (leaves_operatorAt ends' hentries hrest) rfl
  exact ⟨ph, stop', bind_eq_some hfirst (repeated_of_turns hturns hend), hr, hname⟩

/-- Levels without operators of formulas. -/
theorem takes_level (h : Takes (self (.sum tighter)) ts o exprEnds)
    (hentries : ∀ e ∈ entries, some e.1 ∉ exprEnds) :
    Takes (sum self (entries :: tighter)) ts o exprEnds :=
  TakesOperations.takes h.takesOperations (List.Subset.refl _) hentries

end

/-! ## 5. Arguments -/

/-- The arguments are plain ones without a refusal. -/
def Arguments.Plain (a : Arguments) : Prop := a.phase = .plain ∧ a.Unrefused

theorem Arguments.Plain.snoc {a : Arguments} (h : a.Plain) {e : Phrase} (he : e.refusal? = none) :
    Arguments.Plain { a with args := a.args ++ [e] } := by
  refine ⟨h.1, h.2.1, fun e' he' => ?_⟩
  rcases List.mem_append.1 he' with he' | he'
  · exact h.2.2 e' he'
  · obtain rfl := List.mem_singleton.1 he'
    exact he

/-- What derives from an expression, and is taken as one. -/
def TakesExpression (self : Rules) (ts : List Token) : Prop :=
  ∃ o, Derives .expr ts o ∧ Takes (self .expression) ts o exprEnds

theorem argument_of_takes (h : TakesExpression self ts) {a : Arguments} (ha : a.Plain)
    (stop : Position) {rest : List Token} (hrest : (⟨stop, rest⟩ : Cursor).word? ∈ exprEnds) :
    ∃ a' stop', argument self a ⟨stop, ts ++ rest⟩ = some (a', ⟨stop', rest⟩) ∧ a'.Plain := by
  obtain ⟨o, hts, htakes⟩ := h
  obtain ⟨e, stop', he, hr, -⟩ := takes_namedExpression hts htakes stop rest hrest
  refine ⟨{ a with args := a.args ++ [e] }, stop', ?_, ha.snoc hr⟩
  obtain ⟨phase, args, keywords⟩ := a
  obtain rfl : phase = .plain := ha.1
  have hformula := (by decide : exprEnds ⊆ formulaWords) hrest
  refine bind_eq_some rfl ?_
  refine bind_eq_some (accept_of_ne (hts.word?_ne (by decide) stop rest)) ?_
  refine bind_eq_some (accept_of_ne (hts.word?_ne (by decide) stop rest)) ?_
  refine bind_eq_some (nameBefore_of_ne (hts.second_ne (by decide) hformula)) ?_
  exact bind_eq_some he rfl

/-- The words that end a list of arguments are an expression's ends. -/
theorem mem_exprEnds_of_mark {t : Token} {m : Mark} (h : t.lexeme = .mark m)
    (hm : m = .closing ∨ m = .comma) (stop : Position) (rest : List Token) :
    (⟨stop, t :: rest⟩ : Cursor).word? ∈ exprEnds := by
  have hword : (⟨stop, t :: rest⟩ : Cursor).word? = spelling (.mark m) := congrArg spelling h
  rw [hword]
  rcases hm with rfl | rfl <;> decide

section

variable {pieces : List (List Token)} {us rest : List Token} {closing comma : Token}
  {a first : Arguments} {stop : Position} {c : Cursor}

/-- Behind an argument, without a comma, comes the end. -/
theorem nextArgument_closing (hclosing : closing.lexeme = .mark .closing) :
    nextArgument self a ⟨stop, closing :: rest⟩ = some (none, ⟨stop, closing :: rest⟩) := by
  have hword : (⟨stop, closing :: rest⟩ : Cursor).word? = some ")" := congrArg spelling hclosing
  exact bind_eq_some (accept_of_ne (by rw [hword]; decide)) rfl

/-- Behind a comma comes another argument. -/
theorem nextArgument_of_takes (h : TakesExpression self ts) (hcomma : comma.lexeme = .mark .comma)
    (ha : a.Plain) (stop : Position) (hrest : (⟨stop, rest⟩ : Cursor).word? ∈ exprEnds) :
    ∃ a' stop', nextArgument self a ⟨stop, comma :: (ts ++ rest)⟩ = some (some a', ⟨stop', rest⟩) ∧
      a'.Plain := by
  obtain ⟨a', stop', ha', hplain⟩ := argument_of_takes h ha comma.span.stop hrest
  obtain ⟨o, hts, -⟩ := h
  have hspelled : spelling comma.lexeme = some "," := congrArg spelling hcomma
  refine ⟨a', stop', bind_eq_some (accept_of_eq hspelled) ?_, hplain⟩
  refine bind_eq_some (at?_of_ne (hts.word?_ne ?_ comma.span.stop rest)) (bind_eq_some ha' rfl)
  decide

/-- Turn by turn, further arguments are taken, up to the closing bracket. -/
def TakesOthers (self : Rules) (first : Arguments) (c : Cursor) (rest : List Token) : Prop :=
  ∃ a mid stop, Turns (nextArgument self) first c a mid ∧
    nextArgument self a mid = some (none, ⟨stop, rest⟩) ∧ a.Plain

/-- The other arguments stand behind a comma. -/
theorem takesOthers_of_listed (h : Listed pieces us)
    (hpieces : ∀ piece ∈ pieces, TakesExpression self piece)
    (hclosing : closing.lexeme = .mark .closing) (hcomma : comma.lexeme = .mark .comma)
    (hturns : Turns (nextArgument self) first c a ⟨stop, comma :: (us ++ closing :: rest)⟩)
    (ha : a.Plain) : TakesOthers self first c (closing :: rest) := by
  have hends := mem_exprEnds_of_mark hclosing (.inl rfl) stop rest
  -- By induction on the pieces that are left, while the turns taken so far grow at their end.
  induction h generalizing comma a stop with
  | nil =>
    refine ⟨a, _, comma.span.stop, hturns, ?_, ha⟩
    have hspelled : spelling comma.lexeme = some "," := congrArg spelling hcomma
    have hclosed : (⟨comma.span.stop, closing :: rest⟩ : Cursor).word? = some ")" :=
      congrArg spelling hclosing
    exact bind_eq_some (accept_of_eq hspelled) (bind_eq_some (at?_of_eq hclosed) rfl)
  | last ts =>
    obtain ⟨a', stop', hturn, ha'⟩ :=
      nextArgument_of_takes (hpieces ts List.mem_cons_self) hcomma ha stop hends
    have hless := length_lt_of_cons_append comma ts (closing :: rest)
    exact ⟨a', _, stop', hturns.snoc hturn hless, nextArgument_closing hclosing, ha'⟩
  | @cons ts us pieces comma' hcomma' _ ih =>
    have hends' := mem_exprEnds_of_mark hcomma' (.inr rfl) stop (us ++ closing :: rest)
    obtain ⟨a', stop', hturn, ha'⟩ :=
      nextArgument_of_takes (hpieces ts List.mem_cons_self) hcomma ha stop hends'
    rw [List.append_assoc] at hturns
    have hless := length_lt_of_cons_append comma ts (comma' :: (us ++ closing :: rest))
    exact ih (fun piece hpiece => hpieces piece (List.mem_cons_of_mem _ hpiece)) hcomma'
      (hturns.snoc hturn hless) ha' hends

theorem isUnpacked_of_unrefused {ph : Phrase} (h : ph.refusal? = none) : isUnpacked ph = false := by
  cases ph with
  | unpacked => cases h
  | _ => rfl

/-- The first argument, the others turn by turn, and the closing bracket. -/
theorem arguments_of_first (h : TakesExpression self ts)
    (hclosing : spelling closing.lexeme = some ")") (opening : Position) {others : List Token}
    (hothers : (⟨stop, others⟩ : Cursor).word? ∈ exprEnds)
    (hturns : ∀ first stop', first.Plain →
      TakesOthers self first ⟨stop', others⟩ (closing :: rest)) :
    ∃ a, arguments self opening ⟨stop, ts ++ others⟩ = some (a, ⟨closing.span.stop, rest⟩) ∧
      a.Unrefused := by
  have hnothing : Arguments.Plain ⟨.plain, [], false⟩ := ⟨rfl, rfl, fun _ h => nomatch h⟩
  obtain ⟨first, stop', hfirst, hplain⟩ := argument_of_takes h hnothing stop hothers
  obtain ⟨a, mid, stop'', hloop, hend, ha⟩ := hturns first stop' hplain
  obtain ⟨o, hts, -⟩ := h
  have hopen : accept ")" ⟨stop, ts ++ others⟩ = some (false, ⟨stop, ts ++ others⟩) :=
    accept_of_ne (hts.word?_ne (by decide) stop others)
  have hothers' : (⟨stop', others⟩ : Cursor).word? ∈ exprEnds := hothers
  have hclause : atClause ⟨stop', others⟩ = some (false, ⟨stop', others⟩) :=
    leaves_atClause hothers'
  refine ⟨a, bind_eq_some hopen (bind_eq_some hfirst (bind_eq_some hclause ?_)), ha.2⟩
  rw [Bool.and_false]
  exact bind_eq_some (repeated_of_turns hloop hend) (bind_eq_some (expect_of_eq hclosing) rfl)

/-- **What is listed between brackets is taken as arguments**, and the closing bracket as well. -/
theorem arguments_of_listed (h : Listed pieces us)
    (hpieces : ∀ piece ∈ pieces, TakesExpression self piece)
    (hclosing : closing.lexeme = .mark .closing) (opening stop : Position) (rest : List Token) :
    ∃ a, arguments self opening ⟨stop, us ++ closing :: rest⟩ =
      some (a, ⟨closing.span.stop, rest⟩) ∧ a.Unrefused := by
  have hspelled : spelling closing.lexeme = some ")" := congrArg spelling hclosing
  cases h with
  | nil =>
    have hempty : Arguments.Unrefused ⟨.plain, [], false⟩ := ⟨rfl, fun _ h => nomatch h⟩
    exact ⟨_, bind_eq_some (accept_of_eq hspelled) rfl, hempty⟩
  | last =>
    have hends := mem_exprEnds_of_mark hclosing (.inl rfl) stop rest
    refine arguments_of_first (hpieces us List.mem_cons_self) hspelled opening hends ?_
    exact fun first stop' hfirst => ⟨first, _, _, .refl, nextArgument_closing hclosing, hfirst⟩
  | @cons ts us pieces comma hcomma h =>
    have hends := mem_exprEnds_of_mark hcomma (.inr rfl) stop (us ++ closing :: rest)
    rw [List.append_assoc]
    refine arguments_of_first (hpieces ts List.mem_cons_self) hspelled opening hends ?_
    have hothers (piece : List Token) (hpiece : piece ∈ pieces) : TakesExpression self piece :=
      hpieces piece (List.mem_cons_of_mem _ hpiece)
    exact fun first stop' hfirst => takesOthers_of_listed h hothers hclosing hcomma .refl hfirst

end

/-! ## 6. Primaries and factors -/

/-- The words are taken as an atom, and then turn by turn what stands behind it. -/
def TakesPrimary (self : Rules) (ts : List Token) (o : Operand) : Prop :=
  ∀ start stop rest, (⟨stop, rest⟩ : Cursor).word? ∈ formulaWords → ∃ first mid value stop',
    self .atom ⟨stop, ts ++ rest⟩ = some (first, mid) ∧
      Turns (behindPrimary self start) (first, .atom) mid value ⟨stop', rest⟩ ∧
      value.1.refusal? = none ∧ Named o value.1

/-- An atom alone. -/
theorem Takes.takesPrimary (h : Takes (self .atom) ts o formulaWords) : TakesPrimary self ts o := by
  intro start stop rest hrest
  obtain ⟨ph, stop', hph, hr, hname⟩ := h stop rest hrest
  exact ⟨ph, _, (ph, .atom), stop', hph, .refl, hr, hname⟩

section

variable {dot t opening closing : Token} {field function : String} {span extent : Span}

/-- A member. -/
theorem TakesPrimary.component (h : TakesPrimary self ts o) (hdot : dot.lexeme = .mark .dot)
    (ht : t.lexeme = .name field) :
    TakesPrimary self (ts ++ [dot, t]) (o.component field t.span.stop) := by
  intro start stop rest hrest
  obtain ⟨lexeme, tspan⟩ := t
  obtain rfl : lexeme = .name field := ht
  have hspelled : spelling dot.lexeme = some "." := congrArg spelling hdot
  have hdot' : (⟨stop, dot :: ⟨.name field, tspan⟩ :: rest⟩ : Cursor).word? ∈ formulaWords :=
    mem_formulaWords_of_mark hdot
  obtain ⟨first, mid, value, stop', hfirst, hturns, hr, -⟩ := h start stop _ hdot'
  have hturn : behindPrimary self start value ⟨stop', dot :: ⟨.name field, tspan⟩ :: rest⟩ =
      some (some (.member value.1 field ⟨start, tspan.stop⟩, .member), ⟨tspan.stop, rest⟩) :=
    bind_eq_some rfl (bind_eq_some (accept_of_eq hspelled) rfl)
  have hless : rest.length < rest.length + 1 + 1 := Nat.lt_succ_of_lt (Nat.lt_succ_self _)
  refine ⟨first, mid, _, _, ?_, hturns.snoc hturn hless, hr, fun _ _ h => nomatch h⟩
  rw [List.append_assoc]
  exact hfirst

/-- A call of a name. -/
theorem TakesPrimary.call {pieces : List (List Token)} {us : List Token} {o' : Operand}
    (h : TakesPrimary self ts ⟨.name function span, extent⟩)
    (hopening : opening.lexeme = .mark .opening)
    (hlisted : Listed pieces us) (hpieces : ∀ piece ∈ pieces, TakesExpression self piece)
    (hclosing : closing.lexeme = .mark .closing) (ho' : ∀ id s, o'.formula ≠ .name id s) :
    TakesPrimary self (ts ++ opening :: (us ++ [closing])) o' := by
  intro start stop rest hrest
  have hspelled : spelling opening.lexeme = some "(" := congrArg spelling hopening
  have hopening' : (⟨stop, opening :: (us ++ closing :: rest)⟩ : Cursor).word? ∈ formulaWords :=
    mem_formulaWords_of_mark hopening
  obtain ⟨first, mid, value, stop', hfirst, hturns, -, hname⟩ := h start stop _ hopening'
  obtain ⟨callee, ends⟩ := value
  obtain ⟨s, rfl⟩ := hname function span rfl
  obtain ⟨a, ha, hkeywords, hargs⟩ :=
    arguments_of_listed hlisted hpieces hclosing opening.span.start opening.span.stop rest
  have hturn : behindPrimary self start (.name function s, ends)
      ⟨stop', opening :: (us ++ closing :: rest)⟩ =
      some (some (.call (.name function s) a.args a.keywords ⟨start, closing.span.stop⟩, .call),
        ⟨closing.span.stop, rest⟩) := by
    refine bind_eq_some rfl (bind_eq_some (accept_of_ne ?_) ?_)
    · show spelling opening.lexeme ≠ some "."
      rw [hspelled]
      decide
    · exact bind_eq_some (accept_of_eq hspelled) (bind_eq_some ha rfl)
  have hless : rest.length < (opening :: (us ++ closing :: rest)).length :=
    Nat.lt_trans (Nat.lt_succ_self _) (length_lt_of_cons_append opening us (closing :: rest))
  refine ⟨first, mid, _, _, ?_, hturns.snoc hturn hless, ?_, fun id s h => absurd h (ho' id s)⟩
  · rw [List.append_assoc, List.cons_append, List.append_assoc]
    exact hfirst
  · show (if a.keywords then _ else Phrase.argumentRefusal? _ a.args) = none
    rw [hkeywords]
    exact argumentRefusal?_eq_none.2 hargs

/-- A primary is a factor. -/
theorem TakesPrimary.takes (h : TakesPrimary self ts o) (hts : Derives .primary ts o) :
    Takes (factor self) ts o factorEnds := by
  have hprimary (stop : Position) (rest : List Token)
      (hrest : (⟨stop, rest⟩ : Cursor).word? ∈ factorEnds) : ∃ value stop',
      primaryWithEnd self ⟨stop, ts ++ rest⟩ = some (value, ⟨stop', rest⟩) ∧
        value.1.refusal? = none ∧ Named o value.1 := by
    obtain ⟨start, hstart⟩ := still_here ⟨stop, ts ++ rest⟩
    have hformula := (by decide : factorEnds ⊆ formulaWords) hrest
    obtain ⟨first, mid, value, stop', hfirst, hturns, hr, hname⟩ := h start stop rest hformula
    have hrest' : (⟨stop', rest⟩ : Cursor).word? ∈ factorEnds := hrest
    have hend : behindPrimary self start value ⟨stop', rest⟩ = some (none, ⟨stop', rest⟩) :=
      bind_eq_some rfl (bind_eq_some (leaves_accept (by decide) hrest')
        (bind_eq_some (leaves_accept (by decide) hrest')
          (bind_eq_some (leaves_accept (by decide) hrest') rfl)))
    have hloop : repeated (behindPrimary self start) (first, .atom) mid =
        some (value, ⟨stop', rest⟩) :=
      repeated_of_turns hturns hend
    exact ⟨value, stop', bind_eq_some hstart (bind_eq_some hfirst hloop), hr, hname⟩
  have hawaited : Takes (awaited self) ts o factorEnds := by
    refine takes_still still_here fun start => takes_accept hts (by decide) ?_
    intro stop rest hrest
    obtain ⟨value, stop', hvalue, hr, hname⟩ := hprimary stop rest hrest
    exact ⟨value.1, stop', bind_eq_some hvalue rfl, hr, hname⟩
  have hpower (start : Position) : Takes (awaited self >>= fun base => accept "**" >>= fun b =>
      if b = true then self .factor >>= fun power => spanFrom start >>= fun s =>
        pure (.binary "Pow" false base power s) else pure base) ts o factorEnds :=
    hawaited.passed fun base => leaves_bind (leaves_accept (by decide)) (leaves_pure base)
  refine takes_still still_here fun start => ?_
  intro stop rest hrest
  have hnosign : operatorAt signOperators ⟨stop, ts ++ rest⟩ = some (none, ⟨stop, ts ++ rest⟩) :=
    leaves_operatorAt (firstWords .primary) (by decide) (hts.word?_mem stop rest)
  obtain ⟨ph, stop', hph, hr, hname⟩ := hpower start stop rest hrest
  exact ⟨ph, stop', bind_eq_some hnosign hph, hr, hname⟩

/-- A sign before a factor. -/
theorem takes_signed {sign : Sign} (h : Takes (self .factor) ts o factorEnds)
    (ht : t.lexeme = .mark (signMark sign)) :
    Takes (factor self) (t :: ts) (o.signed sign t.span.start) factorEnds := by
  intro stop rest hrest
  obtain ⟨operand, stop', hoperand, hr, -⟩ := h t.span.stop rest hrest
  have hsign : ∃ name, operatorAt signOperators ⟨stop, t :: (ts ++ rest)⟩ =
      some (some (name, true), ⟨stop, t :: (ts ++ rest)⟩) := by
    obtain ⟨lexeme, span⟩ := t
    obtain rfl : lexeme = .mark (signMark sign) := ht
    cases sign <;> exact ⟨_, rfl⟩
  obtain ⟨name, hsign⟩ := hsign
  refine ⟨.unary name true operand ⟨t.span.start, stop'⟩, stop', ?_, hr, fun _ _ h => nomatch h⟩
  exact bind_eq_some rfl (bind_eq_some hsign (bind_eq_some rfl (bind_eq_some hoperand rfl)))

end

/-! ## 7. Atoms -/

section

variable {t opening closing : Token}

theorem takes_whole {n : Nat} (h : t.lexeme = .whole n) :
    Takes (atom self) [t] (.word (.whole n t.span)) formulaWords := by
  intro stop rest _
  obtain ⟨lexeme, span⟩ := t
  obtain rfl : lexeme = .whole n := h
  exact ⟨.whole n _, _, rfl, rfl, fun _ _ h => nomatch h⟩

theorem takes_real {r : Double} (h : t.lexeme = .real r) :
    Takes (atom self) [t] (.word (.real r t.span)) formulaWords := by
  intro stop rest _
  obtain ⟨lexeme, span⟩ := t
  obtain rfl : lexeme = .real r := h
  exact ⟨.real r _, _, rfl, rfl, fun _ _ h => nomatch h⟩

theorem takes_name {id : String} (h : t.lexeme = .name id) :
    Takes (atom self) [t] (.word (.name id t.span)) formulaWords := by
  intro stop rest _
  obtain ⟨lexeme, span⟩ := t
  obtain rfl : lexeme = .name id := h
  refine ⟨.name id _, _, rfl, rfl, fun id' s h => ?_⟩
  obtain ⟨rfl, -⟩ := Formula.name.inj h
  exact ⟨_, rfl⟩

/-- An expression in brackets. -/
theorem takes_group (h : Takes (self .expression) ts o exprEnds) (hts : Derives .expr ts o)
    (hopening : opening.lexeme = .mark .opening) (hclosing : closing.lexeme = .mark .closing) :
    Takes (atom self) (opening :: (ts ++ [closing])) (o.grouped opening closing) formulaWords := by
  intro stop rest _
  obtain ⟨lexeme, span⟩ := opening
  obtain rfl : lexeme = .mark .opening := hopening
  have hends := mem_exprEnds_of_mark hclosing (.inl rfl) stop rest
  have hspelled : spelling closing.lexeme = some ")" := congrArg spelling hclosing
  obtain ⟨ph, stop', hph, hr, hname⟩ := takes_starredOrNamed hts h span.stop _ hends
  have hends' : (⟨stop', closing :: rest⟩ : Cursor).word? ∈ exprEnds := hends
  have hcomma : (⟨stop', closing :: rest⟩ : Cursor).word? ≠ some "," := by
    show spelling closing.lexeme ≠ some ","
    rw [hspelled]
    decide
  have hround : inRound self ⟨stop, ⟨.mark .opening, span⟩ :: (ts ++ closing :: rest)⟩ =
      some (ph, ⟨closing.span.stop, rest⟩) := by
    refine bind_eq_some rfl (bind_eq_some (expect_of_eq rfl) ?_)
    refine bind_eq_some (accept_of_ne (hts.word?_ne (by decide) _ _)) ?_
    refine bind_eq_some (at?_of_ne (hts.word?_ne (by decide) _ _)) ?_
    refine bind_eq_some hph (bind_eq_some (accept_of_ne hcomma) ?_)
    rw [isUnpacked_of_unrefused hr]
    exact bind_eq_some (leaves_atClause hends') (bind_eq_some (expect_of_eq hspelled) rfl)
  refine ⟨ph, closing.span.stop, ?_, hr, hname⟩
  rw [List.cons_append, List.append_assoc]
  exact hround

end

/-! ## 8. All rules -/

/-- The rules take the words of a derivation, if they nest deep enough: every word needs twelve
    units of the depth, less those that the rules looser than the one at hand would have taken. -/
def Readable : Symbol → List Token → Operand → Prop
  | .expr, ts, o => ∀ d, 12 * ts.length ≤ d + 8 →
    TakesOperations (run d) sumOperators [productOperators] ts o termEnds
  | .term, ts, o => ∀ d, 12 * ts.length ≤ d + 9 →
    TakesOperations (run d) productOperators [] ts o factorEnds
  | .factor, ts, o => ∀ d, 12 * ts.length ≤ d + 10 → Takes (run d .factor) ts o factorEnds
  | .primary, ts, o => ∀ d, 12 * ts.length ≤ d + 11 → TakesPrimary (run d) ts o
  | .callee, ts, o | .atom, ts, o => ∀ d, 12 * ts.length ≤ d + 11 →
    Takes (run d .atom) ts o formulaWords

/-- Where there are words, enough depth is some depth. -/
theorem exists_depth (h : Derives symbol ts o) {d k : Nat} (hk : k < 12)
    (hd : 12 * ts.length ≤ d + k) : ∃ d', d = d' + 1 := by
  have hlength : 0 < ts.length := List.length_pos_iff.2 h.ne_nil
  exact ⟨d - 1, by omega⟩

section

variable {d : Nat}

theorem readable_primary (h : Readable .atom ts o) : Readable .primary ts o :=
  fun d hd => (h d hd).takesPrimary

theorem readable_factor (hts : Derives .primary ts o) (h : Readable .primary ts o) :
    Readable .factor ts o := by
  intro d hd
  obtain ⟨d, rfl⟩ := exists_depth hts (by decide) hd
  exact (h d (by omega)).takes hts

/-- A factor as an operand of products. -/
theorem takes_operand (hts : Derives .factor ts o) (h : Readable .factor ts o)
    (hd : 12 * ts.length ≤ d + 9) : Takes (run d (.sum [])) ts o factorEnds := by
  obtain ⟨d, rfl⟩ := exists_depth hts (by decide) hd
  exact h d (by omega)

theorem readable_term (hts : Derives .factor ts o) (h : Readable .factor ts o) :
    Readable .term ts o :=
  fun _ hd => (takes_operand hts h hd).takesOperations

/-- A term as an operand of sums. -/
theorem takes_term (hts : Derives .term ts o) (h : Readable .term ts o)
    (hd : 12 * ts.length ≤ d + 8) : Takes (run d (.sum [productOperators])) ts o termEnds := by
  obtain ⟨d, rfl⟩ := exists_depth hts (by decide) hd
  exact (h d (by omega)).takes (by decide) (by decide)

theorem readable_expr (hts : Derives .term ts o) (h : Readable .term ts o) : Readable .expr ts o :=
  fun _ hd => (takes_term hts h hd).takesOperations

/-- Looser than sums are only levels and rules that formulas do not have. -/
theorem takes_of_readable (hts : Derives .expr ts o) (h : Readable .expr ts o)
    (hd : 12 * ts.length ≤ d + 1) : Takes (run d .expression) ts o exprEnds := by
  have hlength : 0 < ts.length := List.length_pos_iff.2 hts.ne_nil
  -- Seven rules deep: the expression, its conditions, four levels without operators, and sums.
  obtain ⟨d, rfl⟩ : ∃ d', d = d' + 7 := ⟨d - 7, by omega⟩
  have hsums : Takes (run (d + 1) (.sum [sumOperators, productOperators])) ts o exprEnds :=
    (h d (by omega)).takes (by decide) (by decide)
  have hlevels : Takes (run (d + 5) (.sum operatorLevels)) ts o exprEnds :=
    takes_level (takes_level (takes_level (takes_level hsums (by decide)) (by decide)) (by decide))
      (by decide)
  exact takes_expression hts (takes_disjunction hts hlevels)

/-- What can be called can stand in brackets. -/
theorem readable_expr_of_atom (hts : Derives .atom ts o) (h : Readable .atom ts o) :
    Readable .expr ts o := by
  have hprimary : Derives .primary ts o := .atom hts
  have hfactor : Derives .factor ts o := .primary hprimary
  exact readable_expr (.factor hfactor)
    (readable_term hfactor (readable_factor hprimary (readable_primary h)))

/-- A word that is an atom. -/
theorem readable_word {t : Token} (h : ∀ self, Takes (atom self) [t] o formulaWords) :
    Readable .atom [t] o := by
  intro d hd
  obtain ⟨d, rfl⟩ : ∃ d', d = d' + 1 := ⟨d - 1, by rw [List.length_singleton] at hd; omega⟩
  exact h (run d)

/-- What stands in brackets, and the brackets. -/
theorem readable_group {opening closing : Token} (hts : Derives .expr ts o)
    (h : Readable .expr ts o) (hopening : opening.lexeme = .mark .opening)
    (hclosing : closing.lexeme = .mark .closing) :
    Readable .atom (opening :: (ts ++ [closing])) (o.grouped opening closing) := by
  intro d hd
  simp only [List.length_cons, List.length_append, List.length_nil] at hd
  obtain ⟨d, rfl⟩ : ∃ d', d = d' + 1 := ⟨d - 1, by omega⟩
  exact takes_group (takes_of_readable hts h (by omega)) hts hopening hclosing

/-- **Every derivation is readable.** -/
theorem readable_of_derives (h : Derives symbol ts o) : Readable symbol ts o := by
  induction h with
  | term h ih => exact readable_expr h ih
  | @sum ts us l r t op hop hl ht hr ihl ihr =>
    intro d hd
    simp only [List.length_append, List.length_cons] at hd
    have hoperator : HasOperator sumOperators op ∧ spelling t.lexeme ∈ termEnds := by
      rw [ht]
      rcases hop with rfl | rfl <;> exact ⟨⟨_, _, rfl, rfl⟩, by decide⟩
    have hright := takes_term hr ihr (d := d) (by omega)
    exact (ihl d (by omega)).operation hoperator.1 ht hoperator.2 hright
  | factor h ih => exact readable_term h ih
  | @product ts us l r t op hop hl ht hr ihl ihr =>
    intro d hd
    simp only [List.length_append, List.length_cons] at hd
    have hoperator : HasOperator productOperators op ∧ spelling t.lexeme ∈ factorEnds := by
      rw [ht]
      rcases hop with rfl | rfl <;> exact ⟨⟨_, _, rfl, rfl⟩, by decide⟩
    have hright := takes_operand hr ihr (d := d) (by omega)
    exact (ihl d (by omega)).operation hoperator.1 ht hoperator.2 hright
  | primary h ih => exact readable_factor h ih
  | @signed ts o t sign ht h ih =>
    intro d hd
    rw [List.length_cons] at hd
    obtain ⟨d, rfl⟩ : ∃ d', d = d' + 1 := ⟨d - 1, by omega⟩
    exact takes_signed (ih d (by omega)) ht
  | atom h ih => exact readable_primary ih
  | @component ts o dot t field h hdot ht ih =>
    intro d hd
    rw [List.length_append] at hd
    exact (ih d (by omega)).component hdot ht
  | @call ts us function span extent opening closing args hcallee hopening hargs hlisted hclosing
      ihcallee ihargs =>
    intro d hd
    simp only [List.length_append, List.length_cons, List.length_nil] at hd
    have hpieces (piece : List Token) (hpiece : piece ∈ args.map Prod.fst) :
        TakesExpression (run d) piece := by
      obtain ⟨a, ha, rfl⟩ := List.mem_map.1 hpiece
      have hlength := length_le_of_listed hlisted hpiece
      exact ⟨a.2, hargs a ha, takes_of_readable (hargs a ha) (ihargs a ha) (by omega)⟩
    have hname : TakesPrimary (run d) ts ⟨.name function span, extent⟩ :=
      (ihcallee d (by omega)).takesPrimary
    exact hname.call hopening hlisted hpieces hclosing fun _ _ h => nomatch h
  | calleeGroup hopening h hclosing ih =>
    have hatom := h.atom_of_callee
    exact readable_group (.term (.factor (.primary (.atom hatom)))) (readable_expr_of_atom hatom ih)
      hopening hclosing
  | group hopening h hclosing ih => exact readable_group h ih hopening hclosing
  | calleeName ht | name ht => exact readable_word fun _ => takes_name ht
  | whole ht => exact readable_word fun _ => takes_whole ht
  | real ht => exact readable_word fun _ => takes_real ht

end

end Grammar

/-- **Words that derive from the grammar of formulas are a phrase without a refusal.** -/
theorem Derives.exists_phrase {tokens : List Token} {o : Operand} (h : Derives .expr tokens o)
    {length : Nat} (hlength : tokens.length ≤ length) :
    ∃ ph, Phrase.read length tokens = some ph ∧ ph.refusal? = none := by
  have hexpression : Grammar.Takes (Grammar.run (12 * (length + 2)) .expression) tokens o [none] :=
    (Grammar.takes_of_readable h (Grammar.readable_of_derives h) (by omega)).mono (by decide)
  have hwhole :
      Grammar.Takes (Grammar.whole (Grammar.run (12 * (length + 2)))) tokens o [none] := by
    refine Grammar.takes_still Grammar.still_here fun start => hexpression.passed fun first => ?_
    exact Grammar.leaves_bind (Grammar.leaves_at? (by decide)) (Grammar.leaves_pure first)
  obtain ⟨ph, stop, hph, hr, -⟩ := hwhole ⟨1, 0⟩ [] List.mem_cons_self
  rw [List.append_nil] at hph
  refine ⟨ph, ?_, hr⟩
  unfold Phrase.read
  rw [hph]
  rfl

end VisualScale
