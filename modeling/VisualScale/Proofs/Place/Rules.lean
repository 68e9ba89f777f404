import VisualScale.Proofs.Language.Refusal
import VisualScale.Proofs.Place.Spans

/-!
# What the rules of the wider grammar take

A rule takes words and gives none back; the place that it gives a phrase goes from the first word
that it has taken to the last one. For each rule this is told by triples (`Carries`): from a cursor
somewhere behind an origin, the rule gives a phrase whose nodes all have places among the words
behind the origin, and it stands further behind it (`PlacesNodes`); what gives no phrase only stands
behind it (`Moves`). The recursive rules do so if those that they call do, so they all do
(`placesAll_run`), and so does the phrase that a text writes (`Phrase.placed_of_read`).
-/

namespace VisualScale

namespace Grammar

/-! ## 1. Cursors behind one another -/

/-- Between the cursors some words were taken, and at least one if so asked. -/
def After (some? : Bool) (c c' : Cursor) : Prop :=
  ∃ ts, c.rest = ts ++ c'.rest ∧ c'.stop = (ts.getLast?.map fun t => t.span.stop).getD c.stop ∧
    (some? = true → ts ≠ [])

/-- The place is one among the words behind a cursor. -/
abbrev SpansBehind (o : Cursor) : Span → Prop := Spans o.rest

/-- The phrase has its nodes among the words behind an origin, and words were taken. -/
def Forms (o : Cursor) (ph : Phrase) (c : Cursor) : Prop :=
  After true o c ∧ ph.Placed (SpansBehind o)

section

variable {o c c' c'' : Cursor} {b b' : Bool}

theorem after_refl (c : Cursor) : After false c c := ⟨[], rfl, rfl, fun h => nomatch h⟩

theorem After.weaken (h : After b o c) : After false o c := by
  obtain ⟨ts, hrest, hstop, -⟩ := h
  exact ⟨ts, hrest, hstop, fun h => nomatch h⟩

/-- Where words were taken, it does not matter whether any was asked for. -/
theorem After.any (h : After true o c) : After b o c := by
  cases b with
  | true => exact h
  | false => exact h.weaken

theorem After.trans (h : After b c c') (h' : After b' c' c'') : After (b || b') c c'' := by
  obtain ⟨ts, hrest, hstop, hne⟩ := h
  obtain ⟨us, hrest', hstop', hne'⟩ := h'
  refine ⟨ts ++ us, by rw [hrest, hrest', List.append_assoc], ?_, fun hb heq => ?_⟩
  · rw [hstop', hstop, List.getLast?_append]
    cases us.getLast? <;> rfl
  · obtain ⟨rfl, rfl⟩ := List.append_eq_nil_iff.1 heq
    rcases Bool.or_eq_true _ _ |>.mp hb with hb | hb
    · exact hne hb rfl
    · exact hne' hb rfl

theorem after_cons {t : Token} {rest : List Token} (hc : c.rest = t :: rest) :
    After true c ⟨t.span.stop, rest⟩ := ⟨[t], hc, rfl, fun _ => List.cons_ne_nil _ _⟩

/-- **From where words were taken to where the last of them ends, the place is one among them.** -/
theorem After.spans (h : After true o c) : SpansBehind o ⟨o.start, c.stop⟩ := by
  obtain ⟨ts, hrest, hstop, hne⟩ := h
  obtain ⟨t, us, rfl⟩ := List.exists_cons_of_ne_nil (hne rfl)
  refine ⟨[], t, us, c.rest, hrest, ?_⟩
  unfold Cursor.start
  rw [hrest, hstop, List.getLast?_cons]
  rfl

theorem After.spansBehind {s : Span} (h : After b o c) (hs : SpansBehind c s) :
    SpansBehind o s := by
  obtain ⟨ts, hrest, -⟩ := h
  unfold SpansBehind
  rw [hrest]
  exact hs.behind ts

end

/-! ## 2. Triples -/

section

variable {α β : Type} {P P' : Cursor → Prop} {Q Q' : α → Cursor → Prop} {R : β → Cursor → Prop}
  {p : Reader α} {k : α → Reader β} {o : Cursor} {b : Bool}

/-- From a cursor with the first property, what the reader gives has the second one where it then
    stands. -/
def Carries (P : Cursor → Prop) (p : Reader α) (Q : α → Cursor → Prop) : Prop :=
  ∀ ⦃c a c'⦄, P c → p c = some (a, c') → Q a c'

/-- The reader takes words or none. -/
def Moves (p : Reader α) : Prop := ∀ b o, Carries (After b o) p fun _ => After b o

/-- The reader takes a word at least. -/
def Advances (p : Reader α) : Prop := ∀ b o, Carries (After b o) p fun _ => After true o

/-- The phrases that the reader gives have their nodes among the words that it has taken. -/
def PlacesNodes (p : Reader Phrase) : Prop := ∀ b o, Carries (After b o) p (Forms o)

theorem carries_bind (h : Carries P p Q) (hk : ∀ a, Carries (Q a) (k a) R) :
    Carries P (p >>= k) R := by
  intro c r c'' hc hp
  obtain ⟨a, c', ha, hk'⟩ := exists_of_bind hp
  exact hk a (h hc ha) hk'

theorem carries_pure {a : α} (h : ∀ c, P c → Q a c) : Carries P (pure a) Q := by
  intro c a' c' hc hp
  obtain ⟨rfl, rfl⟩ := pure_eq_some hp
  exact h _ hc

theorem carries_refuse : Carries P (refuse : Reader α) Q := fun _ _ _ _ hp => nomatch hp

theorem carries_ite {cond : Prop} [Decidable cond] {q : Reader α} (hp : Carries P p Q)
    (hq : Carries P q Q) : Carries P (if cond then p else q) Q := by
  split
  · exact hp
  · exact hq

theorem Carries.pre (h : Carries P p Q) (hP : ∀ c, P' c → P c) : Carries P' p Q :=
  fun _ _ _ hc hp => h (hP _ hc) hp

theorem Carries.post (h : Carries P p Q) (hQ : ∀ a c, Q a c → Q' a c) : Carries P p Q' :=
  fun _ _ _ hc hp => hQ _ _ (h hc hp)

/-- What does not depend on the cursor holds from there on. -/
theorem carries_and {fact : Prop} (h : fact → Carries P p Q) :
    Carries (fun c => P c ∧ fact) p Q :=
  fun _ _ _ hc hp => h hc.2 hc.1 hp

theorem moves_still (h : Still p) : Moves p := by
  intro b o c a c' hc hp
  obtain ⟨a', ha⟩ := h c
  obtain ⟨-, rfl⟩ := Prod.mk.inj (Option.some.inj (ha.symm.trans hp))
  exact hc

theorem Advances.moves (h : Advances p) : Moves p :=
  fun b o => (h b o).post fun _ _ hc => hc.any

theorem PlacesNodes.moves {p : Reader Phrase} (h : PlacesNodes p) : Moves p :=
  Advances.moves fun b o => (h b o).post fun _ _ hforms => hforms.1

theorem Moves.bind (h : Moves p) (hk : ∀ a, Carries (After b o) (k a) R) :
    Carries (After b o) (p >>= k) R := carries_bind (h b o) hk

theorem Advances.bind (h : Advances p) (hk : ∀ a, Carries (After true o) (k a) R) :
    Carries (After b o) (p >>= k) R := carries_bind (h b o) hk

theorem PlacesNodes.bind {p : Reader Phrase} {k : Phrase → Reader β} (h : PlacesNodes p)
    (hk : ∀ ph, ph.Placed (SpansBehind o) → Carries (After true o) (k ph) R) :
    Carries (After b o) (p >>= k) R :=
  carries_bind (h b o) fun ph _ _ _ hforms => hk ph hforms.2 hforms.1

theorem moves_pure (a : α) : Moves (pure a) := fun _ _ => carries_pure fun _ hc => hc

theorem moves_refuse : Moves (refuse : Reader α) := fun _ _ => carries_refuse

theorem moves_ite {cond : Prop} [Decidable cond] {q : Reader α} (hp : Moves p) (hq : Moves q) :
    Moves (if cond then p else q) := fun b o => carries_ite (hp b o) (hq b o)

theorem Moves.seq (h : Moves p) (hk : ∀ a, Moves (k a)) : Moves (p >>= k) :=
  fun b o => h.bind fun a => hk a b o

/-- A reader that refuses first, under a condition. -/
theorem carries_unless {cond : Prop} [Decidable cond] (hp : Carries P p Q) :
    Carries P (if cond then (refuse : Reader PUnit) >>= fun _ => p else p) Q :=
  carries_ite (carries_bind (Q := fun _ _ => False) carries_refuse fun _ _ _ _ hc _ => hc.elim) hp

theorem moves_unless {cond : Prop} [Decidable cond] (hp : Moves p) :
    Moves (if cond then (refuse : Reader PUnit) >>= fun _ => p else p) :=
  fun b o => carries_unless (hp b o)

/-- A chain that remembers where it stands. -/
theorem carries_get {k : Cursor → Reader β} (hk : ∀ c, P c → Carries P (k c) R) :
    Carries P (get >>= k) R := fun c _ _ hc hp => hk c hc hc hp

theorem carries_set {c : Cursor} (hc : P c) : Carries P' (set c : Reader PUnit) fun _ => P := by
  intro _ _ c' _ hp
  obtain ⟨-, rfl⟩ := Prod.mk.inj (Option.some.inj hp)
  exact hc

/-- A chain that looks at the next word. -/
theorem carries_peek {k : Option Lexeme → Reader β}
    (hk : Carries (· = o) (k (o.rest.head?.map Token.lexeme)) R) :
    Carries (· = o) (peek >>= k) R := fun _ _ _ hc hp => hk hc (hc ▸ hp)

/-- A chain that looks where it stands goes on from there as from a new origin. -/
theorem carries_here {k : Position → Reader β}
    (hk : ∀ o', After b o o' → Carries (· = o') (k o'.start) R) :
    Carries (After b o) (here >>= k) R :=
  fun c _ _ hc hp => hk c hc rfl (of_here hp)

theorem carries_start (h : Carries (After false o) p Q) : Carries (· = o) p Q :=
  h.pre fun _ hc => hc ▸ after_refl o

/-- A rule that begins where it stands can be told from there as its origin, if what it gives is
    told of words behind the origin. -/
theorem carries_fromHere {k : Position → Reader β} {T : Cursor → β → Prop}
    (hT : ∀ o', After b o o' → ∀ r, T o' r → T o r)
    (hk : ∀ o', Carries (· = o') (k o'.start) fun r c => After true o' c ∧ T o' r) :
    Carries (After b o) (here >>= k) fun r c => After true o c ∧ T o r := by
  refine carries_here fun o' ho' c r c' hc hp => ?_
  obtain ⟨hafter, hr⟩ := hk o' hc hp
  have htrans := ho'.trans hafter
  rw [Bool.or_true] at htrans
  exact ⟨htrans, hT o' ho' r hr⟩

/-- A rule that tells the place of its phrase from where it begins. -/
theorem placesNodes_here {k : Position → Reader Phrase}
    (hk : ∀ o, Carries (· = o) (k o.start) (Forms o)) : PlacesNodes (here >>= k) :=
  fun _ _ => carries_fromHere (T := fun o (ph : Phrase) => ph.Placed (SpansBehind o))
    (fun _ ho' _ hph => hph.mono fun _ => ho'.spansBehind) hk

theorem placesNodes_of_start {k : Position → Reader Phrase}
    (hk : ∀ o, Carries (After false o) (k o.start) (Forms o)) : PlacesNodes (here >>= k) :=
  placesNodes_here fun o => carries_start (hk o)

/-- A value made of the place of the words that were taken. -/
theorem carries_spanned {make : Span → α}
    (h : ∀ s c, SpansBehind o s → After true o c → Q (make s) c) :
    Carries (After true o) (spanFrom o.start >>= fun s => pure (make s)) Q := by
  intro c a c' hc hp
  obtain ⟨rfl, rfl⟩ := Prod.mk.inj (Option.some.inj hp)
  exact h _ _ hc.spans hc

theorem carries_formFrom (kind : String) :
    Carries (After true o) (formFrom kind o.start) (Forms o) :=
  carries_spanned fun _ _ hs hc => ⟨hc, hs⟩

theorem moves_formFrom (kind : String) (start : Position) : Moves (formFrom kind start) :=
  (moves_still (still_spanFrom start)).seq fun _ => moves_pure _

/-! ## 3. Words -/

theorem advances_advance : Advances advance := by
  intro b o c u c' hc hp
  obtain ⟨t, rest, hrest, rfl⟩ := advance_ok hp
  have hafter := hc.trans (after_cons hrest)
  rwa [Bool.or_true] at hafter

theorem advances_expect (text : String) : Advances (expect text) := by
  intro b o c u c' hc hp
  obtain ⟨t, rest, hrest, -, rfl⟩ := expect_ok hp
  have hafter := hc.trans (after_cons hrest)
  rwa [Bool.or_true] at hafter

theorem advances_expectName : Advances expectName := by
  intro b o c id c' hc hp
  obtain ⟨t, rest, hrest, -, rfl⟩ := expectName_ok hp
  have hafter := hc.trans (after_cons hrest)
  rwa [Bool.or_true] at hafter

/-- A word is taken, or is not there. -/
theorem carries_accept {text : String} {q : Reader α} (htrue : Carries (After true o) p Q)
    (hfalse : Carries (After b o) q Q) :
    Carries (After b o) (accept text >>= fun found => if found = true then p else q) Q := by
  intro c r c' hc hp
  rcases exists_of_accept hp with hk | ⟨t, rest, hrest, -, hk⟩
  · exact hfalse hc hk
  · have hafter := hc.trans (after_cons hrest)
    rw [Bool.or_true] at hafter
    exact htrue hafter hk

theorem moves_accept (text : String) : Moves (accept text) := by
  intro b o c found c' hc hp
  rcases accept_cases hp with ⟨-, rfl, -⟩ | ⟨-, t, rest, hrest, -, rfl⟩
  · exact hc
  · have hafter := hc.trans (after_cons hrest)
    rw [Bool.or_true] at hafter
    exact hafter.any

theorem moves_at? (text : String) : Moves (at? text) := moves_still (still_at? text)

theorem moves_nameBefore (text : String) : Moves (nameBefore text) :=
  moves_still (still_nameBefore text)

theorem moves_atEnd (texts : List String) : Moves (atEnd texts) := by
  refine Moves.seq (moves_still fun _ => ⟨_, rfl⟩) fun l => ?_
  cases l with
  | none => exact moves_pure true
  | some l => exact moves_pure _

theorem moves_acceptWhere (place : Bool) (text : String) : Moves (acceptWhere place text) :=
  moves_ite (moves_accept text) (moves_pure false)

theorem moves_operatorAt (entries : List (String × String × Bool)) : Moves (operatorAt entries) :=
  moves_still fun c => ⟨_, operatorAt_eq entries c⟩

theorem moves_acceptComparison : Moves acceptComparison := by
  unfold acceptComparison
  refine Moves.seq (moves_still fun c => ⟨_, peek_eq c⟩) fun l => ?_
  cases l.bind spelling with
  | none => exact moves_pure false
  | some text =>
    refine moves_ite (advances_advance.moves.seq fun _ => moves_pure true) (moves_ite ?_ ?_)
    · exact advances_advance.moves.seq fun _ => (moves_accept "not").seq fun _ => moves_pure true
    · refine Moves.seq (moves_still still_peekSecond) fun _ => moves_ite ?_ (moves_pure false)
      exact advances_advance.moves.seq fun _ => advances_advance.moves.seq fun _ => moves_pure true

/-! ## 4. Loops -/

/-- **What each turn of a loop keeps, the loop keeps.** -/
theorem carries_repeated {I : α → Cursor → Prop} {item : α → Reader (Option α)}
    (hturn : ∀ a, Carries (I a) (item a) fun next => next.elim (I a) I) (a : α) :
    Carries (I a) (repeated item a) I := by
  intro c b c' hc hp
  obtain ⟨before, hb, hend⟩ :=
    repeated_invariant I (fun a _ _ _ ha hnext => hturn a ha hnext) hc hp
  exact hturn b hb hend

/-- A loop leaves what every turn leaves, the one that ends it included. -/
theorem carries_turns {item : α → Reader (Option α)} {P P' : Cursor → Prop} (hP : ∀ c, P' c → P c)
    (hturn : ∀ a, Carries P (item a) fun _ => P') (a : α) :
    Carries P (repeated item a) fun _ => P' := by
  intro c b c' hc hp
  obtain ⟨before, hb, hend⟩ :=
    repeated_invariant (fun _ => P) (fun a _ _ _ ha hnext => hP _ (hturn a ha hnext)) hc hp
  exact hturn b hb hend

theorem moves_repeated {item : α → Reader (Option α)} (h : ∀ a, Moves (item a)) (a : α) :
    Moves (repeated item a) := by
  intro b o
  refine carries_repeated (I := fun _ => After b o) (fun a' => ?_) a
  refine (h a' b o).post fun next _ hc => ?_
  cases next <;> exact hc

theorem moves_repeatedWhile {item : Reader Bool} (h : Moves item) : Moves (repeatedWhile item) := by
  refine moves_repeated (fun _ => h.seq fun went => ?_) ()
  cases went <;> exact moves_pure _

/-- A loop that goes on as long as something is there. -/
theorem moves_whileFound {word : Reader Bool} (hword : Moves word) (hp : Moves p) :
    Moves (repeatedWhile (word >>= fun found =>
      if found = true then p >>= fun _ => pure true else pure false)) :=
  moves_repeatedWhile (hword.seq fun _ =>
    moves_ite (hp.seq fun _ => moves_pure true) (moves_pure false))

end

/-! ## 5. Comparisons and looser -/

/-- The recursive rules place the nodes of their phrases; of the targets nothing is kept. -/
structure PlacesAll (rules : Rules) : Prop where
  expression : PlacesNodes (rules .expression)
  disjunction : PlacesNodes (rules .disjunction)
  sum : ∀ levels, PlacesNodes (rules (.sum levels))
  factor : PlacesNodes (rules .factor)
  atom : PlacesNodes (rules .atom)
  target : Moves (rules .target)

variable {self : Rules} {o : Cursor} {b : Bool}

/-- A phrase that is passed on. -/
theorem carries_passed {ph : Phrase} (hph : ph.Placed (SpansBehind o)) :
    Carries (After true o) (pure ph) (Forms o) := carries_pure fun _ hc => ⟨hc, hph⟩

/-- What goes on behind a phrase. -/
theorem carries_forms {α : Type} {p : Reader α} {Q : α → Cursor → Prop} {ph : Phrase}
    (h : ph.Placed (SpansBehind o) → Carries (After true o) p Q) : Carries (Forms o ph) p Q :=
  carries_and h

theorem placesNodes_sum (h : PlacesAll self) :
    (levels : List (List (String × String × Bool))) → PlacesNodes (sum self levels)
  | [] => h.factor
  | entries :: tighter => by
    unfold sum
    refine placesNodes_of_start fun o => carries_bind (h.sum tighter false o) fun first => ?_
    refine carries_repeated (I := Forms o) (fun left => carries_forms fun hleft => ?_) first
    refine (moves_operatorAt entries).bind fun entry => ?_
    cases entry with
    | none => exact carries_pure fun _ hc => ⟨hc, hleft⟩
    | some entry =>
      obtain ⟨name, known⟩ := entry
      refine advances_advance.bind fun _ => (h.sum tighter).bind fun right hright => ?_
      exact carries_spanned fun _ _ hs hc => ⟨hc, hs, hleft, hright⟩

theorem placesNodes_bitwiseOr (h : PlacesAll self) : PlacesNodes (bitwiseOr self) :=
  h.sum operatorLevels

theorem placesNodes_comparison (h : PlacesAll self) : PlacesNodes (comparison self) := by
  unfold comparison
  refine placesNodes_of_start fun o => (placesNodes_bitwiseOr h).bind fun first hfirst => ?_
  refine moves_acceptComparison.bind fun found => carries_ite ?_ (carries_passed hfirst)
  refine (placesNodes_bitwiseOr h).bind fun _ _ => ?_
  refine (moves_whileFound moves_acceptComparison (placesNodes_bitwiseOr h).moves).bind fun _ => ?_
  exact carries_formFrom _

theorem placesNodes_inversion (h : PlacesAll self) : PlacesNodes (inversion self) := by
  unfold inversion
  refine placesNodes_of_start fun o => carries_accept ?_ (placesNodes_comparison h false o)
  refine (moves_repeatedWhile (moves_accept _)).bind fun _ => ?_
  refine (placesNodes_comparison h).bind fun operand hoperand => ?_
  exact carries_spanned fun _ _ hs hc => ⟨hc, hs, hoperand⟩

theorem placesNodes_separated {word kind : String} {item : Reader Phrase} (h : PlacesNodes item) :
    PlacesNodes (separated word kind item) := by
  unfold separated
  refine placesNodes_of_start fun o => h.bind fun first hfirst => ?_
  refine (moves_at? word).bind fun found => carries_ite ?_ (carries_passed hfirst)
  exact (moves_whileFound (moves_accept word) h.moves).bind fun _ => carries_formFrom _

theorem placesNodes_disjunction (h : PlacesAll self) : PlacesNodes (disjunction self) :=
  placesNodes_separated (placesNodes_separated (placesNodes_inversion h))

theorem placesNodes_namedExpression (h : PlacesAll self) : PlacesNodes (namedExpression self) := by
  unfold namedExpression
  refine placesNodes_of_start fun o => (moves_nameBefore _).bind fun named => carries_ite ?_ ?_
  · refine advances_advance.bind fun _ => advances_advance.bind fun _ => ?_
    exact h.expression.bind fun _ _ => carries_formFrom _
  · refine h.expression.bind fun e he => (moves_at? _).bind fun _ => ?_
    exact carries_ite carries_refuse (carries_passed he)

theorem placesNodes_starredOrNamed (h : PlacesAll self) : PlacesNodes (starredOrNamed self) := by
  unfold starredOrNamed
  refine placesNodes_of_start fun o => carries_accept ?_ (placesNodes_namedExpression h false o)
  refine (placesNodes_bitwiseOr h).bind fun _ _ => ?_
  exact carries_spanned fun _ _ hs hc => ⟨hc, hs⟩

theorem advances_itemsUntil {closing : String} {item : Reader Unit} (h : Moves item) :
    Advances (itemsUntil closing item) := by
  unfold itemsUntil
  intro b o
  refine Moves.bind (moves_repeatedWhile ?_) fun _ => advances_expect closing b o
  refine (moves_at? closing).seq fun _ => moves_ite (moves_pure false) (h.seq fun _ => ?_)
  refine (moves_accept ",").seq fun _ => moves_ite (moves_pure true) ?_
  exact (moves_at? closing).seq fun _ => moves_ite (moves_pure false) moves_refuse

/-! ## 6. Comprehensions and functions without names -/

theorem moves_atClause : Moves atClause := moves_still still_atClause

theorem moves_targets (h : PlacesAll self) : Moves (targets self) := by
  unfold targets
  refine h.target.seq fun _ => moves_repeatedWhile ((moves_accept ",").seq fun _ => ?_)
  refine moves_ite ((moves_at? "in").seq fun _ => ?_) (moves_pure false)
  exact moves_ite (moves_pure false) (h.target.seq fun _ => moves_pure true)

theorem moves_clauses (h : PlacesAll self) : Moves (clauses self) := by
  unfold clauses
  refine moves_repeatedWhile (moves_atClause.seq fun _ => moves_ite ?_ (moves_pure false))
  refine (moves_accept _).seq fun _ => (advances_expect _).moves.seq fun _ => ?_
  refine (moves_targets h).seq fun _ => (advances_expect _).moves.seq fun _ => ?_
  refine h.disjunction.moves.seq fun _ => ?_
  exact (moves_whileFound (moves_accept _) h.disjunction.moves).seq fun _ => moves_pure true

theorem moves_parameter (h : PlacesAll self) (phase : ParameterPhase) :
    Moves (parameter self phase) := by
  unfold parameter
  refine (moves_accept "/").seq fun _ => moves_ite ?slash ((moves_accept "**").seq fun _ =>
    moves_ite ?doubled ((moves_accept "*").seq fun _ => moves_ite ?star ?named))
  case slash =>
    split
    · exact moves_pure _
    · exact moves_pure _
    · exact moves_refuse
  case doubled =>
    refine advances_expectName.moves.seq fun _ => ?_
    split
    · exact moves_refuse
    · exact moves_refuse
    · exact moves_pure _
  case star =>
    have hname : Moves (at? "," >>= fun found =>
        if found = true then pure ParameterPhase.bareStar
        else expectName >>= fun _ => pure .starred) :=
      (moves_at? _).seq fun _ =>
        moves_ite (moves_pure _) (advances_expectName.moves.seq fun _ => moves_pure _)
    split
    · exact hname
    · exact hname
    · exact moves_refuse
  case named =>
    have hvalue {p : Reader ParameterPhase} (hp : Moves p) (hasValue : Bool) :
        Moves (if hasValue = true then self .expression >>= fun _ => p else p) :=
      moves_ite (h.expression.moves.seq fun _ => hp) hp
    refine advances_expectName.moves.seq fun _ => (moves_accept "=").seq fun hasValue => ?_
    cases phase with
    | plain | bareStar | starred => exact hvalue (moves_pure _) hasValue
    | valued => exact hvalue (moves_ite (moves_pure _) moves_refuse) hasValue
    | closed => exact hvalue moves_refuse hasValue

theorem placesNodes_lambda (h : PlacesAll self) : PlacesNodes (lambda self) := by
  unfold lambda
  refine placesNodes_of_start fun o => (advances_expect _).bind fun _ => ?_
  refine (moves_repeated (fun phase => ?_) _).bind fun phase => ?_
  · refine (moves_at? _).seq fun _ => moves_ite (moves_pure none) ?_
    refine (moves_parameter h phase).seq fun phase' => (moves_accept _).seq fun _ => ?_
    refine moves_ite (moves_pure _) ((moves_at? _).seq fun _ => ?_)
    exact moves_ite (moves_pure _) moves_refuse
  · refine carries_unless ((advances_expect _).bind fun _ => ?_)
    exact h.expression.bind fun _ _ => carries_formFrom _

theorem placesNodes_expression (h : PlacesAll self) : PlacesNodes (expression self) := by
  unfold expression
  intro b o
  refine (moves_at? _).bind fun _ => carries_ite (placesNodes_lambda h b o) ?_
  refine placesNodes_of_start (fun o => h.disjunction.bind fun first hfirst => ?_) b o
  refine carries_accept ?_ (carries_passed hfirst)
  refine h.disjunction.bind fun _ _ => (advances_expect _).bind fun _ => ?_
  exact h.expression.bind fun _ _ => carries_formFrom _

/-! ## 7. Calls and subscripts -/

/-- The arguments read so far have their nodes among the words behind an origin. -/
def Arguments.Placed (o : Cursor) (a : Arguments) : Prop := ∀ e ∈ a.args, e.Placed (SpansBehind o)

/-- One argument more, or none, behind those that were there. -/
theorem carries_argument (h : PlacesAll self) (a : Arguments) :
    Carries (After b o) (argument self a) fun a' c => After true o c ∧
      ∀ e ∈ a'.args, e ∈ a.args ∨ e.Placed (SpansBehind o) := by
  unfold argument
  have hsame {o : Cursor} (e : Phrase) (he : e ∈ a.args) :
      e ∈ a.args ∨ e.Placed (SpansBehind o) := .inl he
  have hsnoc {o : Cursor} {e : Phrase} (he : e.Placed (SpansBehind o)) (e' : Phrase)
      (he' : e' ∈ a.args ++ [e]) : e' ∈ a.args ∨ e'.Placed (SpansBehind o) := by
    rcases List.mem_append.1 he' with hmem | hmem
    · exact .inl hmem
    · rw [List.mem_singleton.1 hmem]
      exact .inr he
  refine carries_fromHere
    (T := fun o (a' : Arguments) => ∀ e ∈ a'.args, e ∈ a.args ∨ e.Placed (SpansBehind o))
    (fun o' ho' a' ha' e he => (ha' e he).imp_right fun he' => he'.mono fun _ => ho'.spansBehind)
    fun o => carries_start (carries_accept ?doubled (carries_accept ?starred ?other))
  case doubled => exact h.expression.bind fun _ _ => carries_pure fun _ hc => ⟨hc, hsame⟩
  case starred =>
    refine carries_unless (h.expression.bind fun _ _ => ?_)
    exact carries_spanned fun _ _ hs hc => ⟨hc, hsnoc hs⟩
  case other =>
    refine (moves_nameBefore _).bind fun _ => carries_ite ?_ ?_
    · refine advances_advance.bind fun _ => advances_advance.bind fun _ => ?_
      exact h.expression.bind fun _ _ => carries_pure fun _ hc => ⟨hc, hsame⟩
    · refine carries_unless ((placesNodes_namedExpression h).bind fun e he => ?_)
      exact carries_pure fun _ hc => ⟨hc, hsnoc he⟩

/-- The arguments have their nodes among the words behind the bracket. -/
theorem carries_arguments (h : PlacesAll self) :
    Carries (After true o) (arguments self o.start) fun a c => After true o c ∧ a.Placed o := by
  unfold arguments
  refine carries_accept (carries_pure fun _ hc => ⟨hc, fun e he => nomatch he⟩) ?_
  refine carries_bind (carries_argument h _) fun first => carries_and fun hfirst => ?_
  refine moves_atClause.bind fun _ => carries_ite ?generator ?others
  case generator =>
    refine (moves_clauses h).bind fun _ => (advances_expect _).bind fun _ => ?_
    refine carries_bind (carries_formFrom _) fun ph => carries_forms fun hph => ?_
    exact carries_pure fun _ hc => ⟨hc, fun e he => List.mem_singleton.1 he ▸ hph⟩
  case others =>
    have hplaced : first.Placed o := fun e he => (hfirst e he).resolve_left (List.not_mem_nil)
    let I (a : Arguments) (c : Cursor) := After true o c ∧ a.Placed o
    refine carries_bind ((carries_repeated (I := I) (fun a => carries_and fun ha => ?_) first).pre
      fun _ hc => ⟨hc, hplaced⟩) fun all => carries_and fun hall => ?_
    · have hend : Carries (After true o) (pure none : Reader (Option Arguments))
          fun next => next.elim (I a) I := carries_pure fun _ hc => ⟨hc, ha⟩
      refine carries_accept ((moves_at? _).bind fun _ => carries_ite hend ?_) hend
      refine carries_bind (carries_argument h a) fun a' => carries_and fun ha' => ?_
      exact carries_pure fun _ hc => ⟨hc, fun e he => (ha' e he).elim (ha e) id⟩
    · exact (advances_expect _).bind fun _ => carries_pure fun _ hc => ⟨hc, hall⟩

theorem moves_optionalExpression (h : PlacesAll self) (endings : List String) :
    Moves (optionalExpression self endings) := by
  unfold optionalExpression
  refine (moves_atEnd endings).seq fun _ => moves_ite (moves_pure _) ?_
  exact h.expression.moves.seq fun _ => moves_pure _

theorem moves_slice (h : PlacesAll self) : Moves (slice self) := by
  unfold slice
  refine (moves_accept "*").seq fun _ => moves_ite (h.expression.moves.seq fun _ => moves_pure _) ?_
  have hstep : Moves (accept ":" >>= fun found => if found = true then
      optionalExpression self [":", ",", "]"] >>= fun _ => accept ":" >>= fun found =>
        if found = true then optionalExpression self [",", "]"] else pure () else pure ()) := by
    refine (moves_accept ":").seq fun _ => moves_ite ?_ (moves_pure ())
    refine (moves_optionalExpression h _).seq fun _ => (moves_accept ":").seq fun _ => ?_
    exact moves_ite (moves_optionalExpression h _) (moves_pure ())
  refine (moves_at? ":").seq fun _ => moves_ite ?_ hstep
  refine (moves_nameBefore _).seq fun _ => (placesNodes_namedExpression h).moves.seq fun _ => ?_
  exact (moves_at? ":").seq fun _ => moves_unless hstep

theorem moves_slices (h : PlacesAll self) : Moves (slices self) := by
  unfold slices
  exact (moves_at? "]").seq fun _ => moves_unless (advances_itemsUntil (moves_slice h)).moves

theorem carries_primaryWithEnd (h : PlacesAll self) (b : Bool) (o : Cursor) :
    Carries (After b o) (primaryWithEnd self) fun r => Forms o r.1 := by
  unfold primaryWithEnd
  refine carries_fromHere (T := fun o (r : Phrase × PrimaryEnd) => r.1.Placed (SpansBehind o))
    (fun o' ho' r hr => hr.mono fun _ => ho'.spansBehind) fun o => carries_start ?_
  refine h.atom.bind fun first hfirst => ?_
  refine (carries_repeated (I := fun r => Forms o r.1) (fun r => ?_) (first, PrimaryEnd.atom)).pre
    fun _ hc => ⟨hc, hfirst⟩
  obtain ⟨value, ending⟩ := r
  refine carries_forms fun hvalue => carries_here fun o' ho' => ?_
  -- The arguments are told of the bracket, everything else of where the primary begins.
  have hback {b' : Bool} {α : Type} {p : Reader α} {Q : α → Cursor → Prop}
      (hp : Carries (After true o) p Q) : Carries (After b' o') p Q :=
    hp.pre fun _ hc => ho'.trans hc
  refine carries_start (carries_accept (hback ?field)
    (carries_accept ?call (carries_accept (hback ?subscript) (hback ?done))))
  case field =>
    refine advances_expectName.bind fun _ => ?_
    exact carries_spanned fun _ _ hs hc => ⟨hc, hs, hvalue⟩
  case call =>
    refine carries_bind (carries_arguments h) fun a => carries_and fun ha => hback ?_
    refine carries_spanned fun _ _ hs hc => ⟨hc, hs, hvalue, Phrase.allPlaced_iff.2 fun e he => ?_⟩
    exact (ha e he).mono fun _ => ho'.spansBehind
  case subscript =>
    refine (moves_slices h).bind fun _ => ?_
    exact carries_bind (carries_formFrom _) fun ph => carries_pure fun _ hc => hc
  case done => exact carries_pure fun _ hc => ⟨hc, hvalue⟩

theorem placesNodes_awaited (h : PlacesAll self) : PlacesNodes (awaited self) := by
  unfold awaited
  refine placesNodes_of_start fun o => carries_accept ?_ ?_
  · refine carries_bind (carries_primaryWithEnd h true o) fun r => carries_forms fun _ => ?_
    exact carries_formFrom _
  · exact carries_bind (carries_primaryWithEnd h false o) fun r => carries_pure fun _ hc => hc

theorem placesNodes_factor (h : PlacesAll self) : PlacesNodes (factor self) := by
  unfold factor
  refine placesNodes_of_start fun o => (moves_operatorAt _).bind fun sign => ?_
  cases sign with
  | some sign =>
    refine advances_advance.bind fun _ => h.factor.bind fun operand hoperand => ?_
    exact carries_spanned fun _ _ hs hc => ⟨hc, hs, hoperand⟩
  | none =>
    refine (placesNodes_awaited h).bind fun base hbase => ?_
    refine carries_accept (h.factor.bind fun power hpower => ?_) (carries_passed hbase)
    exact carries_spanned fun _ _ hs hc => ⟨hc, hs, hbase, hpower⟩

/-! ## 8. Targets -/

theorem moves_bareTarget (h : PlacesAll self) : Moves (bareTarget self) := by
  unfold bareTarget
  have htarget : Moves (self .target >>= fun _ => pure ()) := h.target.seq fun _ => moves_pure ()
  have hitems (closing : String) :
      Moves (itemsUntil closing (self .target >>= fun _ => pure ())) :=
    (advances_itemsUntil htarget).moves
  have hinner : Moves (at? "*" >>= fun starred => self .target >>= fun _ =>
      accept "," >>= fun found =>
        if found = true then itemsUntil ")" (self .target >>= fun _ => pure ())
        else if starred = true then refuse else expect ")") := by
    refine (moves_at? "*").seq fun _ => h.target.seq fun _ => (moves_accept ",").seq fun _ => ?_
    exact moves_ite (hitems ")") (moves_ite moves_refuse (advances_expect ")").moves)
  refine (moves_accept "(").seq fun _ => moves_ite ?_ ((moves_accept "[").seq fun _ => ?_)
  · exact (moves_accept ")").seq fun _ => moves_ite (moves_pure ()) hinner
  · exact moves_ite (hitems "]") (advances_expectName.moves.seq fun _ => moves_pure ())

/-- A target tries a primary first; where that is a name or something in brackets, the words are
    given back and taken again as variables. -/
theorem moves_target (h : PlacesAll self) : Moves (target self) := by
  unfold target
  refine Moves.seq (moves_still still_here) fun start => (moves_accept "*").seq fun _ => ?_
  refine (moves_at? "*").seq fun _ => moves_unless fun b o => carries_get fun before hbefore => ?_
  refine carries_bind ((carries_primaryWithEnd h b o).post fun r c hforms => hforms.1) fun r => ?_
  split
  · exact (moves_formFrom _ _ true o).post fun _ _ hc => hc.any
  · exact carries_refuse
  · refine carries_bind (carries_set hbefore) fun _ => ?_
    exact (moves_bareTarget h).bind fun _ => moves_formFrom _ _ b o

/-! ## 9. Atoms -/

theorem placesNodes_yielded (h : PlacesAll self) : PlacesNodes (yielded self) := by
  unfold yielded
  refine placesNodes_of_start fun o => (advances_expect _).bind fun _ => ?_
  refine carries_accept ?delegated ?values
  case delegated => exact h.expression.bind fun _ _ => carries_formFrom _
  case values =>
    refine (moves_repeatedWhile ?_).bind fun _ => carries_formFrom _
    have hmore : Moves (accept "," >>= fun found => if found = true then pure true
        else atEnd [")"] >>= fun found => if found = true then pure false else refuse) :=
      (moves_accept ",").seq fun _ => moves_ite (moves_pure true)
        ((moves_atEnd _).seq fun _ => moves_ite (moves_pure false) moves_refuse)
    refine (moves_atEnd _).seq fun _ => moves_ite (moves_pure false) ?_
    refine (moves_accept "*").seq fun _ => moves_ite ?_ ?_
    · exact (placesNodes_bitwiseOr h).moves.seq fun _ => hmore
    · exact h.expression.moves.seq fun _ => hmore

/-- A comprehension ends with the closing bracket and becomes a form. -/
theorem carries_comprehension (h : PlacesAll self) (closing kind : String) :
    Carries (After true o)
      (clauses self >>= fun _ => expect closing >>= fun _ => formFrom kind o.start) (Forms o) :=
  (moves_clauses h).bind fun _ => (advances_expect _).bind fun _ => carries_formFrom _

theorem moves_starredOrNamed (h : PlacesAll self) :
    Moves (starredOrNamed self >>= fun _ => pure ()) :=
  (placesNodes_starredOrNamed h).moves.seq fun _ => moves_pure ()

/-- Items that go on, or the end of a display, which becomes a form. -/
theorem carries_display {closing kind : String} {item : Reader Unit} (h : Moves item) :
    Carries (After true o) (accept "," >>= fun found =>
      if found = true then itemsUntil closing item >>= fun _ => formFrom kind o.start
      else expect closing >>= fun _ => formFrom kind o.start) (Forms o) :=
  carries_accept ((advances_itemsUntil h).bind fun _ => carries_formFrom _)
    ((advances_expect _).bind fun _ => carries_formFrom _)

theorem placesNodes_inRound (h : PlacesAll self) : PlacesNodes (inRound self) := by
  unfold inRound
  refine placesNodes_of_start fun o => (advances_expect _).bind fun _ => ?_
  refine carries_accept (carries_formFrom _) ((moves_at? "yield").bind fun _ => carries_ite ?_ ?_)
  · refine (placesNodes_yielded h).bind fun y hy => ?_
    exact (advances_expect _).bind fun _ => carries_passed hy
  · refine (placesNodes_starredOrNamed h).bind fun first hfirst => carries_accept ?_ ?_
    · exact (advances_itemsUntil (moves_starredOrNamed h)).bind fun _ => carries_formFrom _
    · refine carries_ite carries_refuse (moves_atClause.bind fun _ => carries_ite ?_ ?_)
      · exact carries_comprehension h _ _
      · exact (advances_expect _).bind fun _ => carries_passed hfirst

theorem placesNodes_inSquare (h : PlacesAll self) : PlacesNodes (inSquare self) := by
  unfold inSquare
  refine placesNodes_of_start fun o => (advances_expect _).bind fun _ => ?_
  refine carries_accept (carries_formFrom _) ?_
  refine (placesNodes_starredOrNamed h).bind fun first _ => moves_atClause.bind fun _ => ?_
  exact carries_ite (carries_comprehension h _ _) (carries_display (moves_starredOrNamed h))

theorem moves_entry (h : PlacesAll self) : Moves (entry self) := by
  unfold entry
  refine (moves_accept "**").seq fun _ => moves_ite ?_ ?_
  · exact (placesNodes_bitwiseOr h).moves.seq fun _ => moves_pure ()
  · refine h.expression.moves.seq fun _ => (advances_expect ":").moves.seq fun _ => ?_
    exact h.expression.moves.seq fun _ => moves_pure ()

theorem placesNodes_inBraces (h : PlacesAll self) : PlacesNodes (inBraces self) := by
  unfold inBraces
  refine placesNodes_of_start fun o => (advances_expect _).bind fun _ => ?_
  refine carries_accept (carries_formFrom _) ((moves_at? "**").bind fun _ => carries_ite ?_ ?_)
  · exact (advances_itemsUntil (moves_entry h)).bind fun _ => carries_formFrom _
  · refine (moves_nameBefore _).bind fun named => ?_
    refine (placesNodes_starredOrNamed h).bind fun first _ => ?_
    refine (moves_acceptWhere _ ":").bind fun _ => carries_ite ?table ?set
    case table =>
      refine h.expression.bind fun _ _ => moves_atClause.bind fun _ => ?_
      exact carries_ite (carries_comprehension h _ _) (carries_display (moves_entry h))
    case set =>
      refine moves_atClause.bind fun _ => ?_
      exact carries_ite (carries_comprehension h _ _) (carries_display (moves_starredOrNamed h))

/-- A text or a template comes next. -/
def BeforeText (c : Cursor) : Prop :=
  (∃ bytes, c.rest.head?.map Token.lexeme = some (.other (.text bytes))) ∨
    ∃ raw body, c.rest.head?.map Token.lexeme = some (.other (.template raw body))

/-- Texts side by side: the first one is taken, as it was seen before. -/
theorem carries_texts (ho : BeforeText o) : Carries (· = o) (texts self) (Forms o) := by
  unfold texts
  intro c ph c' hc hp
  obtain ⟨all, mid, hloop, hform⟩ := exists_of_bind (of_here hp)
  -- The first turn takes the text that was seen; each later one finds that a word was taken.
  have hmid : After true o mid := by
    refine carries_turns (P := fun c => c = o ∨ After true o c) (fun _ => Or.inr) (fun t => ?_) _
      (.inl hc) hloop
    intro c next c' hc hturn
    have hafter : After false o c := hc.elim (fun hc => hc ▸ after_refl o) After.weaken
    refine carries_peek (o := c) (R := fun _ => After true o) ?_ rfl hturn
    split
    case h_1 =>
      refine Carries.pre (P := After false o) (advances_advance.bind fun _ => ?_)
        fun _ h => h ▸ hafter
      split
      · exact moves_pure _ true o
      · exact carries_refuse
    case h_2 =>
      refine Carries.pre (P := After false o) (advances_advance.bind fun _ => carries_unless ?_)
        fun _ h => h ▸ hafter
      split
      · exact moves_pure _ true o
      · exact carries_refuse
    case h_3 htext htemplate =>
      refine carries_pure fun _ h => ?_
      rcases hc with rfl | hc
      · rcases ho with ⟨_, ho⟩ | ⟨_, _, ho⟩
        · exact absurd ho (htext _)
        · exact absurd ho (htemplate _ _)
      · exact h ▸ hc
  subst hc
  refine carries_ite (carries_formFrom _) ?_ hmid hform
  exact carries_spanned fun _ _ hs hc => ⟨hc, hs⟩

theorem placesNodes_atom (h : PlacesAll self) : PlacesNodes (atom self) := by
  unfold atom
  refine placesNodes_here fun o => carries_peek ?_
  have hword {p : Span → Phrase} (hp : ∀ s, SpansBehind o s → (p s).Placed (SpansBehind o)) :
      Carries (· = o) (advance >>= fun _ => spanFrom o.start >>= fun s => pure (p s))
        (Forms o) := by
    refine carries_start (advances_advance.bind fun _ => ?_)
    exact carries_spanned fun s _ hs hc => ⟨hc, hp s hs⟩
  have hinto {p : Reader Phrase} (hp : PlacesNodes p) : Carries (· = o) p (Forms o) :=
    carries_start (hp false o)
  split
  case h_1 | h_2 | h_3 | h_4 => exact hword fun _ hs => hs
  case h_5 heq => exact carries_texts (.inl ⟨_, heq⟩)
  case h_6 heq => exact carries_texts (.inr ⟨_, _, heq⟩)
  case h_7 =>
    split
    · exact hinto (placesNodes_inRound h)
    · exact hinto (placesNodes_inSquare h)
    · exact hinto (placesNodes_inBraces h)
    · exact carries_ite (hword fun _ hs => hs) carries_refuse
    · exact carries_refuse
  case h_8 => exact carries_refuse

/-! ## 10. All rules -/

/-- **Each rule places the nodes of its phrases if the rules that it calls do.** -/
theorem placesAll_rule (h : PlacesAll self) : PlacesAll (rule self) where
  expression := placesNodes_expression h
  disjunction := placesNodes_disjunction h
  sum := placesNodes_sum h
  factor := placesNodes_factor h
  atom := placesNodes_atom h
  target := moves_target h

/-- **The rules place the nodes of their phrases, however deep they nest.** -/
theorem placesAll_run (depth : Nat) : PlacesAll (run depth) := by
  induction depth with
  | zero =>
    have hrefuse : PlacesNodes refuse := fun _ _ => carries_refuse
    exact ⟨hrefuse, hrefuse, fun _ => hrefuse, hrefuse, hrefuse, moves_refuse⟩
  | succ depth ih => exact placesAll_rule ih

theorem placesNodes_whole (h : PlacesAll self) : PlacesNodes (whole self) := by
  unfold whole
  refine placesNodes_of_start fun o => h.expression.bind fun first hfirst => ?_
  refine (moves_at? ",").bind fun _ => carries_ite ?_ (carries_passed hfirst)
  refine (moves_repeatedWhile ?_).bind fun _ => carries_formFrom _
  refine (moves_accept ",").seq fun _ => moves_ite ?_ (moves_pure false)
  refine (moves_atEnd []).seq fun _ => moves_ite (moves_pure false) ?_
  exact h.expression.moves.seq fun _ => moves_pure true

end Grammar

/-- **Every node of the phrase of some words goes from the start of one of them to the end of the
    same or a later one.** -/
theorem Phrase.placed_of_read {length : Nat} {tokens : List Token} {ph : Phrase}
    (h : Phrase.read length tokens = some ph) : ph.Placed (Spans tokens) := by
  unfold Phrase.read at h
  split at h
  · next phrase c hwhole =>
    split at h
    · obtain rfl := Option.some.inj h
      have hplaces := Grammar.placesNodes_whole (Grammar.placesAll_run (12 * (length + 2)))
      exact (hplaces false _ (Grammar.after_refl _) hwhole).2
    · cases h
  · cases h

end VisualScale
