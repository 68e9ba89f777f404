import VisualScale.Formula.Grammar

/-!
# Steps of the wider grammar

The rules of the wider grammar are readers, which take words from a cursor or fail. What a reader
does is told by the word that it stands before (`Cursor.word?`):

* `accept_of_ne`, `accept_of_eq` -- a word is taken exactly if it is written so;
* `iterate_invariant` -- what each turn of a loop keeps, the loop keeps;
* `Turns`, `repeated_of_turns` -- turns that follow one another, up to one that ends the loop, are
  what the loop does.
-/

namespace VisualScale

namespace Grammar

variable {α β : Type} {c c' c'' : Cursor} {text : String}

/-! ## 1. Chains -/

/-- A chain whose first reader gives a value goes on with it. -/
theorem bind_of_some {p : Reader α} {k : α → Reader β} {a : α} (h : p c = some (a, c')) :
    (p >>= k) c = k a c' := by
  show (p c).bind (fun r => k r.1 r.2) = _
  rw [h]
  rfl

/-- A chain gives what its last reader gives. -/
theorem bind_eq_some {p : Reader α} {k : α → Reader β} {a : α} {b : β}
    (h : p c = some (a, c')) (hk : k a c' = some (b, c'')) : (p >>= k) c = some (b, c'') :=
  (bind_of_some h).trans hk

/-- A chain that gives a value gives one in each of its readers. -/
theorem exists_of_bind {p : Reader α} {k : α → Reader β} {b : β} (h : (p >>= k) c = some (b, c'')) :
    ∃ a c', p c = some (a, c') ∧ k a c' = some (b, c'') := by
  have hbind : (p c).bind (fun r => k r.1 r.2) = some (b, c'') := h
  obtain ⟨⟨a, c'⟩, hp, hk⟩ := Option.bind_eq_some_iff.1 hbind
  exact ⟨a, c', hp, hk⟩

theorem pure_eq_some {a b : α} (h : (pure a : Reader α) c = some (b, c')) : b = a ∧ c' = c := by
  obtain ⟨rfl, rfl⟩ := Prod.mk.inj (Option.some.inj h)
  exact ⟨rfl, rfl⟩

/-- The reader takes no word. -/
def Still (p : Reader α) : Prop := ∀ c, ∃ a, p c = some (a, c)

/-- A chain goes on where its first reader stays. -/
theorem Still.exists_of_bind {s : Reader α} {k : α → Reader β} {b : β} (hs : Still s)
    (h : (s >>= k) c = some (b, c'')) : ∃ a, k a c = some (b, c'') := by
  obtain ⟨a, ha⟩ := hs c
  exact ⟨a, (bind_of_some ha).symm.trans h⟩

theorem still_here : Still here := fun _ => ⟨_, rfl⟩

theorem still_spanFrom (start : Position) : Still (spanFrom start) := fun _ => ⟨_, rfl⟩

/-- Where the next word begins, or the last one ended if no word is left. -/
def Cursor.start (c : Cursor) : Position := (c.rest.head?.map fun t => t.span.start).getD c.stop

/-- A chain that looks where the next word begins goes on with that position. -/
theorem of_here {k : Position → Reader β} {b : β} (h : (here >>= k) c = some (b, c'')) :
    k c.start c = some (b, c'') := h

/-- A chain that asks for a place goes on with the one that ends where the last word did. -/
theorem of_spanFrom {start : Position} {k : Span → Reader β} {b : β}
    (h : (spanFrom start >>= k) c = some (b, c'')) : k ⟨start, c.stop⟩ c = some (b, c'') := h

theorem still_at? (text : String) : Still (at? text) := fun _ => ⟨_, rfl⟩

theorem still_peekSecond : Still peekSecond := fun _ => ⟨_, rfl⟩

theorem still_atClause : Still atClause := fun _ => ⟨_, rfl⟩

/-! ## 2. Words -/

/-- How the next word is written, if it is no name, number or text. -/
def Cursor.word? (c : Cursor) : Option String := (c.rest.head?.map Token.lexeme).bind spelling

/-- How the word behind the next one is written, if it is no name, number or text. -/
def Cursor.second? (c : Cursor) : Option String := (c.rest[1]?.map Token.lexeme).bind spelling

theorem peek_eq (c : Cursor) : peek c = some (c.rest.head?.map Token.lexeme, c) := rfl

theorem at?_eq (text : String) (c : Cursor) : at? text c = some (c.word? == some text, c) := rfl

theorem at?_of_ne (h : c.word? ≠ some text) : at? text c = some (false, c) := by
  rw [at?_eq, beq_eq_false_iff_ne.2 h]

theorem at?_of_eq (h : c.word? = some text) : at? text c = some (true, c) := by
  rw [at?_eq, h, beq_self_eq_true]

/-- Whether a name comes next is answered without taking it. -/
theorem nameBefore_ok (text : String) (c : Cursor) :
    ∃ b, nameBefore text c = some (b, c) ∧ (b = true → c.second? = some text) := by
  obtain ⟨stop, tokens⟩ := c
  cases tokens with
  | nil => exact ⟨false, rfl, fun h => nomatch h⟩
  | cons t rest =>
    obtain ⟨lexeme, span⟩ := t
    cases lexeme with
    | name => exact ⟨_, rfl, fun h => eq_of_beq h⟩
    | _ => exact ⟨false, rfl, fun h => nomatch h⟩

theorem nameBefore_of_ne (h : c.second? ≠ some text) : nameBefore text c = some (false, c) := by
  obtain ⟨b, hb, hsecond⟩ := nameBefore_ok text c
  cases b with
  | false => exact hb
  | true => exact absurd (hsecond rfl) h

/-- A word that is written somehow is there. -/
theorem exists_of_word? (h : c.word? = some text) :
    ∃ t rest, c.rest = t :: rest ∧ spelling t.lexeme = some text := by
  obtain ⟨stop, tokens⟩ := c
  cases tokens with
  | nil => cases h
  | cons t rest => exact ⟨t, rest, rfl, h⟩

theorem accept_of_ne (h : c.word? ≠ some text) : accept text c = some (false, c) := by
  unfold accept
  rw [bind_of_some (at?_of_ne h)]
  rfl

theorem accept_of_eq {stop : Position} {t : Token} {rest : List Token}
    (h : spelling t.lexeme = some text) :
    accept text ⟨stop, t :: rest⟩ = some (true, ⟨t.span.stop, rest⟩) := by
  unfold accept
  rw [bind_of_some (at?_of_eq (c := ⟨stop, t :: rest⟩) h)]
  rfl

/-- What taking a word comes to. -/
theorem accept_cases {b : Bool} (h : accept text c = some (b, c')) :
    b = false ∧ c' = c ∧ c.word? ≠ some text ∨
    b = true ∧ ∃ t rest, c.rest = t :: rest ∧ spelling t.lexeme = some text ∧
      c' = ⟨t.span.stop, rest⟩ := by
  by_cases hw : c.word? = some text
  · obtain ⟨t, rest, hrest, ht⟩ := exists_of_word? hw
    obtain ⟨stop, tokens⟩ := c
    obtain rfl : tokens = t :: rest := hrest
    rw [accept_of_eq ht] at h
    obtain ⟨rfl, rfl⟩ := Prod.mk.inj (Option.some.inj h)
    exact .inr ⟨rfl, t, rest, rfl, ht, rfl⟩
  · rw [accept_of_ne hw] at h
    obtain ⟨rfl, rfl⟩ := Prod.mk.inj (Option.some.inj h)
    exact .inl ⟨rfl, rfl, hw⟩

/-- A chain goes on where a word is not taken, or behind it. -/
theorem exists_of_accept {k : Bool → Reader β} {b : β}
    (h : (accept text >>= k) c = some (b, c'')) :
    k false c = some (b, c'') ∨ ∃ t rest, c.rest = t :: rest ∧ spelling t.lexeme = some text ∧
      k true ⟨t.span.stop, rest⟩ = some (b, c'') := by
  obtain ⟨taken, mid, htaken, hk⟩ := exists_of_bind h
  rcases accept_cases htaken with ⟨rfl, rfl, -⟩ | ⟨rfl, t, rest, hrest, ht, rfl⟩
  · exact .inl hk
  · exact .inr ⟨t, rest, hrest, ht, hk⟩

theorem expect_of_eq {stop : Position} {t : Token} {rest : List Token}
    (h : spelling t.lexeme = some text) :
    expect text ⟨stop, t :: rest⟩ = some ((), ⟨t.span.stop, rest⟩) := by
  unfold expect
  rw [bind_of_some (accept_of_eq h)]
  rfl

theorem expect_ok {u : Unit} (h : expect text c = some (u, c')) :
    ∃ t rest, c.rest = t :: rest ∧ spelling t.lexeme = some text ∧ c' = ⟨t.span.stop, rest⟩ := by
  obtain ⟨b, mid, hb, h⟩ := exists_of_bind h
  rcases accept_cases hb with ⟨rfl, -, -⟩ | ⟨rfl, t, rest, hrest, ht, rfl⟩
  · cases h
  · obtain ⟨-, rfl⟩ := pure_eq_some h
    exact ⟨t, rest, hrest, ht, rfl⟩

theorem advance_ok {u : Unit} (h : advance c = some (u, c')) :
    ∃ t rest, c.rest = t :: rest ∧ c' = ⟨t.span.stop, rest⟩ := by
  obtain ⟨stop, tokens⟩ := c
  cases tokens with
  | nil => cases h
  | cons t rest =>
    obtain ⟨-, rfl⟩ := Prod.mk.inj (Option.some.inj h)
    exact ⟨t, rest, rfl, rfl⟩

theorem expectName_ok {id : String} (h : expectName c = some (id, c')) :
    ∃ t rest, c.rest = t :: rest ∧ t.lexeme = .name id ∧ c' = ⟨t.span.stop, rest⟩ := by
  obtain ⟨stop, tokens⟩ := c
  cases tokens with
  | nil => cases h
  | cons t rest =>
    obtain ⟨lexeme, span⟩ := t
    cases lexeme with
    | name =>
      obtain ⟨rfl, rfl⟩ := pure_eq_some h
      exact ⟨_, rest, rfl, rfl, rfl⟩
    | _ => cases h

/-- An operator is looked up by how the next word is written. -/
theorem operatorAt_eq (entries : List (String × String × Bool)) (c : Cursor) :
    operatorAt entries c =
      some (c.word?.bind fun text => (entries.find? fun e => e.1 == text).map (·.2), c) := by
  refine (bind_of_some (peek_eq c)).trans ?_
  unfold Cursor.word?
  generalize (c.rest.head?.map Token.lexeme).bind spelling = word?
  cases word? <;> rfl

/-- The operator that comes next is one of the entries. -/
theorem operatorAt_ok {entries : List (String × String × Bool)} {name : String} {known : Bool}
    (h : operatorAt entries c = some (some (name, known), c')) :
    c' = c ∧ ∃ t rest text, c.rest = t :: rest ∧ spelling t.lexeme = some text ∧
      (text, name, known) ∈ entries := by
  rw [operatorAt_eq] at h
  obtain ⟨hfound, rfl⟩ := Prod.mk.inj (Option.some.inj h)
  obtain ⟨text, hword, hentry⟩ := Option.bind_eq_some_iff.1 hfound
  obtain ⟨t, rest, hrest, ht⟩ := exists_of_word? hword
  obtain ⟨entry, hfind, hentry⟩ := Option.map_eq_some_iff.1 hentry
  have hspelled : entry.1 = text := by simpa using List.find?_some hfind
  refine ⟨rfl, t, rest, text, hrest, ht, ?_⟩
  rw [← hspelled, ← hentry]
  exact List.mem_of_find?_eq_some hfind

theorem operatorAt_none {entries : List (String × String × Bool)}
    (h : operatorAt entries c = some (none, c')) : c' = c := by
  rw [operatorAt_eq] at h
  exact (Prod.mk.inj (Option.some.inj h)).2.symm

/-! ## 3. Loops -/

/-- **What each turn of a loop keeps, the loop keeps**, up to a turn that ends it. -/
theorem iterate_invariant {item : α → Reader (Option α)} (I : α → Cursor → Prop)
    (hturn : ∀ a c a' c', I a c → item a c = some (some a', c') → I a' c') {bound : Nat} {a b : α}
    (ha : I a c) (h : iterate bound item a c = some (b, c'')) :
    ∃ c', I b c' ∧ item b c' = some (none, c'') := by
  induction bound generalizing a c with
  | zero => cases h
  | succ bound ih =>
    obtain ⟨next, mid, hnext, h⟩ := exists_of_bind h
    cases next with
    | some a' => exact ih (hturn a c a' mid ha hnext) h
    | none =>
      obtain ⟨rfl, rfl⟩ := pure_eq_some h
      exact ⟨c, ha, hnext⟩

theorem repeated_invariant {item : α → Reader (Option α)} (I : α → Cursor → Prop)
    (hturn : ∀ a c a' c', I a c → item a c = some (some a', c') → I a' c') {a b : α}
    (ha : I a c) (h : repeated item a c = some (b, c'')) :
    ∃ c', I b c' ∧ item b c' = some (none, c'') := by
  obtain ⟨_, _, hget, h⟩ := exists_of_bind h
  obtain ⟨rfl, rfl⟩ := Prod.mk.inj (Option.some.inj hget)
  exact iterate_invariant I hturn ha h

/-- What each turn of a loop keeps, the loop keeps, if the turn that ends it takes no word. -/
theorem repeated_keeps {item : α → Reader (Option α)} (I : α → Cursor → Prop)
    (hturn : ∀ a c next c', I a c → item a c = some (next, c') →
      next = none ∧ c' = c ∨ ∃ a', next = some a' ∧ I a' c') {a b : α} (ha : I a c)
    (h : repeated item a c = some (b, c')) : I b c' := by
  have hstep (a : α) (c : Cursor) (a' : α) (c' : Cursor) (ha : I a c)
      (hnext : item a c = some (some a', c')) : I a' c' := by
    rcases hturn a c _ c' ha hnext with ⟨hnone, -⟩ | ⟨_, hsome, ha'⟩
    · cases hnone
    · cases hsome
      exact ha'
  obtain ⟨before, hb, hend⟩ := repeated_invariant I hstep ha h
  rcases hturn b before _ c' hb hend with ⟨-, rfl⟩ | ⟨_, hsome, -⟩
  · exact hb
  · cases hsome

/-- Turns of a loop, each of which takes a word, lead from one value and cursor to others. -/
inductive Turns (item : α → Reader (Option α)) (a : α) (c : Cursor) : α → Cursor → Prop where
  | refl : Turns item a c a c
  | snoc {b b' : α} {c' c'' : Cursor} (h : Turns item a c b c')
      (hturn : item b c' = some (some b', c'')) (hless : c''.rest.length < c'.rest.length) :
      Turns item a c b' c''

theorem Turns.iterate_eq {item : α → Reader (Option α)} {a b : α} (h : Turns item a c b c') :
    ∃ k, k + c'.rest.length ≤ c.rest.length ∧
      ∀ n, iterate (n + k) item a c = iterate n item b c' := by
  induction h with
  | refl => exact ⟨0, Nat.le_of_eq (Nat.zero_add _), fun _ => rfl⟩
  | @snoc b b' c' c'' _ hturn hless ih =>
    obtain ⟨k, hk, hiterate⟩ := ih
    refine ⟨k + 1, by omega, fun n => ?_⟩
    have hone : iterate (n + 1) item b c' = iterate n item b' c'' := by
      show (item b >>= _) c' = _
      rw [bind_of_some hturn]
    rw [show n + (k + 1) = n + 1 + k by omega, hiterate, hone]

/-- **Turns up to one that ends the loop are what the loop does.** -/
theorem repeated_of_turns {item : α → Reader (Option α)} {a b : α} (h : Turns item a c b c')
    (hend : item b c' = some (none, c'')) : repeated item a c = some (b, c'') := by
  obtain ⟨k, hk, hiterate⟩ := h.iterate_eq
  obtain ⟨n, hn⟩ : ∃ n, c.rest.length + 1 = n + 1 + k := ⟨c.rest.length - k, by omega⟩
  have hrepeated : repeated item a c = iterate (n + 1 + k) item a c := hn ▸ rfl
  rw [hrepeated, hiterate]
  show (item b >>= _) c' = _
  rw [bind_of_some hend]
  rfl

end Grammar

end VisualScale
