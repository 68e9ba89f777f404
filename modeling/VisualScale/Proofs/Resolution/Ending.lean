import VisualScale.Proofs.Resolution.Apart
import VisualScale.Proofs.Resolution.Fold

/-!
# Resolution ends

Bindings can stand behind themselves, so nothing becomes smaller on the way down. What ends a pass
is that every binding whose body it begins is one more that it has entered, and that it enters none
twice; so bodies do not stand inside each other deeper than there are bindings.

`Work.resolve` counts down from that number. To see that the countdown decides nothing, the same
work is done without it (`Run.resolve`): a limit says how deep calls may nest, and where they go
deeper nothing comes out, neither an expression nor a failure. The run takes down the bindings whose
bodies it begins.

* `Run.resolve_mono` -- what has come out below one limit comes out below every higher one;
* `ends_resolve` -- below a limit that is higher than the number of bindings something comes out,
  and it is what the countdown gives; no body was begun twice;
* `Resolver.resolve_ends` -- both for a call, which fails if a cycle stands behind the binding.
-/

namespace VisualScale

open Parts

/-! ## 1. Work without a countdown -/

/-- A desk, and the bindings whose bodies were begun at it, first ones first. -/
structure Watched where
  desk : Desk
  begun : List BindingId

/-- Work that need not end. Nothing comes out if it does not. -/
abbrev Run := ExceptT Failure (StateT Watched Option)

namespace Run

variable {α β : Type}

/-- Work that ends, and begins no body. -/
def ofWork (w : Work α) : Run α := fun d =>
  let (outcome, desk) := w d.desk
  some (outcome, { d with desk })

/-- The desk. -/
def desk : Run Desk := ofWork get

/-- Another binding is entered, and its body is begun. -/
def enter (id : BindingId) : Run Unit := do
  ofWork (Work.enter id)
  modify fun d => { d with begun := d.begun ++ [id] }

/-- A run, and at its end, however it ends, a last change of the desk. -/
def endingWith (r : Run α) (last : Desk → Desk) : Run α := fun d =>
  (r d).map fun (outcome, d) => (outcome, { d with desk := last d.desk })

/-- A run inside the pass under way; or, if none is, as a pass of its own, at whose end all bindings
    that it entered are marked. -/
def inPass (r : Run α) : Run α := do
  if (← desk).pending.isSome then r
  else
    ofWork (modify fun d => { d with pending := some [] })
    let all : Run α := do
      let a ← r
      ofWork (do Work.markEach (← Work.pending))
      return a
    all.endingWith fun d => { d with pending := none }

/-- Resolves a binding, by calls that may nest as deep as the limit. -/
def resolve (refs : References) : (limit : Nat) → BindingId → Run Expr
  | 0, _ => fun _ => none
  | limit + 1, id => do
    let b ← ofOutcome ((← desk).store.binding id)
    if b.state = .resolved then fail .alreadyResolved
    inPass do
      if id ∈ (← ofWork Work.pending) then fail .usedTwice
      enter id
      let scale ← ofOutcome ((← desk).store.scale b.scale)
      body refs (resolve refs limit) scale b

/-! ## 2. Higher limits -/

theorem bind_of_ok {r : Run α} {d d' : Watched} {a : α} (h : r d = some (.ok a, d'))
    (k : α → Run β) : (r >>= k) d = k a d' := by
  show ((r d).bind fun p =>
    (ExceptT.bindCont k p.1 : StateT Watched Option (Except Failure β)) p.2) = _
  rw [h]
  rfl

theorem bind_of_error {r : Run α} {d d' : Watched} {f : Failure} (h : r d = some (.error f, d'))
    (k : α → Run β) : (r >>= k) d = some (.error f, d') := by
  show ((r d).bind fun p =>
    (ExceptT.bindCont k p.1 : StateT Watched Option (Except Failure β)) p.2) = _
  rw [h]
  rfl

/-- What comes out of the first run comes out of the second one. -/
def Approximates (r r' : Run α) : Prop := ∀ ⦃d p⦄, r d = some p → r' d = some p

theorem Approximates.refl (r : Run α) : Approximates r r := fun _ _ h => h

theorem Approximates.bind {r r' : Run α} (h : Approximates r r') {k k' : α → Run β}
    (hk : ∀ a, Approximates (k a) (k' a)) : Approximates (r >>= k) (r' >>= k') := by
  intro d p hp
  cases hr : r d with
  | none =>
    have hbind : (r >>= k) d = (r d).bind _ := rfl
    rw [hbind, hr] at hp
    cases hp
  | some first =>
    obtain ⟨outcome, d'⟩ := first
    have hr' := h hr
    cases outcome with
    | ok a =>
      rw [bind_of_ok hr] at hp
      rw [bind_of_ok hr']
      exact hk a hp
    | error f =>
      rw [bind_of_error hr] at hp
      rw [bind_of_error hr']
      exact hp

theorem parallel_approximates :
    Parallel (fun _ => Approximates : (α : Type) → Run α → Run α → Prop) where
  ends a := .refl (pure a)
  fails f := .refl (throw f)
  chain h hk := h.bind hk

theorem Approximates.endingWith {r r' : Run α} (h : Approximates r r') (last : Desk → Desk) :
    Approximates (r.endingWith last) (r'.endingWith last) := by
  intro d p hp
  obtain ⟨first, hr, hlast⟩ := Option.map_eq_some_iff.1 hp
  exact Option.map_eq_some_iff.2 ⟨first, h hr, hlast⟩

theorem Approximates.inPass {r r' : Run α} (h : Approximates r r') :
    Approximates (inPass r) (inPass r') := by
  refine (Approximates.refl desk).bind fun d => ?_
  split
  · exact h
  · refine (Approximates.refl _).bind fun _ => Approximates.endingWith ?_ _
    exact h.bind fun a => .refl _

/-- What comes out below a limit comes out below the next one. -/
theorem approximates_succ (refs : References) (limit : Nat) (id : BindingId) :
    Approximates (resolve refs limit id) (resolve refs (limit + 1) id) := by
  have hR := parallel_approximates
  induction limit generalizing id with
  | zero => exact fun _ _ h => nomatch h
  | succ limit ih =>
    refine (Approximates.refl desk).bind fun d => (hR.ofOutcome _).bind fun b => hR.guarded _ ?_
    refine Approximates.inPass ((Approximates.refl _).bind fun entered => hR.guarded _ ?_)
    refine (Approximates.refl _).bind fun _ => (Approximates.refl desk).bind fun d => ?_
    exact (hR.ofOutcome _).bind fun scale => hR.body refs ih scale b

/-- **What has come out below one limit comes out below every higher one.** -/
theorem resolve_mono {refs : References} {limit higher : Nat} (hle : limit ≤ higher)
    {id : BindingId} {d : Watched} {p : Except Failure Expr × Watched}
    (h : resolve refs limit id d = some p) : resolve refs higher id d = some p := by
  induction hle with
  | refl => exact h
  | @step higher _ ih => exact approximates_succ refs higher id ih

theorem endingWith_of_eq {r : Run α} {d d' : Watched} {outcome : Except Failure α}
    (h : r d = some (outcome, d')) (last : Desk → Desk) :
    r.endingWith last d = some (outcome, ⟨last d'.desk, d'.begun⟩) := by
  unfold Run.endingWith
  rw [h]
  rfl

end Run

/-! ## 3. Limits that are high enough -/

/-- The bindings are new, and none is listed twice. -/
structure Store.NewOnce (s : Store) (ids : List BindingId) : Prop where
  nodup : ids.Nodup
  created : ∀ x ∈ ids, s.state? x = some .created

theorem Store.NewOnce.snoc {s : Store} {ids : List BindingId} (h : s.NewOnce ids) {id : BindingId}
    (hid : id ∉ ids) (hnew : s.state? id = some .created) : s.NewOnce (ids ++ [id]) where
  nodup := List.nodup_append.2 ⟨h.nodup, List.nodup_singleton id, fun x hx y hy hxy =>
    hid (List.mem_singleton.1 hy ▸ hxy ▸ hx)⟩
  created x hx := by
    rcases List.mem_append.1 hx with hx | hx
    · exact h.created x hx
    · exact List.mem_singleton.1 hx ▸ hnew

/-- What the pass under way has entered was new, and was entered once. -/
abbrev Desk.Sound (d : Desk) : Prop := d.store.NewOnce (d.pending.getD [])

/-- Work at a desk entered bindings: inside the pass under way, and nothing else changed; or, if
    none was, in a pass of its own that is over. -/
structure Desk.Entered (d d' : Desk) (more : List BindingId) : Prop where
  pending : d'.pending = d.pending.map (· ++ more)
  store : d.pending.isSome = true → d'.store = d.store
  newOnce : d.store.NewOnce (d.pending.getD [] ++ more)

theorem Desk.Entered.nothing {d : Desk} (h : d.Sound) : d.Entered d [] where
  pending := by simp
  store _ := rfl
  newOnce := by rwa [List.append_nil]

theorem Desk.Entered.inside {s : Store} {entered more : List BindingId}
    (h : s.NewOnce (entered ++ more)) :
    Desk.Entered ⟨s, some entered⟩ ⟨s, some (entered ++ more)⟩ more where
  pending := rfl
  store _ := rfl
  newOnce := h

theorem Desk.Entered.eq {s : Store} {entered more : List BindingId} {d' : Desk}
    (h : Desk.Entered ⟨s, some entered⟩ d' more) : d' = ⟨s, some (entered ++ more)⟩ := by
  obtain ⟨hpending, hstore, -⟩ := h
  obtain ⟨s', pending⟩ := d'
  obtain rfl : pending = some (entered ++ more) := hpending
  obtain rfl : s' = s := hstore rfl
  rfl

/-- The run ends as the work does, and begins the bodies of the bindings that the work enters. -/
def Ends {α : Type} (d : Desk) (w : Work α) (r : Run α) : Prop :=
  ∃ outcome d' more, d.Entered d' more ∧ w d = (outcome, d') ∧
    ∀ begun, r ⟨d, begun⟩ = some (outcome, ⟨d', begun ++ more⟩)

section Ends

variable {α β : Type} {d : Desk} {s : Store} {entered : List BindingId}

theorem ends_pure (h : d.Sound) (a : α) : Ends d (pure a) (pure a) :=
  ⟨.ok a, d, [], .nothing h, rfl, fun begun => by rw [List.append_nil]; rfl⟩

theorem ends_throw (h : d.Sound) (f : Failure) : Ends d (throw f : Work α) (throw f) :=
  ⟨.error f, d, [], .nothing h, rfl, fun begun => by rw [List.append_nil]; rfl⟩

/-- Work that goes on from an outcome. -/
theorem ends_ofOutcome_bind (hd : d.Sound) {o : Except Failure α} {k : α → Work β}
    {l : α → Run β} (h : ∀ a, o = .ok a → Ends d (k a) (l a)) :
    Ends d (ofOutcome o >>= k) (ofOutcome o >>= l) := by
  cases o with
  | ok a => exact h a rfl
  | error f => exact ends_throw hd f

/-- Work that goes on unless it fails first. -/
theorem ends_unless (hd : d.Sound) {c : Prop} [Decidable c] (f : Fault) {w : Work α} {r : Run α}
    (h : ¬ c → Ends d w r) :
    Ends d (if c then (fail f : Work PUnit) >>= fun _ => w else w)
      (if c then (fail f : Run PUnit) >>= fun _ => r else r) := by
  split
  · exact ends_throw hd _
  · next hc => exact h hc

theorem ends_desk {k : Desk → Work α} {l : Desk → Run α} (h : Ends d (k d) (l d)) :
    Ends d (get >>= k) (Run.desk >>= l) := h

theorem ends_pending {k : List BindingId → Work α} {l : List BindingId → Run α}
    (h : Ends ⟨s, some entered⟩ (k entered) (l entered)) :
    Ends ⟨s, some entered⟩ (Work.pending >>= k) (Run.ofWork Work.pending >>= l) := h

/-- Inside a pass, one stretch of work after another. -/
theorem Ends.bind {w : Work α} {r : Run α} (h : Ends ⟨s, some entered⟩ w r) {k : α → Work β}
    {l : α → Run β} (hk : ∀ a more, s.NewOnce (entered ++ more) →
      Ends ⟨s, some (entered ++ more)⟩ (k a) (l a)) :
    Ends ⟨s, some entered⟩ (w >>= k) (r >>= l) := by
  obtain ⟨outcome, d', more, hentered, hw, hr⟩ := h
  obtain rfl := hentered.eq
  cases outcome with
  | error f =>
    exact ⟨.error f, _, more, hentered, Work.bind_of_error hw k, fun begun =>
      Run.bind_of_error (hr begun) l⟩
  | ok a =>
    obtain ⟨outcome, d', others, hothers, hw', hr'⟩ := hk a more hentered.newOnce
    obtain rfl := hothers.eq
    have hall : s.NewOnce (entered ++ more ++ others) := hothers.newOnce
    rw [List.append_assoc] at hall hw' hr'
    refine ⟨outcome, _, more ++ others, .inside hall, ?_, fun begun => ?_⟩
    · rw [Work.bind_of_ok hw]
      exact hw'
    · rw [Run.bind_of_ok (hr begun), hr', List.append_assoc]

/-- Work that enters a binding first. -/
theorem ends_enter {id : BindingId} {w : Work α} {r : Run α}
    (h : Ends ⟨s, some (entered ++ [id])⟩ w r) :
    Ends ⟨s, some entered⟩ (Work.enter id >>= fun _ => w) (Run.enter id >>= fun _ => r) := by
  obtain ⟨outcome, d', more, hentered, hw, hr⟩ := h
  obtain rfl := hentered.eq
  have hall : s.NewOnce (entered ++ [id] ++ more) := hentered.newOnce
  rw [List.append_assoc] at hall hw hr
  refine ⟨outcome, _, [id] ++ more, .inside hall, hw, fun begun => ?_⟩
  rw [← List.append_assoc begun]
  exact hr (begun ++ [id])

/-- Where no pass is under way, work is a pass of its own. -/
theorem Work.inPass_none (w : Work α) :
    Work.inPass w ⟨s, none⟩ =
      Work.endingWith (do let a ← w; Work.markEach (← Work.pending); return a)
        (fun d => { d with pending := none }) ⟨s, some []⟩ := rfl

theorem Run.inPass_none (r : Run α) (begun : List BindingId) :
    Run.inPass r ⟨⟨s, none⟩, begun⟩ =
      Run.endingWith (do
        let a ← r
        Run.ofWork (do Work.markEach (← Work.pending))
        return a) (fun d => { d with pending := none }) ⟨⟨s, some []⟩, begun⟩ := rfl

/-- Where no pass is under way, the marks are set at the end of the work, and the pass is over. -/
theorem ends_marking {a : α} {more : List BindingId} {w : Work α} {r : Run α}
    (hmore : s.NewOnce more) (hw : w ⟨s, some []⟩ = (.ok a, ⟨s, some more⟩))
    (hr : ∀ begun, r ⟨⟨s, some []⟩, begun⟩ = some (.ok a, ⟨⟨s, some more⟩, begun ++ more⟩)) :
    Ends ⟨s, none⟩ (Work.inPass w) (Run.inPass r) := by
  have hmarked : (do Work.markEach (← Work.pending) : Work Unit) ⟨s, some more⟩ =
      (.ok (), ⟨s.markAll more, some more⟩) := Work.markEach_of_created hmore.nodup hmore.created
  have hrun (begun : List BindingId) :
      Run.ofWork (do Work.markEach (← Work.pending)) ⟨⟨s, some more⟩, begun⟩ =
        some (.ok (), ⟨⟨s.markAll more, some more⟩, begun⟩) := by
    unfold Run.ofWork
    dsimp only
    rw [hmarked]
  refine ⟨.ok a, ⟨s.markAll more, none⟩, more, ⟨rfl, nofun, hmore⟩, ?_, fun begun => ?_⟩
  · rw [Work.inPass_none]
    have hall : (do let a ← w; Work.markEach (← Work.pending); return a : Work α) ⟨s, some []⟩ =
        (.ok a, ⟨s.markAll more, some more⟩) :=
      (Work.bind_of_ok hw _).trans (Work.bind_of_ok hmarked _)
    exact Work.endingWith_of_eq hall _
  · rw [Run.inPass_none]
    have hall : (do
        let a ← r
        Run.ofWork (do Work.markEach (← Work.pending))
        return a : Run α) ⟨⟨s, some []⟩, begun⟩ =
          some (.ok a, ⟨⟨s.markAll more, some more⟩, begun ++ more⟩) :=
      (Run.bind_of_ok (hr begun) _).trans (Run.bind_of_ok (hrun _) _)
    exact Run.endingWith_of_eq hall _

/-- Work inside the pass under way; or, if none is, as a pass of its own, whose marks are all set:
    what it entered was new, and was entered once. -/
theorem ends_inPass {w : Work α} {r : Run α}
    (h : Ends ⟨d.store, some (d.pending.getD [])⟩ w r) :
    Ends d (Work.inPass w) (Run.inPass r) := by
  obtain ⟨s, pending⟩ := d
  cases pending with
  | some entered => exact h
  | none =>
    obtain ⟨outcome, d', more, hentered, hw, hr⟩ := h
    obtain rfl := hentered.eq
    cases outcome with
    | ok a => exact ends_marking hentered.newOnce hw hr
    | error f =>
      refine ⟨.error f, ⟨s, none⟩, more, ⟨rfl, nofun, hentered.newOnce⟩, ?_, fun begun => ?_⟩
      · rw [Work.inPass_none]
        exact Work.endingWith_of_eq (Work.bind_of_error hw _) _
      · rw [Run.inPass_none]
        exact Run.endingWith_of_eq (Run.bind_of_error (hr begun) _) _

/-- Inside a pass, with room for so many more bindings, the run ends as the work does. -/
def EndsWithRoom {α : Type} (s : Store) (room : Nat) (w : Work α) (r : Run α) : Prop :=
  ∀ entered, s.NewOnce entered → s.bindings.length ≤ entered.length + room →
    Ends ⟨s, some entered⟩ w r

theorem parallel_endsWithRoom (s : Store) (room : Nat) :
    Parallel (fun _ => EndsWithRoom s room : (α : Type) → Work α → Run α → Prop) where
  ends a _ h _ := ends_pure h a
  fails f _ h _ := ends_throw h f
  chain h hk entered hentered hroom := (h entered hentered hroom).bind fun a more hmore => by
    refine hk a _ hmore ?_
    rw [List.length_append]
    omega

/-- Where every new binding has been entered, there is none to enter. -/
theorem Store.NewOnce.mem_of_length_le (h : s.NewOnce entered)
    (hlength : s.bindings.length ≤ entered.length) {id : BindingId}
    (hnew : s.state? id = some .created) : id ∈ entered := by
  by_contra hid
  have hmore := h.snoc hid hnew
  have hle := Store.length_le_of_created hmore.nodup hmore.created
  rw [List.length_append, List.length_singleton] at hle
  omega

theorem Store.state?_of_binding {id : BindingId} {b : Binding} (hb : s.binding id = .ok b)
    (hstate : ¬ b.state = .resolved) : s.state? id = some .created := by
  unfold Store.state?
  rw [Store.binding_ok hb, Option.map_some]
  cases h : b.state with
  | created => rfl
  | resolved => exact absurd h hstate

/-- **Below a limit that is higher than the number of bindings, resolving ends, and as it does with
    the countdown.** The body that is begun is always that of one more binding, so where the
    countdown has come to its end there is none to begin. -/
theorem ends_resolve (refs : References) (room : Nat) (hd : d.Sound)
    (hroom : d.store.bindings.length ≤ (d.pending.getD []).length + room) (id : BindingId) :
    Ends d (Work.resolve refs room id) (Run.resolve refs (room + 1) id) := by
  induction room generalizing d id with
  | zero =>
    refine ends_desk (ends_ofOutcome_bind hd fun b hb => ends_unless hd _ fun hstate => ?_)
    refine ends_inPass (ends_pending (ends_unless (d := ⟨d.store, some _⟩) hd _ fun hfresh => ?_))
    exact absurd (hd.mem_of_length_le hroom (Store.state?_of_binding hb hstate)) hfresh
  | succ room ih =>
    refine ends_desk (ends_ofOutcome_bind hd fun b hb => ends_unless hd _ fun hstate => ?_)
    refine ends_inPass (ends_pending (ends_unless (d := ⟨d.store, some _⟩) hd _ fun hfresh => ?_))
    have hmore := hd.snoc hfresh (Store.state?_of_binding hb hstate)
    refine ends_enter (ends_desk ?_)
    refine ends_ofOutcome_bind (d := ⟨d.store, some _⟩) hmore fun scale _ => ?_
    have hbelow (child : BindingId) : EndsWithRoom d.store room (Work.resolve refs room child)
        (Run.resolve refs (room + 1) child) := fun entered hentered hroom => ih hentered hroom child
    refine (parallel_endsWithRoom d.store room).body refs hbelow scale b _ hmore ?_
    rw [List.length_append, List.length_singleton]
    omega

end Ends

/-! ## 4. Calls -/

/-- **Resolution ends.** Whatever calls a resolver has served, and whichever bindings of a store
    stand behind themselves: resolving a binding without a countdown ends, below every limit that is
    higher than the number of bindings, with the outcome and the store that the resolver gives; the
    bodies that it begins are those of bindings that were new, none of them twice. And if a binding
    that stands behind itself is reached, the outcome is a failure. -/
theorem Resolver.resolve_ends (refs : References) (calls : List Resolver.Call) (s : Store)
    (id : BindingId) :
    let (outcome, _, after) := ((Resolver.new refs).after calls).resolve s id
    (∃ begun, begun.Nodup ∧ (∀ x ∈ begun, s.state? x = some .created) ∧
      ∀ limit, s.bindings.length < limit →
        Run.resolve refs limit id ⟨⟨s, none⟩, []⟩ = some (outcome, ⟨⟨after, none⟩, begun⟩)) ∧
    ∀ x, s.Reaches id x → s.OnCycle x → ∃ f, outcome = .error f := by
  have hidle : ((Resolver.new refs).after calls).Idle := Resolver.idle_after calls rfl
  have hrefs : ((Resolver.new refs).after calls).references = refs :=
    Resolver.references_after _ calls
  generalize (Resolver.new refs).after calls = r at hidle hrefs
  obtain ⟨references, pending⟩ := r
  obtain rfl : pending = none := hidle
  obtain rfl : references = refs := hrefs
  have hnone : s.NewOnce [] := ⟨List.nodup_nil, nofun⟩
  obtain ⟨outcome, d, begun, hentered, hwork, hrun⟩ :=
    ends_resolve (d := ⟨s, none⟩) references s.bindings.length hnone (Nat.le_add_left _ _) id
  obtain ⟨after, pending⟩ := d
  obtain rfl : pending = none := hentered.pending
  have hresolve : Resolver.resolve ⟨references, none⟩ s id = (outcome, ⟨references, none⟩, after) :=
    Resolver.work_of_eq (r := ⟨references, none⟩) hwork
  obtain ⟨hn, hnew⟩ := hentered.newOnce
  rw [hresolve]
  refine ⟨⟨begun, hn, hnew, fun limit hlimit => Run.resolve_mono hlimit (hrun [])⟩, ?_⟩
  intro x hx hcycle
  rcases Resolver.resolve_cases (r := ⟨references, none⟩) rfl s id with ⟨f, h⟩ | ⟨e, visited, -, hv⟩
  · rw [hresolve] at h
    exact ⟨f, (Prod.mk.inj h).1⟩
  · exact absurd hcycle (hv.unfolds.not_onCycle (hv.distinct .nil) hx)

/-- A sum that is its own first argument: the pass begins one body, and fails inside it. -/
example :
    let s : Store := ⟨[.arithmetic .add], [⟨⟨0⟩, .float, [.float, .float],
      [.binding ⟨0⟩, Scale.floatValue 1], .created, rfl⟩]⟩
    Run.resolve columnOf 2 ⟨0⟩ ⟨⟨s, none⟩, []⟩ =
      some (.error (.plain .usedTwice), ⟨⟨s, none⟩, [⟨0⟩]⟩) := rfl

end VisualScale
