import VisualScale.Proofs.Resolution.Visits

/-!
# Resolution is all or nothing

A pass that fails marks nothing, and one that ends well marks what it has entered, each once; and
that is the tree of the binding that was asked for. Marking can fail half way over a list in which a
binding occurs twice, but never over what a pass has entered (`markEach_of_created`).

* `Store.state?_markAll` -- marking changes the state of the marked bindings only;
* `Work.resolve_idle` -- the outermost pass, from its computation on the list of entered bindings;
* `Resolver.idle_after` -- a resolver is idle between calls, however these end;
* `Resolver.resolve_cases` -- what one call comes to;
* `Resolver.resolveValue_binding` -- resolving a value that is a binding is a call for the binding,
  and a check of what that gives;
* `Resolver.resolve_all_or_nothing` -- the states before and after a call.
-/

namespace VisualScale

variable {s : Store}

/-! ## 1. Marking -/

namespace Store

theorem binding?_mark (s : Store) (id x : BindingId) :
    (s.mark id).binding? x = if id = x then (s.binding? x).map resolvedBinding else s.binding? x := by
  show (s.bindings.modify id.index resolvedBinding)[x.index]? = _
  rw [List.getElem?_modify]
  by_cases h : id = x
  · subst h
    rw [if_pos rfl]
    exact congrArg (Option.map · _) (funext fun b => if_pos rfl)
  · have hi : ¬ id.index = x.index := fun hi => h (congrArg BindingId.mk hi)
    rw [if_neg h]
    exact (congrArg (Option.map · _) (funext fun b => if_neg hi)).trans (Option.map_id_apply ..)

theorem state?_mark_of_ne {id x : BindingId} (h : id ≠ x) : (s.mark id).state? x = s.state? x := by
  unfold state?
  rw [binding?_mark, if_neg h]

/-- Marking changes the state of the marked bindings only. -/
theorem state?_markAll (ids : List BindingId) (x : BindingId) :
    (s.markAll ids).state? x =
      if x ∈ ids then (s.state? x).map fun _ => .resolved else s.state? x := by
  induction ids generalizing s with
  | nil => rfl
  | cons id rest ih =>
    show ((s.mark id).markAll rest).state? x = _
    rw [ih]
    by_cases hx : id = x
    · subst hx
      rw [if_pos List.mem_cons_self]
      unfold state?
      rw [binding?_mark, if_pos rfl]
      cases s.binding? id with
      | none => exact ite_self _
      | some b => exact ite_self _
    · rw [state?_mark_of_ne hx]
      by_cases hr : x ∈ rest
      · rw [if_pos hr, if_pos (List.mem_cons_of_mem _ hr)]
      · rw [if_neg hr, if_neg fun h => (List.mem_cons.mp h).elim (fun h => hx h.symm) hr]

theorem markResolved_of_created {id : BindingId} (h : s.state? id = some .created) :
    s.markResolved id = .ok (s.mark id) := by
  obtain ⟨b, hb, hstate⟩ := Option.map_eq_some_iff.1 h
  have hread : s.binding id = .ok b := by
    unfold binding
    rw [hb]
  unfold markResolved
  rw [hread]
  dsimp only [Bind.bind, Except.bind]
  rw [hstate]

end Store

/-- Bindings that are new, and none of which stands in the list twice, can all be marked. -/
theorem Work.markEach_of_created {ids : List BindingId} {pending : Option (List BindingId)}
    (hn : ids.Nodup) (hnew : ∀ x ∈ ids, s.state? x = some .created) :
    Work.markEach ids ⟨s, pending⟩ = (.ok (), ⟨s.markAll ids, pending⟩) := by
  induction ids generalizing s with
  | nil => rfl
  | cons id rest ih =>
    obtain ⟨hid, hn⟩ := List.nodup_cons.mp hn
    have hfirst := Store.markResolved_of_created (hnew id List.mem_cons_self)
    have hrest : ∀ x ∈ rest, (s.mark id).state? x = some .created := by
      intro x hx
      have hne : id ≠ x := by
        intro heq
        subst heq
        exact hid hx
      rw [Store.state?_mark_of_ne hne]
      exact hnew x (List.mem_cons_of_mem _ hx)
    unfold Work.markEach
    have hstep : (Parts.ofOutcome (s.markResolved id) : Work Store) ⟨s, pending⟩ =
        (.ok (s.mark id), ⟨s, pending⟩) := by
      rw [hfirst]
      rfl
    exact (Work.bind_of_ok hstep _).trans (ih hn hrest)

/-! ## 2. The outermost pass -/

/-- How a pass of its own ends: the bindings that it entered are marked if it ended well, and none
    is if it did not. -/
def Pass.closed {α : Type} (s : Store) :
    Except Failure (α × List BindingId) → Except Failure α × Desk
  | .ok (a, entered) => (.ok a, ⟨s.markAll entered, none⟩)
  | .error f => (.error f, ⟨s, none⟩)

theorem Work.endingWith_of_eq {α : Type} {w : Work α} {d d' : Desk} {outcome : Except Failure α}
    (h : w d = (outcome, d')) (last : Desk → Desk) : w.endingWith last d = (outcome, last d') := by
  unfold Work.endingWith
  rw [h]

/-- Work that is a pass of its own ends as its computation does, if what that enters can be
    marked. -/
theorem Work.inPass_idle {α : Type} {w : Work α} {p : Pass α} (h : Inside s w p)
    (hmark : ∀ a entered, p [] = .ok (a, entered) →
      entered.Nodup ∧ ∀ x ∈ entered, s.state? x = some .created) :
    Work.inPass w ⟨s, none⟩ = Pass.closed s (p []) := by
  show Work.endingWith (do let a ← w; Work.markEach (← Work.pending); return a)
    (fun d => { d with pending := none }) ⟨s, some []⟩ = _
  have hw := h []
  cases hp : p [] with
  | ok r =>
    obtain ⟨a, entered⟩ := r
    rw [hp] at hw
    obtain ⟨hn, hnew⟩ := hmark a entered hp
    have hmarked : Work.markEach entered ⟨s, some entered⟩ = (.ok (), ⟨s.markAll entered, _⟩) :=
      Work.markEach_of_created hn hnew
    have hrun : (do let a ← w; Work.markEach (← Work.pending); return a : Work α) ⟨s, some []⟩ =
        (.ok a, ⟨s.markAll entered, some entered⟩) := by
      rw [Work.bind_of_ok hw]
      exact Work.bind_of_ok hmarked _
    exact Work.endingWith_of_eq hrun _
  | error f =>
    rw [hp] at hw
    obtain ⟨entered, hw⟩ := hw
    exact Work.endingWith_of_eq (Work.bind_of_error hw _) _

/-- Resolving a binding is looking whether it was resolved before, and then a pass. -/
theorem Work.exists_resolve_eq (refs : References) (room : Nat) (id : BindingId) :
    ∃ w : Binding → Work Expr, Work.resolve refs room id = (do
      let b ← Parts.ofOutcome ((← get).store.binding id)
      if b.state = .resolved then Parts.fail .alreadyResolved
      Work.inPass (w b)) := by
  cases room with
  | zero => exact ⟨_, rfl⟩
  | succ room => exact ⟨_, rfl⟩

/-- A binding is refused outright, or resolved in a pass. -/
theorem Work.resolve_cases (refs : References) (room : Nat) (id : BindingId) :
    (∃ f, ∀ pending, Work.resolve refs room id ⟨s, pending⟩ = (.error f, ⟨s, pending⟩)) ∨
      ∃ w, ∀ pending, Work.resolve refs room id ⟨s, pending⟩ = Work.inPass w ⟨s, pending⟩ := by
  obtain ⟨w, hw⟩ := Work.exists_resolve_eq refs room id
  rw [hw]
  cases hb : s.binding id with
  | error f =>
    have hread (pending : Option (List BindingId)) :
        (Parts.ofOutcome (s.binding id) : Work Binding) ⟨s, pending⟩ = (.error f, ⟨s, pending⟩) := by
      rw [hb]
      rfl
    exact .inl ⟨f, fun pending => Work.bind_of_error (hread pending) _⟩
  | ok b =>
    have hread (pending : Option (List BindingId)) :
        (Parts.ofOutcome (s.binding id) : Work Binding) ⟨s, pending⟩ = (.ok b, ⟨s, pending⟩) := by
      rw [hb]
      rfl
    by_cases hstate : b.state = .resolved
    · refine .inl ⟨.plain .alreadyResolved, fun pending => ?_⟩
      refine (Work.bind_of_ok (hread pending) _).trans ?_
      rw [if_pos hstate]
      rfl
    · exact .inr ⟨_, fun pending =>
        (Work.bind_of_ok (hread pending) _).trans (congrFun (if_neg hstate) _)⟩

/-- Where no pass is under way, resolving is a pass of its own. -/
theorem Work.resolve_idle (refs : References) (room : Nat) (id : BindingId) :
    Work.resolve refs room id ⟨s, none⟩ = Pass.closed s (Pass.enter s refs room id []) := by
  have hinside := inside_resolve (s := s) refs room id
  rcases Work.resolve_cases (s := s) refs room id with ⟨f, hf⟩ | ⟨w, hw⟩
  · have h := hinside []
    rw [hf none]
    cases hp : Pass.enter s refs room id [] with
    | ok r =>
      rw [hp, hf] at h
      cases h
    | error g =>
      rw [hp, hf] at h
      obtain ⟨_, h⟩ := h
      cases h
      rfl
  · have hpass : Inside s w (Pass.enter s refs room id) := by
      intro entered
      have h := hinside entered
      rwa [hw] at h
    have hmark (e : Expr) (entered : List BindingId)
        (hp : Pass.enter s refs room id [] = .ok (e, entered)) :
        entered.Nodup ∧ ∀ x ∈ entered, s.state? x = some .created := by
      obtain ⟨visited, rfl, hv⟩ := visits_enter refs room id hp
      exact ⟨hv.distinct .nil, hv.created⟩
    rw [hw none, Work.inPass_idle hpass hmark]

/-! ## 3. Resolvers between calls -/

/-- Work after which no pass is under way if none was before. -/
def Work.Idle {α : Type} (w : Work α) : Prop := ∀ s, (w ⟨s, none⟩).2.pending = none

section Idle

variable {α β : Type}

theorem Work.idle_pure (a : α) : Work.Idle (pure a) := fun _ => rfl

theorem Work.idle_ofOutcome (r : Except Failure α) : Work.Idle (Parts.ofOutcome r) := by
  cases r with
  | ok a => exact Work.idle_pure a
  | error f => exact fun _ => rfl

theorem Work.idle_bind {w : Work α} {k : α → Work β} (h : w.Idle) (hk : ∀ a, (k a).Idle) :
    (w >>= k).Idle := by
  intro s
  have hpending := h s
  rcases hw : w ⟨s, none⟩ with ⟨outcome, store, pending⟩
  rw [hw] at hpending
  obtain rfl : pending = none := hpending
  cases outcome with
  | ok a => exact (congrArg (·.2.pending) (Work.bind_of_ok hw k)).trans (hk a store)
  | error f => exact congrArg (·.2.pending) (Work.bind_of_error hw k)

theorem Work.idle_resolve (refs : References) (room : Nat) (id : BindingId) :
    (Work.resolve refs room id).Idle := by
  intro s
  rw [Work.resolve_idle]
  cases Pass.enter s refs room id [] with
  | ok r => rfl
  | error f => rfl

theorem Work.idle_value (refs : References) (room : Nat) (slot : Slot) (v : Value) :
    (Parts.value refs (Work.resolve refs room) slot v).Idle := by
  refine Work.idle_bind ?_ fun e => Work.idle_ofOutcome _
  cases v with
  | binding b => exact Work.idle_resolve refs room b
  | reference r => exact Work.idle_ofOutcome _
  | expr e => exact Work.idle_pure e
  | datum d => exact Work.idle_ofOutcome _

end Idle

/-- What a resolver can be asked for, and over which store. -/
inductive Resolver.Call where
  | resolve (s : Store) (id : BindingId)
  | resolveValue (s : Store) (slot : Slot) (v : Value)

/-- A resolver after a call, however the call ended. -/
def Resolver.served (r : Resolver) : Resolver.Call → Resolver
  | .resolve s id => (r.resolve s id).2.1
  | .resolveValue s slot v => (r.resolveValue s slot v).2.1

/-- A resolver after calls. -/
def Resolver.after (r : Resolver) (calls : List Resolver.Call) : Resolver :=
  calls.foldl Resolver.served r

/-- A resolver for which no pass is under way. -/
def Resolver.Idle (r : Resolver) : Prop := r.pending = none

theorem Resolver.idle_served {r : Resolver} (h : r.Idle) (call : Resolver.Call) :
    (r.served call).Idle := by
  obtain ⟨refs, pending⟩ := r
  obtain rfl : pending = none := h
  cases call with
  | resolve s id => exact Work.idle_resolve refs _ id s
  | resolveValue s slot v => exact Work.idle_value refs _ slot v s

/-- A resolver is idle after any calls. -/
theorem Resolver.idle_after (calls : List Resolver.Call) {r : Resolver} (h : r.Idle) :
    (r.after calls).Idle := by
  induction calls generalizing r with
  | nil => exact h
  | cons call rest ih => exact ih (Resolver.idle_served h call)

/-! ## 4. One call -/

/-- Between passes, a resolver makes a pass of its own, and is afterwards as it was before. -/
theorem Resolver.resolve_eq {r : Resolver} (h : r.Idle) (s : Store) (id : BindingId) :
    let closed := Pass.closed s (Pass.enter s r.references s.bindings.length id [])
    r.resolve s id = (closed.1, r, closed.2.store) := by
  obtain ⟨refs, pending⟩ := r
  obtain rfl : pending = none := h
  unfold Resolver.resolve Resolver.work
  rw [Work.resolve_idle]
  cases Pass.enter s refs s.bindings.length id [] with
  | ok p => rfl
  | error f => rfl

/-- A pass of its own either fails and leaves the store, or marks the tree of the binding. -/
theorem Resolver.resolve_cases {r : Resolver} (h : r.Idle) (s : Store) (id : BindingId) :
    (∃ f, r.resolve s id = (.error f, r, s)) ∨
      ∃ e visited, r.resolve s id = (.ok e, r, s.markAll visited) ∧ Visited s [id] [] visited := by
  rw [Resolver.resolve_eq h]
  cases hp : Pass.enter s r.references s.bindings.length id [] with
  | error f => exact .inl ⟨f, rfl⟩
  | ok p =>
    obtain ⟨e, entered⟩ := p
    obtain ⟨visited, hentered, hv⟩ := visits_enter r.references _ id hp
    exact .inr ⟨e, visited, by rw [hentered]; rfl, hv⟩

/-- Resolving marks bindings behind the one that is resolved, or none. -/
theorem Resolver.exists_marked {r : Resolver} (h : r.Idle) (s : Store) (id : BindingId) :
    ∃ ids, (r.resolve s id).2.2 = s.markAll ids ∧ ∀ x ∈ ids, s.Reaches id x := by
  rcases Resolver.resolve_cases h s id with ⟨f, hr⟩ | ⟨e, visited, hr, hvisited⟩
  · rw [hr]
    exact ⟨[], rfl, nofun⟩
  · rw [hr]
    exact ⟨visited, rfl, fun x hx => hvisited.unfolds.mem_iff.1 hx⟩

/-! ## 5. One value -/

/-- An outcome that is taken over leaves the desk. -/
theorem Work.desk_ofOutcome {α : Type} (r : Except Failure α) (d : Desk) :
    ((Parts.ofOutcome r : Work α) d).2 = d := by
  cases r <;> rfl

theorem Work.desk_bind_ofOutcome {α β : Type} (w : Work α) (k : α → Except Failure β) (d : Desk) :
    ((w >>= fun a => Parts.ofOutcome (k a)) d).2 = (w d).2 := by
  rcases hw : w d with ⟨outcome, d'⟩
  cases outcome with
  | ok a => exact (congrArg Prod.snd (Work.bind_of_ok hw _)).trans (Work.desk_ofOutcome _ _)
  | error f => exact congrArg Prod.snd (Work.bind_of_error hw _)

namespace Resolver

theorem work_of_eq {α : Type} {r : Resolver} {s : Store} {w : Work α} {outcome : Except Failure α}
    {d : Desk} (h : w ⟨s, r.pending⟩ = (outcome, d)) :
    r.work s w = (outcome, { r with pending := d.pending }, d.store) := by
  unfold Resolver.work
  rw [h]

/-- Resolving a binding for a slot is resolving it, and checking what comes of it. -/
theorem resolveValue_binding (r : Resolver) (s : Store) (slot : Slot) (id : BindingId) :
    r.resolveValue s slot (.binding id) =
      ((r.resolve s id).1.bind fun e => Scale.unplaced (slot.check e), (r.resolve s id).2) := by
  rcases hw : Work.resolve r.references s.bindings.length id ⟨s, r.pending⟩ with ⟨outcome, d⟩
  have hresolve : r.resolve s id = (outcome, { r with pending := d.pending }, d.store) :=
    work_of_eq hw
  have hvalue : (Parts.value r.references (Work.resolve r.references s.bindings.length) slot
      (.binding id) : Work Expr) ⟨s, r.pending⟩ =
        (outcome.bind fun e => Scale.unplaced (slot.check e), d) := by
    unfold Parts.value
    cases outcome with
    | error f => exact Work.bind_of_error hw _
    | ok e =>
      refine (Work.bind_of_ok hw _).trans ?_
      show _ = (Scale.unplaced (slot.check e), d)
      cases Scale.unplaced (slot.check e) <;> rfl
  rw [hresolve]
  exact work_of_eq hvalue

/-- Resolving what is no binding changes nothing. -/
theorem resolveValue_of_no_binding (r : Resolver) (s : Store) (slot : Slot) {v : Value}
    (hv : v.binding? = none) :
    r.resolveValue s slot v = ((r.resolveValue s slot v).1, r, s) := by
  rcases hw : (Parts.value r.references (Work.resolve r.references s.bindings.length) slot v :
    Work Expr) ⟨s, r.pending⟩ with ⟨outcome, d⟩
  have hdesk : d = ⟨s, r.pending⟩ := by
    refine (congrArg Prod.snd hw).symm.trans ?_
    unfold Parts.value
    rw [Work.desk_bind_ofOutcome]
    cases v with
    | binding id => cases hv
    | expr e => rfl
    | reference ref => exact Work.desk_ofOutcome _ _
    | datum datum => exact Work.desk_ofOutcome _ _
  have hvalue : r.resolveValue s slot v = (outcome, r, s) := by
    have := work_of_eq hw
    rwa [hdesk] at this
  rw [hvalue]

end Resolver

/-! ## 6. All or nothing -/

/-- **Resolution is all or nothing.** Whatever calls a resolver has served, it is idle after
    resolving a binding. If that failed, the store is as before. If not, the bindings whose state
    changed are those behind the binding; each was new, is resolved, and stands behind it along one
    path. -/
theorem Resolver.resolve_all_or_nothing (refs : References) (calls : List Resolver.Call) (s : Store)
    (id : BindingId) :
    let (outcome, r, after) := ((Resolver.new refs).after calls).resolve s id
    r.Idle ∧ match outcome with
      | .error _ => after = s
      | .ok _ => ∀ x,
        (after.state? x ≠ s.state? x ↔ s.Reaches id x) ∧
        (s.Reaches id x → s.state? x = some .created ∧ after.state? x = some .resolved ∧
          ∃! path, s.follow id path = some x) := by
  have hidle := Resolver.idle_after calls (r := Resolver.new refs) rfl
  rcases Resolver.resolve_cases hidle s id with ⟨f, h⟩ | ⟨e, visited, h, hv⟩
  · rw [h]
    exact ⟨hidle, rfl⟩
  rw [h]
  refine ⟨hidle, fun x => ?_⟩
  have hmarked (hx : x ∈ visited) : (s.markAll visited).state? x = some .resolved := by
    rw [Store.state?_markAll, if_pos hx, hv.created x hx]
    rfl
  rw [← hv.unfolds.mem_iff]
  refine ⟨⟨fun hchanged => ?_, fun hx => ?_⟩, fun hx => ?_⟩
  · by_cases hx : x ∈ visited
    · exact hx
    · refine absurd ?_ hchanged
      rw [Store.state?_markAll, if_neg hx]
  · rw [hmarked hx, hv.created x hx]
    exact fun hsame => nomatch hsame
  · refine ⟨hv.created x hx, hmarked hx, ?_⟩
    exact hv.unfolds.existsUnique_path (hv.distinct .nil) (hv.unfolds.mem_iff.1 hx)

end VisualScale
