import VisualScale.Proofs.Resolution.Parts

/-!
# A pass by itself

Inside a pass a resolver reads the store and adds to the list of bindings that it has entered;
nothing else changes. So the work of a pass is a computation on that list alone (`Pass`), in which a
failure leaves nothing behind:

* `Pass.enter` -- what resolving a binding inside a pass comes to;
* `Inside` -- the work at a desk does inside a pass what a computation on the list does;
* `inside_resolve` -- resolving inside a pass is `Pass.enter`.
-/

namespace VisualScale

open Parts

/-- A computation on the list of the bindings that a pass has entered. -/
abbrev Pass := StateT (List BindingId) (Except Failure)

/-- Enters a binding of a store. -/
def Pass.enter (s : Store) (refs : References) : (room : Nat) → BindingId → Pass Expr
  | room, id => do
    let b ← ofOutcome (s.binding id)
    if b.state = .resolved then fail .alreadyResolved
    if id ∈ (← get) then fail .usedTwice
    match room with
    | 0 => fail .usedTwice
    | room + 1 =>
      modify (· ++ [id])
      let scale ← ofOutcome (s.scale b.scale)
      body refs (enter s refs room) scale b

/-- Inside a pass over a store, the work gives what the computation gives, and leaves the store. -/
def Inside {α : Type} (s : Store) (w : Work α) (p : Pass α) : Prop :=
  ∀ entered, match p entered with
    | .ok (a, entered') => w ⟨s, some entered⟩ = (.ok a, ⟨s, some entered'⟩)
    | .error f => ∃ entered', w ⟨s, some entered⟩ = (.error f, ⟨s, some entered'⟩)

/-! ## 1. Chains of work -/

namespace Work

variable {α β : Type} {w : Work α} {d d' : Desk}

theorem bind_of_ok {a : α} (h : w d = (.ok a, d')) (k : α → Work β) : (w >>= k) d = k a d' := by
  show (ExceptT.bindCont k (w d).1 : StateM Desk (Except Failure β)) (w d).2 = k a d'
  rw [h]
  rfl

theorem bind_of_error {f : Failure} (h : w d = (.error f, d')) (k : α → Work β) :
    (w >>= k) d = (.error f, d') := by
  show (ExceptT.bindCont k (w d).1 : StateM Desk (Except Failure β)) (w d).2 = (.error f, d')
  rw [h]
  rfl

end Work

section Inside

variable {α β : Type} {s : Store}

/-! ## 2. Steps inside a pass -/

theorem inside_pure (a : α) : Inside s (pure a) (pure a) := fun _ => rfl

theorem inside_throw (f : Failure) : Inside s (throw f : Work α) (throw f) :=
  fun entered => ⟨entered, rfl⟩

theorem inside_bind {w : Work α} {p : Pass α} (h : Inside s w p) {k : α → Work β}
    {l : α → Pass β} (hk : ∀ a, Inside s (k a) (l a)) : Inside s (w >>= k) (p >>= l) := by
  intro entered
  have hw := h entered
  have hl : (p >>= l) entered = (p entered >>= fun r => l r.1 r.2) := rfl
  rw [hl]
  cases hp : p entered with
  | ok r =>
    obtain ⟨a, entered'⟩ := r
    rw [hp] at hw
    rw [Work.bind_of_ok hw]
    exact hk a entered'
  | error f =>
    rw [hp] at hw
    obtain ⟨entered', hw⟩ := hw
    exact ⟨entered', Work.bind_of_error hw k⟩

/-- What the work does inside a pass, and what the computation on the list does, go along with each
    other. -/
theorem parallel_inside (s : Store) :
    Parallel (fun _ => Inside s : (α : Type) → Work α → Pass α → Prop) where
  ends := inside_pure
  fails := inside_throw
  chain h hk := inside_bind h hk

/-! ## 3. Resolving inside a pass -/

/-- Looking at the desk inside a pass shows the store of the pass. -/
theorem inside_get {k : Desk → Work α} {p : Pass α}
    (h : ∀ entered, Inside s (k ⟨s, some entered⟩) p) : Inside s (get >>= k) p :=
  fun entered => h entered entered

theorem inside_inPass {w : Work α} {p : Pass α} (h : Inside s w p) : Inside s (Work.inPass w) p :=
  fun entered => h entered

theorem inside_pending : Inside s Work.pending get := fun _ => rfl

theorem inside_enter (id : BindingId) : Inside s (Work.enter id) (modify (· ++ [id])) :=
  fun _ => rfl

/-- **Resolving inside a pass is entering.** -/
theorem inside_resolve (refs : References) (room : Nat) (id : BindingId) :
    Inside s (Work.resolve refs room id) (Pass.enter s refs room id) := by
  have hs := parallel_inside s
  induction room generalizing id with
  | zero =>
    unfold Pass.enter
    refine inside_get fun _ => inside_bind (hs.ofOutcome _) fun b => hs.guarded _ ?_
    refine inside_inPass (inside_bind inside_pending fun entered => ?_)
    exact hs.guarded _ (inside_throw _)
  | succ room ih =>
    unfold Pass.enter
    refine inside_get fun _ => inside_bind (hs.ofOutcome _) fun b => hs.guarded _ ?_
    refine inside_inPass (inside_bind inside_pending fun entered => hs.guarded _ ?_)
    refine inside_bind (inside_enter id) fun _ => inside_get fun _ => ?_
    exact inside_bind (hs.ofOutcome _) fun scale => hs.body refs ih scale b

end Inside

end VisualScale
