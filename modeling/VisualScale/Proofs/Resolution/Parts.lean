import VisualScale.Resolve

/-!
# The parts of a binding, run in two ways

The parts of a binding are chains of steps, and are written for every kind of steps that can fail.
So a relation between steps of two kinds that chains keep (`Parallel`) holds between the two ways to
run a part of a binding as soon as it holds between the ways to enter the bindings that stand in it:
`Parallel.value`, `Parallel.attributeValues`, `Parallel.argumentValues`, and `Parallel.body` for the
whole binding.
-/

namespace VisualScale

open Parts

variable {m m' : Type → Type} [Monad m] [MonadExceptOf Failure m] [Monad m']
variable [MonadExceptOf Failure m']

/-- A relation between steps of two kinds that chains of steps keep. -/
structure Parallel (R : (α : Type) → m α → m' α → Prop) : Prop where
  ends : ∀ {α : Type} (a : α), R α (pure a) (pure a)
  fails : ∀ {α : Type} (f : Failure), R α (throw f) (throw f)
  chain : ∀ {α β : Type} {w : m α} {w' : m' α} {k : α → m β} {k' : α → m' β},
    R α w w' → (∀ a, R β (k a) (k' a)) → R β (w >>= k) (w' >>= k')

namespace Parallel

variable {R : (α : Type) → m α → m' α → Prop} (hR : Parallel R)

include hR

theorem ofOutcome {α : Type} (r : Except Failure α) : R α (ofOutcome r) (ofOutcome r) := by
  cases r with
  | ok a => exact hR.ends a
  | error f => exact hR.fails f

/-- Steps that go on unless they fail first. -/
theorem guarded {α : Type} {c : Prop} [Decidable c] (f : Fault) {w : m α} {w' : m' α}
    (h : R α w w') :
    R α (if c then (fail f : m PUnit) >>= fun _ => w else w)
      (if c then (fail f : m' PUnit) >>= fun _ => w' else w') := by
  split
  · exact hR.chain (hR.fails _) fun _ => h
  · exact h

variable (refs : References) {enter : BindingId → m Expr} {enter' : BindingId → m' Expr}
variable (henter : ∀ id, R Expr (enter id) (enter' id))

include henter

theorem value (slot : Slot) (v : Value) :
    R Expr (value refs enter slot v) (value refs enter' slot v) := by
  refine hR.chain ?_ fun e => hR.ofOutcome _
  cases v with
  | binding b => exact henter b
  | reference r => exact hR.ofOutcome _
  | expr e => exact hR.ends e
  | datum d => exact hR.ofOutcome _

theorem attributeValues (owner : String) (attributes : List Attribute) :
    R _ (attributeValues refs enter owner attributes)
      (attributeValues refs enter' owner attributes) := by
  induction attributes with
  | nil => exact hR.ends _
  | cons a rest ih =>
    unfold Parts.attributeValues
    exact hR.guarded _ (hR.chain (hR.value refs henter _ _) fun e =>
      hR.chain ih fun es => hR.ends _)

theorem argumentValues (owner : String) (index : Nat) (arguments : List (Value × ValueType)) :
    R _ (argumentValues refs enter owner index arguments)
      (argumentValues refs enter' owner index arguments) := by
  induction arguments generalizing index with
  | nil => exact hR.ends _
  | cons a rest ih =>
    obtain ⟨v, t⟩ := a
    unfold Parts.argumentValues
    exact hR.chain (hR.value refs henter _ _) fun e => hR.chain (ih _) fun es => hR.ends _

theorem body (scale : Scale) (b : Binding) :
    R Expr (body refs enter scale b) (body refs enter' scale b) := by
  unfold Parts.body
  exact hR.chain (hR.attributeValues refs henter _ _) fun attrs =>
    hR.chain (hR.argumentValues refs henter _ _ _) fun values => hR.ofOutcome _

end Parallel

end VisualScale
