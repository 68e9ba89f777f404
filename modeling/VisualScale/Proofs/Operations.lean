import Mathlib.Logic.Function.Basic
import VisualScale.Proofs.Resolution.OneValue

/-!
# The operations of a session

A session has a store and any number of resolvers, each with its own way of reading references. What
is done in it, one operation after another, either changes the store (`Change`) or asks one of the
resolvers for an expression (`Request`). An operation that fails counts as well: a change that fails
leaves the store, and a resolver that fails leaves whatever it leaves.

Between operations no resolver has a pass under way; a session carries that with it
(`Session.idle`).

* `Store.resolved_change_iff` -- no change resolves a binding, or makes it new again;
* `Session.ask_eq` -- asking changes the store only, and as the resolver by itself does.
-/

namespace VisualScale

/-! ## 1. Changes -/

namespace Scale

/-- A scale to be created. -/
inductive Plan where
  | linear (t : ValueType)
  | log (t : ValueType)
  | interpolate (t : ValueType)
  | arithmetic (op : Arithmetic)
  | custom (text : String)

/-- The scale, unless it is a custom one and its text is no formula. -/
def Plan.make : Plan → Except Failure Scale
  | linear t => .ok (newLinear t)
  | log t => .ok (newLog t)
  | interpolate t => .ok (newInterpolate t)
  | arithmetic op => .ok (.arithmetic op)
  | custom text => newCustom text

end Scale

/-- What can be done to a store without a resolver. -/
inductive Change where
  | create (plan : Scale.Plan)
  | setDomain (id : ScaleId) (values : List Value)
  | setRange (id : ScaleId) (values : List Value)
  | setPosition (id : ScaleId) (value : Value)
  | setAttribute (id : ScaleId) (name : String) (value : Value) (typeName : Option String)
  | invoke (id : ScaleId) (arguments : List Value)

namespace Store

/-- The store after a change. -/
def change (s : Store) : Change → Except Failure Store
  | .create plan => plan.make.map fun scale => (s.addScale scale).2
  | .setDomain id values => s.changeScale id (·.setDomain values)
  | .setRange id values => s.changeScale id (·.setRange values)
  | .setPosition id value => s.changeScale id (·.setPosition value)
  | .setAttribute id name value typeName => (s.setAttribute id name value typeName).map Prod.fst
  | .invoke id arguments => (s.invoke id arguments).map Prod.snd

variable {s after : Store}

theorem state?_congr (h : after.bindings = s.bindings) (x : BindingId) :
    after.state? x = s.state? x := by
  unfold state? binding?
  rw [h]

theorem bindings_changeScale {id : ScaleId} {change : Scale → Except Fault Scale}
    (h : s.changeScale id change = .ok after) : after.bindings = s.bindings := by
  obtain ⟨scale, -, h⟩ := Outcome.of_bind h
  obtain ⟨changed, -, h⟩ := Outcome.of_bind h
  obtain rfl := Except.ok.inj h
  rfl

theorem bindings_setAttribute {id : ScaleId} {name : String} {value : Value}
    {typeName : Option String} {warnings : List String}
    (h : s.setAttribute id name value typeName = .ok (after, warnings)) :
    after.bindings = s.bindings := by
  obtain ⟨scale, -, h⟩ := Outcome.of_bind h
  obtain ⟨changed, -, h⟩ := Outcome.of_bind h
  obtain ⟨rfl, -⟩ := Prod.mk.inj (Except.ok.inj h)
  rfl

/-- What a scale makes of arguments is new. -/
theorem created_of_bind {id : ScaleId} {scale : Scale} {arguments : List Value} {b : Binding}
    (h : bind id scale arguments = .ok b) : b.state = .created := by
  unfold bind at h
  split at h
  · obtain ⟨t, -, rfl⟩ := Outcome.of_map h
    rfl
  · cases h

/-- One more binding that is new leaves the resolved ones. -/
theorem resolved_addBinding_iff {b : Binding} (hb : b.state = .created) (x : BindingId) :
    (s.addBinding b).2.state? x = some .resolved ↔ s.state? x = some .resolved := by
  show ((s.bindings ++ [b])[x.index]?).map Binding.state = _ ↔
    (s.bindings[x.index]?).map Binding.state = _
  rw [List.getElem?_append]
  by_cases hx : x.index < s.bindings.length
  · rw [if_pos hx]
  · have hnone : s.bindings[x.index]? = none := List.getElem?_eq_none (Nat.le_of_not_lt hx)
    rw [if_neg hx, hnone, List.getElem?_singleton]
    split <;> simp [hb]

/-- **A change neither resolves a binding nor makes it new again.** -/
theorem resolved_change_iff {c : Change} (h : s.change c = .ok after) (x : BindingId) :
    after.state? x = some .resolved ↔ s.state? x = some .resolved := by
  cases c with
  | create plan =>
    obtain ⟨scale, -, rfl⟩ := Outcome.of_map h
    exact Iff.rfl
  | setDomain id values | setRange id values | setPosition id value =>
    rw [state?_congr (bindings_changeScale h)]
  | setAttribute id name value typeName =>
    obtain ⟨⟨changed, warnings⟩, hchanged, rfl⟩ := Outcome.of_map h
    rw [state?_congr (bindings_setAttribute hchanged)]
  | invoke id arguments =>
    obtain ⟨⟨b, invoked⟩, hinvoked, rfl⟩ := Outcome.of_map h
    obtain ⟨scale, -, hinvoked⟩ := Outcome.of_bind hinvoked
    obtain ⟨made, hmade, hinvoked⟩ := Outcome.of_bind hinvoked
    obtain ⟨-, rfl⟩ := Prod.mk.inj (Except.ok.inj hinvoked)
    exact resolved_addBinding_iff (created_of_bind hmade) x

end Store

/-! ## 2. Requests -/

/-- What a resolver can be asked for. -/
inductive Request where
  | resolve (id : BindingId)
  | resolveValue (slot : Slot) (v : Value)

/-- What a resolver answers over a store, and resolver and store afterwards. -/
def Resolver.answer (r : Resolver) (s : Store) : Request → Except Failure Expr × Resolver × Store
  | .resolve id => r.resolve s id
  | .resolveValue slot v => r.resolveValue s slot v

/-- Between passes, answering leaves the resolver. -/
theorem Resolver.resolver_answer {r : Resolver} (h : r.Idle) (s : Store) (q : Request) :
    (r.answer s q).2.1 = r := by
  cases q with
  | resolve id =>
    show (r.resolve s id).2.1 = r
    rw [Resolver.resolve_eq h]
  | resolveValue slot v =>
    show (r.resolveValue s slot v).2.1 = r
    cases v with
    | binding id => rw [r.resolveValue_binding, Resolver.resolve_eq h]
    | datum d | reference d | expr d => rw [r.resolveValue_of_no_binding s slot rfl]

/-! ## 3. Sessions -/

/-- A session: its store, and its resolvers by number, none of which has a pass under way. -/
@[ext]
structure Session where
  store : Store
  resolver : Nat → Resolver
  idle : ∀ n, (resolver n).Idle

/-- One operation. -/
inductive Operation where
  | change (c : Change)
  | ask (resolver : Nat) (q : Request)

namespace Session

/-- A session in which nothing was done yet. -/
def new (refs : Nat → References) : Session :=
  ⟨.empty, fun n => .new (refs n), fun _ => rfl⟩

/-- A resolver of the session is asked for something. -/
def ask (σ : Session) (n : Nat) (q : Request) : Except Failure Expr × Session :=
  let answer := (σ.resolver n).answer σ.store q
  (answer.1, {
    store := answer.2.2
    resolver := Function.update σ.resolver n answer.2.1
    idle := by
      have hsame : answer.2.1 = σ.resolver n := Resolver.resolver_answer (σ.idle n) _ q
      rw [hsame, Function.update_eq_self]
      exact σ.idle })

/-- The session after an operation, whether that failed or not. -/
def perform (σ : Session) : Operation → Session
  | .change c => { σ with store := (σ.store.change c).toOption.getD σ.store }
  | .ask n q => (σ.ask n q).2

/-- The session after operations. -/
def after (σ : Session) (ops : List Operation) : Session := ops.foldl perform σ

/-- Asking changes the store only. -/
theorem ask_eq (σ : Session) (n : Nat) (q : Request) :
    σ.ask n q = (((σ.resolver n).answer σ.store q).1,
      { σ with store := ((σ.resolver n).answer σ.store q).2.2 }) := by
  refine Prod.ext rfl (Session.ext rfl ?_)
  show Function.update σ.resolver n ((σ.resolver n).answer σ.store q).2.1 = σ.resolver
  rw [Resolver.resolver_answer (σ.idle n), Function.update_eq_self]

end Session

end VisualScale
