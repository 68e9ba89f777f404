import Mathlib.Data.List.Forall2
import VisualScale.Proofs.Outcome
import VisualScale.Proofs.Resolution.AllOrNothing

/-!
# What a pass builds from

Where a pass gives the expression of a binding, the scale has built it from expressions that fit the
slots of its attributes and arguments (`Scale.Filled`). So a property that holds of all expressions
in the store, of constants and of columns, and that scales keep when they build, holds of everything
that a pass gives (`gives_enter`).

* `Gives` -- whatever a computation of a pass gives has a property;
* `gives_value`, `gives_attributeValues`, `gives_argumentValues` -- the parts of a binding;
* `gives_body` -- what the scale of a binding builds from.
-/

namespace VisualScale

open Parts

/-- Whatever the computation gives has the property. -/
def Gives {α : Type} (p : Pass α) (P : α → Prop) : Prop :=
  ∀ ⦃entered a entered'⦄, p entered = .ok (a, entered') → P a

/-! ## 1. Steps -/

section Steps

variable {α β : Type} {P : α → Prop} {Q : β → Prop}

theorem gives_pure {a : α} (h : P a) : Gives (pure a) P := by
  intro entered _ _ hp
  obtain ⟨rfl, -⟩ := Prod.mk.inj (Except.ok.inj hp)
  exact h

theorem gives_throw (f : Failure) : Gives (throw f : Pass α) P := fun _ _ _ h => nomatch h

theorem gives_ofOutcome {r : Except Failure α} (h : ∀ a, r = .ok a → P a) :
    Gives (ofOutcome r) P := by
  cases r with
  | ok a => exact gives_pure (h a rfl)
  | error f => exact gives_throw f

theorem gives_bind {p : Pass α} {k : α → Pass β} (h : Gives p P) (hk : ∀ a, P a → Gives (k a) Q) :
    Gives (p >>= k) Q := by
  intro entered b entered' hpk
  obtain ⟨⟨a, mid⟩, hp, hka⟩ := Outcome.of_bind (x := p entered) hpk
  exact hk a (h hp) hka

/-- A computation that goes on unless it fails first. -/
theorem gives_unless {c : Prop} [Decidable c] (f : Fault) {p : Pass α} (h : Gives p P) :
    Gives (if c then (fail f : Pass PUnit) >>= fun _ => p else p) P := by
  split
  · exact gives_bind (P := fun _ => True) (gives_throw _) fun _ _ => h
  · exact h

end Steps

/-! ## 2. Filled slots -/

/-- The value is an expression of a kind that fits a slot. -/
def Fills (P : Expr → Prop) (t : ValueType) (acceptsNumeric : Bool) (v : Value) : Prop :=
  ∃ e, v = .expr e ∧ P e ∧ fits e.valueType t acceptsNumeric = true

/-- The attributes have become expressions of a kind that fit their slots, in order. -/
abbrev AttributesFilled (P : Expr → Prop) (attributes : List Attribute) (attrs : Table Value) :
    Prop :=
  List.Forall₂ (fun a r => r.1 = a.name ∧ Fills P a.valueType a.acceptsNumeric r.2) attributes attrs

/-- The arguments have become expressions of a kind that fit their slots, in order. -/
abbrev ArgumentsFilled (P : Expr → Prop) (types : List ValueType) (values : List Value) : Prop :=
  List.Forall₂ (fun t v => Fills P t false v) types values

/-- Attributes and arguments of a scale, whose arguments have types, have become expressions of a
    kind that fit their slots. -/
structure Scale.Filled (P : Expr → Prop) (s : Scale) (types : List ValueType) (attrs : Table Value)
    (values : List Value) : Prop where
  attributes : AttributesFilled P s.attributes attrs
  arguments : ArgumentsFilled P types values

/-- Every expression that the attributes of scales and the arguments of bindings hold has the
    property. -/
structure Store.Holds (s : Store) (P : Expr → Prop) : Prop where
  attributes : ∀ scale ∈ s.scales, ∀ a ∈ scale.attributes, ∀ e, a.value = .expr e → P e
  arguments : ∀ b ∈ s.bindings, ∀ e, Value.expr e ∈ b.arguments → P e

/-- Every expression that comes from a literal or a reference has the property. -/
structure Supplied (refs : References) (P : Expr → Prop) : Prop where
  literal : ∀ {slot d e}, literalFor slot (.datum d) = .ok e → P e
  reference : ∀ {r t e}, refs r t = .ok e → P e

/-! ## 3. The parts of a binding -/

theorem Slot.check_ok {slot : Slot} {e e' : Expr} {t : ValueType} (ht : slot.type = some t)
    (h : slot.check e = .ok e') : e' = e ∧ fits e.valueType t slot.acceptsNumeric = true := by
  unfold Slot.check at h
  rw [ht] at h
  dsimp only at h
  split at h
  · next hfits => exact ⟨(Except.ok.inj h).symm, hfits⟩
  · cases h

section Parts

variable {P : Expr → Prop} {refs : References} {enter : BindingId → Pass Expr}
variable (hrefs : Supplied refs P) (henter : ∀ id, Gives (enter id) P)

include hrefs henter

theorem gives_value {slot : Slot} {t : ValueType} (ht : slot.type = some t) {v : Value}
    (hv : ∀ e, v = .expr e → P e) :
    Gives (value refs enter slot v) fun e =>
      P e ∧ fits e.valueType t slot.acceptsNumeric = true := by
  have hraw : Gives (rawValue refs enter slot v) P := by
    cases v with
    | binding b => exact henter b
    | reference r => exact gives_ofOutcome fun e he => hrefs.reference (Scale.unplaced_ok he)
    | expr e => exact gives_pure (hv e rfl)
    | datum d => exact gives_ofOutcome fun e he => hrefs.literal (Scale.unplaced_ok he)
  refine gives_bind hraw fun e he => gives_ofOutcome fun e' he' => ?_
  obtain ⟨rfl, hfits⟩ := Slot.check_ok ht (Scale.unplaced_ok he')
  exact ⟨he, hfits⟩

theorem gives_attributeValues (owner : String) {attributes : List Attribute}
    (hheld : ∀ a ∈ attributes, ∀ e, a.value = .expr e → P e) :
    Gives (attributeValues refs enter owner attributes) (AttributesFilled P attributes) := by
  induction attributes with
  | nil => exact gives_pure .nil
  | cons a rest ih =>
    obtain ⟨hfirst, hrest⟩ := List.forall_mem_cons.1 hheld
    unfold attributeValues
    refine gives_unless _ (gives_bind (gives_value hrefs henter rfl hfirst) fun e he => ?_)
    exact gives_bind (ih hrest) fun es hes => gives_pure (.cons ⟨rfl, e, rfl, he⟩ hes)

theorem gives_argumentValues (owner : String) (index : Nat) {arguments : List (Value × ValueType)}
    (hheld : ∀ a ∈ arguments, ∀ e, a.1 = .expr e → P e) :
    Gives (argumentValues refs enter owner index arguments)
      (ArgumentsFilled P (arguments.map Prod.snd)) := by
  induction arguments generalizing index with
  | nil => exact gives_pure .nil
  | cons a rest ih =>
    obtain ⟨hfirst, hrest⟩ := List.forall_mem_cons.1 hheld
    obtain ⟨v, t⟩ := a
    unfold argumentValues
    refine gives_bind (gives_value hrefs henter rfl hfirst) fun e he => ?_
    exact gives_bind (ih (index + 1) hrest) fun es hes => gives_pure (.cons ⟨e, rfl, he⟩ hes)

/-- **A scale builds from expressions that fit its slots.** -/
theorem gives_body {s : Store} (hs : s.Holds P) {id : BindingId} {b : Binding} {scale : Scale}
    (hb : s.binding? id = some b) (hscale : s.scale? b.scale = some scale) :
    Gives (body refs enter scale b) fun e => ∃ attrs values,
      scale.Filled P b.argumentTypes attrs values ∧ scale.build attrs values = .ok e := by
  have hattributes := hs.attributes scale (List.mem_of_getElem? hscale)
  have harguments : ∀ a ∈ b.arguments.zip b.argumentTypes, ∀ e, a.1 = .expr e → P e := by
    intro a ha e he
    have hmem : a.1 ∈ b.arguments := (List.of_mem_zip ha).1
    exact hs.arguments b (List.mem_of_getElem? hb) e (he ▸ hmem)
  unfold body
  refine gives_bind (gives_attributeValues hrefs henter _ hattributes) fun attrs hattrs => ?_
  refine gives_bind (gives_argumentValues hrefs henter _ _ harguments) fun values hvalues => ?_
  rw [List.map_snd_zip (Nat.le_of_eq b.length_arguments.symm)] at hvalues
  exact gives_ofOutcome fun e he => ⟨attrs, values, ⟨hattrs, hvalues⟩, he⟩

end Parts

/-! ## 4. A binding -/

variable {s : Store} {P : Expr → Prop} {refs : References}

/-- A store keeps a property when it builds: what a scale of the store builds for one of its
    bindings, from expressions that have the property and fit the slots, has the property. -/
def Store.Builds (s : Store) (P : Expr → Prop) : Prop :=
  ∀ ⦃id b scale attrs values e⦄, s.binding? id = some b → s.scale? b.scale = some scale →
    scale.Filled P b.argumentTypes attrs values → scale.build attrs values = .ok e → P e

/-- **A property that is kept from what the store holds on has everything that a pass gives.** -/
theorem gives_enter (hs : s.Holds P) (hbuilds : s.Builds P) (hrefs : Supplied refs P) (room : Nat)
    (id : BindingId) : Gives (Pass.enter s refs room id) P := by
  induction room generalizing id with
  | zero =>
    intro entered e entered' h
    obtain ⟨_, _, _, hroom, -⟩ := Pass.enter_ok h
    cases hroom
  | succ room ih =>
    intro entered e entered' h
    obtain ⟨_, b, scale, hroom, hb, -, -, hscale, hbody⟩ := Pass.enter_ok h
    obtain rfl := Nat.succ.inj hroom
    obtain ⟨attrs, values, hfilled, he⟩ := gives_body hrefs ih hs hb hscale hbody
    exact hbuilds hb hscale hfilled he

/-- Resolving a binding is a pass that gives the same expression. -/
theorem Store.exists_enter_of_resolve {id : BindingId} {e : Expr} {after : Store}
    (h : s.resolve refs id = (.ok e, after)) :
    ∃ entered, Pass.enter s refs s.bindings.length id [] = .ok (e, entered) := by
  unfold Store.resolve Resolver.resolve Resolver.work at h
  rw [show (Resolver.new refs).pending = none from rfl, Work.resolve_idle] at h
  cases hp : Pass.enter s (Resolver.new refs).references s.bindings.length id [] with
  | ok r =>
    rw [hp] at h
    obtain ⟨e', entered⟩ := r
    obtain rfl : e' = e := Except.ok.inj (Prod.mk.inj h).1
    exact ⟨entered, hp⟩
  | error f =>
    rw [hp] at h
    cases (Prod.mk.inj h).1

end VisualScale
