import VisualScale.Proofs.Outcome
import VisualScale.Proofs.Resolution.Pass
import VisualScale.Proofs.Resolution.Tree

/-!
# What a pass enters

A pass that ends well has entered the bindings of an unfolding (`Visits`), in its order: each of
them new, and none of them twice. So a pass around a cycle, or over a binding that is used twice,
does not end well.

* `visits_value`, `visits_attributeValues`, `visits_argumentValues`, `visits_body` -- the parts of a
  binding, each over the bindings that stand in it;
* `visits_enter` -- a binding.
-/

namespace VisualScale

open Parts

/-- The bindings that were entered by a part of a pass, after others were. -/
structure Visited (s : Store) (roots before visited : List BindingId) : Prop where
  unfolds : s.Unfolds roots visited
  created : ∀ x ∈ visited, s.state? x = some .created
  distinct : before.Nodup → (before ++ visited).Nodup

/-- Where the computation gives something, it has entered the tree of the bindings. -/
def Visits {α : Type} (s : Store) (p : Pass α) (roots : List BindingId) : Prop :=
  ∀ ⦃entered a entered'⦄, p entered = .ok (a, entered') →
    ∃ visited, entered' = entered ++ visited ∧ Visited s roots entered visited

variable {α β : Type} {s : Store}

/-! ## 1. Steps -/

theorem Visited.nil {before : List BindingId} : Visited s [] before [] :=
  ⟨.nil, fun _ h => (nomatch h), fun h => by rwa [List.append_nil]⟩

theorem Visited.append {as bs before first second : List BindingId}
    (h : Visited s as before first) (h' : Visited s bs (before ++ first) second) :
    Visited s (as ++ bs) before (first ++ second) where
  unfolds := h.unfolds.append h'.unfolds
  created x hx := (List.mem_append.mp hx).elim (h.created x) (h'.created x)
  distinct hn := by
    rw [← List.append_assoc]
    exact h'.distinct (h.distinct hn)

theorem visits_pure (a : α) : Visits s (pure a) [] := by
  intro entered _ _ h
  obtain ⟨rfl, rfl⟩ := Prod.mk.inj (Except.ok.inj h)
  exact ⟨[], (List.append_nil _).symm, .nil⟩

theorem visits_throw (f : Failure) (roots : List BindingId) :
    Visits s (throw f : Pass α) roots := fun _ _ _ h => nomatch h

theorem visits_ofOutcome (r : Except Failure α) : Visits s (ofOutcome r) [] := by
  cases r with
  | ok a => exact visits_pure a
  | error f => exact visits_throw f []

theorem visits_bind {p : Pass α} {k : α → Pass β} {as bs : List BindingId} (h : Visits s p as)
    (hk : ∀ a, Visits s (k a) bs) : Visits s (p >>= k) (as ++ bs) := by
  intro entered b entered' hpk
  obtain ⟨⟨a, mid⟩, hp, hka⟩ := Outcome.of_bind (x := p entered) hpk
  obtain ⟨first, rfl, hfirst⟩ := h hp
  obtain ⟨second, rfl, hsecond⟩ := hk a hka
  exact ⟨first ++ second, List.append_assoc .., hfirst.append hsecond⟩

/-- A step that enters nothing, in front. -/
theorem visits_after {p : Pass α} {k : α → Pass β} {roots : List BindingId} (h : Visits s p [])
    (hk : ∀ a, Visits s (k a) roots) : Visits s (p >>= k) roots :=
  visits_bind h hk

/-- A step that enters nothing, at the end. -/
theorem visits_before {p : Pass α} {k : α → Pass β} {roots : List BindingId} (h : Visits s p roots)
    (hk : ∀ a, Visits s (k a) []) : Visits s (p >>= k) roots := by
  have := visits_bind h hk
  rwa [List.append_nil] at this

/-- A computation that goes on unless it fails first. -/
theorem visits_unless {c : Prop} [Decidable c] (f : Fault) {p : Pass α} {roots : List BindingId}
    (h : Visits s p roots) :
    Visits s (if c then (fail f : Pass PUnit) >>= fun _ => p else p) roots := by
  split
  · exact visits_after (visits_throw _ _) fun _ => h
  · exact h

/-! ## 2. The parts of a binding -/

section Parts

variable (refs : References) {enter : BindingId → Pass Expr}
variable (henter : ∀ id, Visits s (enter id) [id])

include henter

theorem visits_value (slot : Slot) (v : Value) :
    Visits s (value refs enter slot v) v.binding?.toList := by
  refine visits_before ?_ fun e => visits_ofOutcome _
  cases v with
  | binding b => exact henter b
  | reference r => exact visits_ofOutcome _
  | expr e => exact visits_pure e
  | datum d => exact visits_ofOutcome _

theorem visits_attributeValues (owner : String) (attributes : List Attribute) :
    Visits s (attributeValues refs enter owner attributes)
      ((attributes.map Attribute.value).filterMap Value.binding?) := by
  induction attributes with
  | nil => exact visits_pure _
  | cons a rest ih =>
    rw [List.map_cons, filterMap_binding?_cons]
    unfold attributeValues
    exact visits_unless _ (visits_bind (visits_value refs henter _ _) fun e =>
      visits_before ih fun es => visits_pure _)

theorem visits_argumentValues (owner : String) (index : Nat)
    (arguments : List (Value × ValueType)) :
    Visits s (argumentValues refs enter owner index arguments)
      ((arguments.map Prod.fst).filterMap Value.binding?) := by
  induction arguments generalizing index with
  | nil => exact visits_pure _
  | cons a rest ih =>
    obtain ⟨v, t⟩ := a
    rw [List.map_cons, filterMap_binding?_cons]
    unfold argumentValues
    exact visits_bind (visits_value refs henter _ _) fun e =>
      visits_before (ih _) fun es => visits_pure _

theorem visits_body {id : BindingId} {b : Binding} {scale : Scale} (hb : s.binding? id = some b)
    (hs : s.scale? b.scale = some scale) :
    Visits s (body refs enter scale b) (s.children id) := by
  rw [Store.children_of hb hs, List.filterMap_append]
  unfold body
  refine visits_bind (visits_attributeValues refs henter _ _) fun attrs => ?_
  refine visits_before ?_ fun values => visits_ofOutcome _
  have h := visits_argumentValues refs henter scale.name 0 (b.arguments.zip b.argumentTypes)
  rwa [List.map_fst_zip (Nat.le_of_eq b.length_arguments)] at h

end Parts

/-! ## 3. A binding -/

/-- A binding that is new, and not entered yet, is entered in front of those that stand in it. -/
theorem Visited.enter {id : BindingId} {before behind : List BindingId}
    (hnew : s.state? id = some .created) (hfresh : id ∉ before)
    (h : Visited s (s.children id) (before ++ [id]) behind) :
    Visited s [id] before (id :: behind) where
  unfolds := by
    have := Store.Unfolds.cons h.unfolds .nil
    rwa [List.append_nil] at this
  created x hx := by
    rcases List.mem_cons.mp hx with rfl | hx
    · exact hnew
    · exact h.created x hx
  distinct hn := by
    have hfirst : (before ++ [id]).Nodup := by
      refine List.nodup_append.mpr ⟨hn, List.pairwise_singleton _ id, fun x hx y hy hxy => hfresh ?_⟩
      rwa [← List.mem_singleton.mp hy, ← hxy]
    have := h.distinct hfirst
    rwa [List.append_assoc] at this

/-- What entering a binding takes. -/
theorem Pass.enter_ok {refs : References} {room : Nat} {id : BindingId}
    {entered entered' : List BindingId} {e : Expr}
    (h : Pass.enter s refs room id entered = .ok (e, entered')) :
    ∃ (room' : Nat) (b : Binding) (scale : Scale), room = room' + 1 ∧
      s.binding? id = some b ∧ b.state = .created ∧ id ∉ entered ∧
      s.scale? b.scale = some scale ∧
      body refs (Pass.enter s refs room') scale b (entered ++ [id]) = .ok (e, entered') := by
  unfold Pass.enter Store.binding at h
  cases hb : s.binding? id with
  | none => rw [hb] at h; cases h
  | some b =>
    rw [hb] at h
    replace h : (ite (b.state = .resolved) _ _ : Pass Expr) entered = _ := h
    by_cases hstate : b.state = .resolved
    · rw [if_pos hstate] at h
      cases h
    rw [if_neg hstate] at h
    replace h : (ite (id ∈ entered) _ _ : Pass Expr) entered = _ := h
    by_cases hfresh : id ∈ entered
    · rw [if_pos hfresh] at h
      cases h
    rw [if_neg hfresh] at h
    cases room with
    | zero => cases h
    | succ room =>
      unfold Store.scale at h
      cases hs : s.scale? b.scale with
      | none => rw [hs] at h; cases h
      | some scale =>
        rw [hs] at h
        refine ⟨room, b, scale, rfl, rfl, ?_, hfresh, hs, h⟩
        cases hb' : b.state with
        | created => rfl
        | resolved => exact absurd hb' hstate

/-- **A pass enters the tree of a binding.** -/
theorem visits_enter (refs : References) (room : Nat) (id : BindingId) :
    Visits s (Pass.enter s refs room id) [id] := by
  induction room generalizing id with
  | zero =>
    intro entered _ _ h
    obtain ⟨_, _, _, hroom, _⟩ := Pass.enter_ok h
    cases hroom
  | succ room ih =>
    intro entered e entered' h
    obtain ⟨_, b, scale, hroom, hb, hnew, hfresh, hs, h⟩ := Pass.enter_ok h
    obtain rfl := Nat.succ.inj hroom
    obtain ⟨behind, rfl, hbehind⟩ := visits_body refs ih hb hs h
    refine ⟨id :: behind, List.append_assoc .., .enter ?_ hfresh hbehind⟩
    unfold Store.state?
    rw [hb]
    exact congrArg some hnew

end VisualScale
