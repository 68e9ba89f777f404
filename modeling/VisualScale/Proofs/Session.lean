import VisualScale.Proofs.Resolution.AllOrNothing

/-!
# Sessions

A session creates scales, sets what they are bound to, invokes them, and resolves what came of it,
in any order (`Store.Step`, `Store.Reachable`). A binding is recorded with the argument types of its
scale, and with the type that the scale announces (`Store.Recorded`). Later steps may change what a
scale is bound to, but neither of these:

* `Scale.SameSort` -- what setting a scale keeps;
* `Store.Recorded.step` -- one step keeps that every binding is recorded so;
* `Store.Reachable.recorded` -- so it holds after every run.

A custom scale has no fixed type: what it announces depends on the attributes declared by then.
-/

namespace VisualScale

namespace Scale

/-! ## 1. What setting a scale keeps -/

/-- The scale is not given by a formula. -/
def isPrebuilt : Scale → Bool
  | custom .. => false
  | _ => true

/-- The scales that can be created. -/
inductive New : Scale → Prop where
  | linear (t : ValueType) : New (newLinear t)
  | log (t : ValueType) : New (newLog t)
  | interpolate (t : ValueType) : New (newInterpolate t)
  | arithmetic (op : Arithmetic) : New (.arithmetic op)
  | custom {text : String} {scale : Scale} (h : newCustom text = .ok scale) : New scale

/-- The second scale takes arguments of the same types as the first one, and a prebuilt one
    announces the same type. -/
structure SameSort (before after : Scale) : Prop where
  argumentTypes : after.argumentTypes = before.argumentTypes
  isPrebuilt : after.isPrebuilt = before.isPrebuilt
  valueType : before.isPrebuilt = true → after.valueType = before.valueType

variable {s after : Scale}

theorem sameSort_of_setDomain {values : List Value} (h : s.setDomain values = .ok after) :
    s.SameSort after := by
  cases s with
  | linear d | log d =>
    obtain ⟨b, -, rfl⟩ := Outcome.of_map h
    exact ⟨rfl, rfl, fun _ => rfl⟩
  | interpolate t v | arithmetic op | custom p attributes => cases h

theorem sameSort_of_setRange {values : List Value} (h : s.setRange values = .ok after) :
    s.SameSort after := by
  cases s with
  | linear d | log d =>
    obtain ⟨b, -, rfl⟩ := Outcome.of_map h
    exact ⟨rfl, rfl, fun _ => rfl⟩
  | interpolate t v | arithmetic op | custom p attributes => cases h

theorem sameSort_of_setPosition {value : Value} (h : s.setPosition value = .ok after) :
    s.SameSort after := by
  cases s with
  | interpolate t v =>
    obtain rfl := Except.ok.inj h
    exact ⟨rfl, rfl, fun _ => rfl⟩
  | linear d | log d | arithmetic op | custom p attributes => cases h

theorem sameSort_of_setAttribute {name : String} {value : Value} {typeName : Option String}
    {warnings : List String} (h : s.setAttribute name value typeName = .ok (after, warnings)) :
    s.SameSort after := by
  cases s with
  | custom p attributes =>
    obtain ⟨changed, -, h⟩ := Outcome.of_bind h
    obtain ⟨rfl, -⟩ := Prod.mk.inj (Except.ok.inj h)
    exact ⟨rfl, rfl, fun hp => absurd hp Bool.false_ne_true⟩
  | linear d | log d | interpolate t v | arithmetic op => cases h

end Scale

namespace Store

/-! ## 2. Steps -/

/-- One step of a session. A step that fails is none. -/
inductive Step (s : Store) : Store → Prop where
  | create {scale : Scale} (h : scale.New) : Step s (s.addScale scale).2
  | setDomain {id : ScaleId} {values : List Value} {after : Store}
      (h : s.changeScale id (·.setDomain values) = .ok after) : Step s after
  | setRange {id : ScaleId} {values : List Value} {after : Store}
      (h : s.changeScale id (·.setRange values) = .ok after) : Step s after
  | setPosition {id : ScaleId} {value : Value} {after : Store}
      (h : s.changeScale id (·.setPosition value) = .ok after) : Step s after
  | setAttribute {id : ScaleId} {name : String} {value : Value} {typeName : Option String}
      {after : Store} {warnings : List String}
      (h : s.setAttribute id name value typeName = .ok (after, warnings)) : Step s after
  | invoke {id : ScaleId} {arguments : List Value} {b : BindingId} {after : Store}
      (h : s.invoke id arguments = .ok (b, after)) : Step s after
  | mark {id : BindingId} {after : Store} (h : s.markResolved id = .ok after) : Step s after
  | resolve (refs : References) (id : BindingId) : Step s (s.resolve refs id).2
  | resolveValue (refs : References) (slot : Slot) (v : Value) :
      Step s (s.resolveValue refs slot v).2

/-- The stores that a session can come to. -/
inductive Reachable : Store → Prop where
  | empty : Reachable .empty
  | step {s after : Store} (h : s.Reachable) (hs : s.Step after) : Reachable after

/-- Every binding is one of a scale in the store, with the scale's argument types, and with its type
    if the scale is prebuilt. -/
def Recorded (s : Store) : Prop :=
  ∀ ⦃id b⦄, s.binding? id = some b → ∃ scale, s.scale? b.scale = some scale ∧
    b.argumentTypes = scale.argumentTypes ∧
    (scale.isPrebuilt = true → scale.valueType = .ok b.valueType)

variable {s after : Store}

/-! ## 3. What a step keeps -/

theorem scale_ok {id : ScaleId} {scale : Scale} (h : s.scale id = .ok scale) :
    s.scale? id = some scale := by
  unfold Store.scale at h
  cases hs : s.scale? id with
  | none => rw [hs] at h; cases h
  | some found => rw [hs] at h; exact congrArg some (Except.ok.inj h)

theorem scale_of {id : ScaleId} {scale : Scale} (h : s.scale? id = some scale) :
    s.scale id = .ok scale := by
  unfold Store.scale
  rw [h]

/-- A scale that is replaced by one of the same sort leaves the bindings recorded. -/
theorem Recorded.setScale (h : s.Recorded) {id : ScaleId} {scale changed : Scale}
    (hscale : s.scale? id = some scale) (hsort : scale.SameSort changed) :
    (s.setScale id changed).Recorded := by
  intro x b hb
  obtain ⟨found, hfound, harguments, htype⟩ := h hb
  have hat : (s.setScale id changed).scale? b.scale =
      if id.index = b.scale.index then some changed else some found := by
    show (s.scales.set id.index changed)[b.scale.index]? = _
    rw [List.getElem?_set]
    have hbound : id.index < s.scales.length := (List.getElem?_eq_some_iff.1 hscale).1
    have hrest : s.scales[b.scale.index]? = some found := hfound
    rw [hrest]
    by_cases hi : id.index = b.scale.index
    · rw [if_pos hi, if_pos hi, if_pos hbound]
    · rw [if_neg hi, if_neg hi]
  by_cases hi : id.index = b.scale.index
  · obtain rfl : scale = found := by
      have hsame : s.scale? id = s.scale? b.scale := congrArg (fun i => s.scales[i]?) hi
      exact Option.some.inj (hscale.symm.trans (hsame.trans hfound))
    rw [if_pos hi] at hat
    refine ⟨changed, hat, harguments.trans hsort.argumentTypes.symm, fun hp => ?_⟩
    have hbefore : scale.isPrebuilt = true := hsort.isPrebuilt.symm.trans hp
    exact (hsort.valueType hbefore).trans (htype hbefore)
  · rw [if_neg hi] at hat
    exact ⟨found, hat, harguments, htype⟩

theorem Recorded.changeScale (h : s.Recorded) {id : ScaleId} {change : Scale → Except Fault Scale}
    (hsort : ∀ scale changed, change scale = .ok changed → scale.SameSort changed)
    (hc : s.changeScale id change = .ok after) : after.Recorded := by
  obtain ⟨scale, hscale, hc⟩ := Outcome.of_bind hc
  obtain ⟨changed, hchanged, hc⟩ := Outcome.of_bind hc
  obtain rfl := Except.ok.inj hc
  exact h.setScale (scale_ok hscale) (hsort scale changed (Scale.unplaced_ok hchanged))

theorem Recorded.setAttribute (h : s.Recorded) {id : ScaleId} {name : String} {value : Value}
    {typeName : Option String} {warnings : List String}
    (hc : s.setAttribute id name value typeName = .ok (after, warnings)) : after.Recorded := by
  obtain ⟨scale, hscale, hc⟩ := Outcome.of_bind hc
  obtain ⟨⟨changed, ws⟩, hchanged, hc⟩ := Outcome.of_bind hc
  obtain ⟨hafter, -⟩ := Prod.mk.inj (Except.ok.inj hc)
  rw [← hafter]
  exact h.setScale (scale_ok hscale) (Scale.sameSort_of_setAttribute (Scale.unplaced_ok hchanged))

theorem Recorded.addScale (h : s.Recorded) (scale : Scale) : (s.addScale scale).2.Recorded := by
  intro id b hb
  obtain ⟨found, hfound, hrest⟩ := h hb
  have hbound : b.scale.index < s.scales.length := (List.getElem?_eq_some_iff.1 hfound).1
  have hkept : (s.scales ++ [scale])[b.scale.index]? = s.scales[b.scale.index]? :=
    List.getElem?_append_left hbound
  exact ⟨found, hkept.trans hfound, hrest⟩

/-- What a scale makes of arguments is recorded with the scale's types. -/
theorem bind_ok {id : ScaleId} {scale : Scale} {arguments : List Value} {b : Binding}
    (h : bind id scale arguments = .ok b) :
    b.scale = id ∧ b.argumentTypes = scale.argumentTypes ∧ scale.valueType = .ok b.valueType := by
  unfold bind at h
  split at h
  · obtain ⟨t, ht, rfl⟩ := Outcome.of_map h
    exact ⟨rfl, rfl, ht⟩
  · cases h

theorem Recorded.invoke (h : s.Recorded) {id : ScaleId} {arguments : List Value} {x : BindingId}
    (hi : s.invoke id arguments = .ok (x, after)) : after.Recorded := by
  obtain ⟨scale, hscale, hi⟩ := Outcome.of_bind hi
  obtain ⟨b, hb, hi⟩ := Outcome.of_bind hi
  obtain ⟨-, rfl⟩ := Prod.mk.inj (Except.ok.inj hi)
  obtain ⟨rfl, harguments, htype⟩ := bind_ok hb
  intro y b' hb'
  have hmem : (s.bindings ++ [b])[y.index]? = some b' := hb'
  rw [List.getElem?_append] at hmem
  split at hmem
  · exact @h y b' hmem
  · obtain rfl : b' = b := List.mem_singleton.mp (List.mem_of_getElem? hmem)
    exact ⟨scale, scale_ok hscale, harguments, fun _ => htype⟩

theorem Recorded.mark (h : s.Recorded) (id : BindingId) : (s.mark id).Recorded := by
  intro x b hb
  rw [binding?_mark] at hb
  split at hb
  · obtain ⟨before, hbefore, rfl⟩ := Option.map_eq_some_iff.1 hb
    exact @h x before hbefore
  · exact h hb

theorem Recorded.markAll (h : s.Recorded) (ids : List BindingId) : (s.markAll ids).Recorded := by
  induction ids generalizing s with
  | nil => exact h
  | cons id rest ih => exact ih (h.mark id)

theorem exists_of_markResolved {id : BindingId} (h : s.markResolved id = .ok after) :
    after = s.mark id := by
  obtain ⟨b, -, h⟩ := Outcome.of_bind h
  split at h
  · cases h
  · exact (Except.ok.inj h).symm

/-- Resolving a binding, or trying to, marks bindings and does nothing else. -/
theorem exists_markAll_of_resolve (s : Store) (refs : References) (id : BindingId) :
    ∃ ids, (s.resolve refs id).2 = s.markAll ids := by
  have hidle : (Resolver.new refs).Idle := rfl
  obtain ⟨ids, hids, -⟩ := Resolver.exists_marked hidle s id
  exact ⟨ids, hids⟩

/-- Resolving a value marks bindings and does nothing else. -/
theorem exists_markAll_of_resolveValue (s : Store) (refs : References) (slot : Slot) (v : Value) :
    ∃ ids, (s.resolveValue refs slot v).2 = s.markAll ids := by
  unfold resolveValue
  cases v with
  | binding id =>
    rw [Resolver.resolveValue_binding]
    exact s.exists_markAll_of_resolve refs id
  | datum d | reference d | expr d =>
    rw [Resolver.resolveValue_of_no_binding _ s slot rfl]
    exact ⟨[], rfl⟩

/-- **One step keeps that the bindings are recorded.** -/
theorem Recorded.step (h : s.Recorded) (hs : s.Step after) : after.Recorded := by
  cases hs with
  | create hnew => exact h.addScale _
  | setDomain hc => exact h.changeScale (fun _ _ => Scale.sameSort_of_setDomain) hc
  | setRange hc => exact h.changeScale (fun _ _ => Scale.sameSort_of_setRange) hc
  | setPosition hc => exact h.changeScale (fun _ _ => Scale.sameSort_of_setPosition) hc
  | setAttribute hc => exact h.setAttribute hc
  | invoke hi => exact h.invoke hi
  | mark hm => exact exists_of_markResolved hm ▸ h.mark _
  | resolve refs id =>
    obtain ⟨ids, hids⟩ := s.exists_markAll_of_resolve refs id
    exact hids ▸ h.markAll ids
  | resolveValue refs slot v =>
    obtain ⟨ids, hids⟩ := s.exists_markAll_of_resolveValue refs slot v
    exact hids ▸ h.markAll ids

/-- **In every store that a session comes to, the bindings are recorded.** -/
theorem Reachable.recorded (h : s.Reachable) : s.Recorded := by
  induction h with
  | empty => exact fun _ _ hb => nomatch hb
  | step _ hs ih => exact ih.step hs

end Store

end VisualScale
