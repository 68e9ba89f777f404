import VisualScale.Proofs.Session

/-!
# Resolving one value

A value can be handed to a resolver between passes, with a slot that it has to fit. If it is a
binding, that is a whole pass, which marks the tree of the binding when it ends well; only then the
expression is checked against the slot (`Resolver.resolveValue_binding`). So what is all or nothing
for a binding is not for a value:

* `Resolver.resolveValue_fails_marking_iff` -- a call fails and has marked bindings, if and only if
  the value is a binding that resolves to an expression that does not fit the slot;
* `Store.exists_resolveValue_consumed` -- a binding that is lost that way.
-/

namespace VisualScale

/-- A slot refuses an expression if it asks for a type that the expression does not fit. -/
theorem Slot.check_error_iff (slot : Slot) (e : Expr) :
    (∃ f, Scale.unplaced (slot.check e) = .error f) ↔
      ∃ t, slot.type = some t ∧ fits e.valueType t slot.acceptsNumeric = false := by
  unfold Slot.check
  cases ht : slot.type with
  | none => simp [Scale.unplaced]
  | some t =>
    cases hfits : fits e.valueType t slot.acceptsNumeric <;> simp [Scale.unplaced, hfits]

/-- **When resolving a value fails and marks bindings all the same.** Whatever calls a resolver has
    served, it is idle after resolving a value; and it changed nothing in the store, or what
    resolving the binding changes that the value is. A call that fails has changed the state of a
    binding if and only if the value is a binding that resolves to an expression that does not fit
    the slot. -/
theorem Resolver.resolveValue_fails_marking_iff (refs : References) (calls : List Resolver.Call)
    (s : Store) (slot : Slot) (v : Value) :
    let r := (Resolver.new refs).after calls
    let (outcome, r', after) := r.resolveValue s slot v
    r'.Idle ∧
      (after = s ∨ ∃ id, v = .binding id ∧ after = (r.resolve s id).2.2) ∧
      (((∃ f, outcome = .error f) ∧ ∃ x, after.state? x ≠ s.state? x) ↔
        ∃ id e t, v = .binding id ∧ (r.resolve s id).1 = .ok e ∧ slot.type = some t ∧
          fits e.valueType t slot.acceptsNumeric = false) := by
  intro r
  have hidle : r.Idle := Resolver.idle_after calls rfl
  cases v with
  | datum d | reference d | expr d =>
    rw [r.resolveValue_of_no_binding s slot rfl]
    exact ⟨hidle, .inl rfl, by simp⟩
  | binding id =>
    rw [r.resolveValue_binding]
    rcases Resolver.resolve_cases hidle s id with ⟨f, h⟩ | ⟨e, visited, h, hvisited⟩
    -- a pass that fails marks nothing
    · rw [h]
      refine ⟨hidle, .inl rfl, by simp, ?_⟩
      rintro ⟨id', e, t, hid, he, -⟩
      obtain rfl : id = id' := Value.binding.inj hid
      rw [h] at he
      cases he
    · have hmem : id ∈ visited := hvisited.unfolds.mem_iff.2 .refl
      have hchanged : (s.markAll visited).state? id ≠ s.state? id := by
        rw [Store.state?_markAll, if_pos hmem, hvisited.created id hmem]
        simp
      rw [h]
      refine ⟨hidle, .inr ⟨id, rfl, by rw [h]⟩, ?_⟩
      show ((∃ f, Scale.unplaced (slot.check e) = .error f) ∧ _) ↔ _
      rw [Slot.check_error_iff]
      constructor
      · rintro ⟨⟨t, ht, hfits⟩, -⟩
        exact ⟨id, e, t, rfl, by rw [h], ht, hfits⟩
      · rintro ⟨id', e', t, hid, he, ht, hfits⟩
        obtain rfl : id = id' := Value.binding.inj hid
        rw [h] at he
        obtain rfl : e = e' := Except.ok.inj he
        exact ⟨⟨t, ht, hfits⟩, id, hchanged⟩

/-- A sum that is asked for as a vector: the call fails, the binding is resolved all the same, and
    cannot be resolved as the number that it is any more. -/
theorem Store.exists_resolveValue_consumed :
    let one : Value := Scale.floatValue 1
    let s : Store := ⟨[.arithmetic .add],
      [⟨⟨0⟩, .float, [.float, .float], [one, one], .created, rfl⟩]⟩
    let (outcome, after) := s.resolveValue columnOf ⟨some .vector2, false, "Value"⟩ (.binding ⟨0⟩)
    s.Reachable ∧ outcome = .error (.plain (.slotMismatch "Value" .vector2 .float)) ∧
      s.state? ⟨0⟩ = some .created ∧ after.state? ⟨0⟩ = some .resolved ∧
      (after.resolveValue columnOf ⟨some .float, false, "Value"⟩ (.binding ⟨0⟩)).1 =
        .error (.plain .alreadyResolved) ∧
      ∃ e, (s.resolveValue columnOf ⟨some .float, false, "Value"⟩ (.binding ⟨0⟩)).1 = .ok e := by
  intro one s
  have hcreated : Reachable ⟨[.arithmetic .add], []⟩ :=
    Reachable.empty.step (.create (.arithmetic .add))
  have hinvoke : invoke ⟨[.arithmetic .add], []⟩ ⟨0⟩ [one, one] = .ok (⟨0⟩, s) := rfl
  exact ⟨hcreated.step (.invoke hinvoke), rfl, rfl, rfl, rfl, _, rfl⟩

end VisualScale
