/-!
# Outcomes

What a step gives is a value or a failure. A chain of steps that gives a value gives one at each
step (`Outcome.of_bind`, `Outcome.of_map`).

Two outcomes are alike when both are values that stand in a relation, or both are failures of the
same kind (`Alike`). What is alike stays alike when both sides go on in ways that take related
values to alike outcomes (`Alike.bind`), so a recursion is compared with itself, run on other data,
one step at a time.
-/

namespace VisualScale

/-! ## 1. Chains of steps -/

namespace Outcome

variable {ε α β : Type} {x : Except ε α}

theorem of_bind {k : α → Except ε β} {b : β} (h : (x >>= k) = .ok b) :
    ∃ a, x = .ok a ∧ k a = .ok b := by
  cases x with
  | ok a => exact ⟨a, rfl, h⟩
  | error f => cases h

/-- A chain that begins with a known value goes on from it. -/
theorem of_bind_ok {k : α → Except ε β} {a : α} {b : β} (hx : x = .ok a) (h : (x >>= k) = .ok b) :
    k a = .ok b := by
  rw [hx] at h
  exact h

theorem of_map {k : α → β} {b : β} (h : x.map k = .ok b) : ∃ a, x = .ok a ∧ k a = b := by
  cases x with
  | ok a => exact ⟨a, rfl, Except.ok.inj h⟩
  | error f => cases h

/-- A chain of steps fails where its first step does, or else where it goes on. -/
theorem bind_eq_error_iff {k : α → Except ε β} {f : ε} :
    (x >>= k) = .error f ↔ x = .error f ∨ ∃ a, x = .ok a ∧ k a = .error f := by
  cases x with
  | ok a =>
    constructor
    · exact fun h => .inr ⟨a, rfl, h⟩
    · rintro (h | ⟨a', h, hk⟩)
      · cases h
      · exact Except.ok.inj h ▸ hk
  | error g =>
    constructor
    · exact fun h => .inl (congrArg Except.error (Except.error.inj h))
    · rintro (h | ⟨a', h, -⟩)
      · exact congrArg Except.error (Except.error.inj h)
      · cases h

theorem map_eq_error_iff {k : α → β} {f : ε} : x.map k = .error f ↔ x = .error f := by
  cases x with
  | ok a => exact ⟨nofun, nofun⟩
  | error g =>
    constructor
    · exact fun h => congrArg _ (Except.error.inj h)
    · exact fun h => congrArg _ (Except.error.inj h)

/-- What goes on only if a test holds, and gives a value, has passed the test. -/
theorem of_guard {c : Bool} {f : ε} {a : α} (h : (if c then x else .error f) = .ok a) :
    c = true ∧ x = .ok a := by
  cases c with
  | true => exact ⟨rfl, h⟩
  | false => cases h

end Outcome

/-! ## 2. Two outcomes side by side -/

/-- Two outcomes are alike: both are values that `R` relates, or both are failures that are the same
    by `same`. -/
inductive Alike {ε α β : Type} (same : ε → ε → Prop) (R : α → β → Prop) :
    Except ε α → Except ε β → Prop where
  | ok {a : α} {b : β} (h : R a b) : Alike same R (.ok a) (.ok b)
  | error {f g : ε} (h : same f g) : Alike same R (.error f) (.error g)

namespace Alike

variable {ε α β γ δ : Type} {same : ε → ε → Prop} {R : α → β → Prop} {S : γ → δ → Prop}
variable {x : Except ε α} {y : Except ε β}

theorem bind (h : Alike same R x y) {k : α → Except ε γ} {l : β → Except ε δ}
    (hk : ∀ a b, R a b → Alike same S (k a) (l b)) : Alike same S (x >>= k) (y >>= l) := by
  cases h with
  | ok h => exact hk _ _ h
  | error h => exact .error h

theorem map (h : Alike same R x y) {k : α → γ} {l : β → δ} (hk : ∀ a b, R a b → S (k a) (l b)) :
    Alike same S (x.map k) (y.map l) := by
  cases h with
  | ok h => exact .ok (hk _ _ h)
  | error h => exact .error h

/-- What is alike to a value is a value. -/
theorem exists_of_right {b : β} (h : Alike same R x (.ok b)) : ∃ a, x = .ok a ∧ R a b := by
  cases h with
  | ok h => exact ⟨_, rfl, h⟩

/-- What a value is alike to is a value. -/
theorem exists_of_left {a : α} (h : Alike same R (.ok a) y) : ∃ b, y = .ok b ∧ R a b := by
  cases h with
  | ok h => exact ⟨_, rfl, h⟩

end Alike

end VisualScale
