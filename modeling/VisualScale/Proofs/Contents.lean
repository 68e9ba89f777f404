import VisualScale.Proofs.Export
import VisualScale.Proofs.Resolution.Apart

/-!
# What is in the payload of a binding

The payload of a binding names the scale, the state and the types, and holds the payloads of what is
bound to its arguments and to the attributes of its scale (`Payload.invocation`). One of these is of
the kind of its value (`Payload.Stored`), so values that are stored alike are of one kind.

* `ofValue_eq_ok_iff`, `ofValues_eq_ok_iff` -- what the payload of a value is, and those of values
  side by side;
* `exists_of_ofInvocation`, `exists_of_ofBindingWithin` -- what the payload of a binding is made of;
* `exists_of_mem_exported` -- what is bound in a binding that has a payload has one;
* `Store.HoldsData` -- the constants of what is bound in a binding and behind it hold nothing, texts
  and literals, as all constants do whose type was not given by hand.
-/

namespace VisualScale

namespace Payload

/-! ## 1. Values -/

section

variable (f : BindingId → Except Failure Payload)

/-- The payload of a value, by kinds. -/
inductive Stored : Value → Payload → Prop where
  | unbound : Stored (.datum .absent) (.record [("kind", .text "unbound")])
  | literal (l : Literal) : Stored (.literal l) (ofKind .constant [("value", ofLiteral l)])
  | reference (r : DataRef) : Stored (.reference r)
      (ofKind .reference [("field", .text r.field), ("value_type", ofType? r.valueType)])
  | expr {e : Expr} {p : Payload} (h : ofExpr e = .ok p) :
      Stored (.expr e) (ofKind .expression [("expression", p)])
  | binding {c : BindingId} {p : Payload} (h : f c = .ok p) :
      Stored (.binding c) (ofKind .scale [("binding", p)])

variable {f}

theorem ofValue_eq_ok_iff {v : Value} {p : Payload} : ofValue f v = .ok p ↔ Stored f v p := by
  constructor
  · intro h
    cases v with
    | datum d =>
      cases d with
      | absent =>
        obtain rfl := Except.ok.inj h
        exact .unbound
      | text s => cases h
      | literal l =>
        obtain rfl := Except.ok.inj h
        exact .literal l
    | reference r =>
      obtain rfl := Except.ok.inj h
      exact .reference r
    | expr e =>
      obtain ⟨q, hq, rfl⟩ := Outcome.of_map h
      exact .expr (Scale.unplaced_ok hq)
    | binding c =>
      obtain ⟨q, hq, rfl⟩ := Outcome.of_map h
      exact .binding hq
  · intro h
    cases h with
    | unbound | literal l | reference r => rfl
    | expr h =>
      show (Scale.unplaced _).map _ = _
      rw [h]
      rfl
    | binding h =>
      show (f _).map _ = _
      rw [h]
      rfl

theorem ofValues_eq_ok_iff {vs : List Value} {ps : List Payload} :
    ofValues f vs = .ok ps ↔ List.Forall₂ (Stored f) vs ps := by
  induction vs generalizing ps with
  | nil =>
    rw [List.forall₂_nil_left_iff]
    exact ⟨fun h => (Except.ok.inj h).symm, fun h => h ▸ rfl⟩
  | cons v rest ih =>
    rw [List.forall₂_cons_left_iff]
    constructor
    · intro h
      obtain ⟨p, hp, h⟩ := Outcome.of_bind (x := ofValue f v) h
      obtain ⟨qs, hqs, h⟩ := Outcome.of_bind (x := ofValues f rest) h
      exact ⟨p, qs, ofValue_eq_ok_iff.1 hp, ih.1 hqs, (Except.ok.inj h).symm⟩
    · rintro ⟨p, qs, hp, hqs, rfl⟩
      show (ofValue f v >>= fun p => ofValues f rest >>= fun ps => .ok (p :: ps)) = _
      rw [ofValue_eq_ok_iff.2 hp, ih.2 hqs]
      rfl

/-- Where values are stored, each one is. -/
theorem exists_stored_of_mem {vs : List Value} {ps : List Payload}
    (h : List.Forall₂ (Stored f) vs ps) {v : Value} (hv : v ∈ vs) : ∃ p, Stored f v p := by
  induction h with
  | nil => cases hv
  | cons hfirst _ ih =>
    rcases List.mem_cons.1 hv with rfl | hv
    · exact ⟨_, hfirst⟩
    · exact ih hv

/-! ## 2. Bindings -/

/-- The payload of a binding of a scale, from those of its arguments and attributes. -/
def invocation (scale : Scale) (b : Binding) (arguments attributes : List Payload) : Payload :=
  .record
    [ ("scale", .text scale.name)
    , ("state", .text b.state.name)
    , ("value_type", .text b.valueType.name)
    , ("argument_types", .list (b.argumentTypes.map fun t => .text t.name))
    , ("arguments", .list arguments)
    , ("attributes", .list (List.zipWith attributeField scale.attributes attributes)) ]

theorem exists_of_ofInvocation {scale : Scale} {b : Binding} {p : Payload}
    (h : ofInvocation f scale b = .ok p) : ∃ arguments attributes,
      List.Forall₂ (Stored f) b.arguments arguments ∧
      List.Forall₂ (Stored f) (scale.attributes.map Attribute.value) attributes ∧
      p = invocation scale b arguments attributes := by
  obtain ⟨arguments, harguments, h⟩ := Outcome.of_bind h
  obtain ⟨fields, hfields, h⟩ := Outcome.of_bind h
  rw [ofAttributes_eq] at hfields
  obtain ⟨attributes, hattributes, rfl⟩ := Outcome.of_map hfields
  exact ⟨arguments, attributes, ofValues_eq_ok_iff.1 harguments,
    ofValues_eq_ok_iff.1 hattributes, (Except.ok.inj h).symm⟩

end

/-- **What the payload of a binding is made of.** -/
theorem exists_of_ofBindingWithin {s : Store} {depth : Nat} {id : BindingId} {p : Payload}
    (h : ofBindingWithin s depth id = .ok p) : ∃ less b scale arguments attributes,
      depth = less + 1 ∧ s.binding? id = some b ∧ s.scale? b.scale = some scale ∧
      List.Forall₂ (Stored (ofBindingWithin s less)) b.arguments arguments ∧
      List.Forall₂ (Stored (ofBindingWithin s less)) (scale.attributes.map Attribute.value)
        attributes ∧
      p = invocation scale b arguments attributes := by
  cases depth with
  | zero => cases h
  | succ less =>
    obtain ⟨b, hb, h⟩ := Outcome.of_bind (x := s.binding id) h
    obtain ⟨scale, hs, h⟩ := Outcome.of_bind (x := s.scale b.scale) h
    obtain ⟨arguments, attributes, harguments, hattributes, rfl⟩ := exists_of_ofInvocation h
    exact ⟨less, b, scale, arguments, attributes, rfl, Store.binding_ok hb, Store.scale_ok hs,
      harguments, hattributes, rfl⟩

/-- Where a binding has a payload, so has every one that is bound in it. -/
theorem exists_of_mem_exported {s : Store} {depth : Nat} {id c : BindingId} {p : Payload}
    (h : ofBindingWithin s (depth + 1) id = .ok p) (hc : .binding c ∈ s.exported id) :
    ∃ q, ofBindingWithin s depth c = .ok q := by
  obtain ⟨less, b, scale, arguments, attributes, hless, hb, hs, harguments, hattributes, -⟩ :=
    exists_of_ofBindingWithin h
  obtain rfl := Nat.succ.inj hless
  rw [Store.exported_of hb hs] at hc
  obtain ⟨q, hq⟩ := (List.mem_append.1 hc).elim (exists_stored_of_mem harguments)
    (exists_stored_of_mem hattributes)
  cases hq with
  | binding hq => exact ⟨_, hq⟩

end Payload

/-! ## 3. What constants hold -/

mutual

/-- What the constants of an expression hold, from left to right. -/
def Expr.held : Expr → List Value
  | .const value _ => [value]
  | .var _ _ | .column _ _ | .stray _ => []
  | .unary _ operand _ => operand.held
  | .binary _ left right _ => left.held ++ right.held
  | .call _ args _ => Expr.heldByAll args
  | .component value _ _ => value.held

/-- What the constants of expressions side by side hold. -/
def Expr.heldByAll : List Expr → List Value
  | [] => []
  | e :: rest => e.held ++ Expr.heldByAll rest

end

/-- The constants of the expression hold what has no parts that are values. -/
def Expr.HoldsData (e : Expr) : Prop := ∀ v ∈ e.held, ∃ d, v = .datum d

/-- The value is no expression with a constant that holds a value with parts. -/
def Value.HoldsData (v : Value) : Prop := ∀ e, v = .expr e → e.HoldsData

/-- What is bound in a binding and behind it has constants that hold nothing, texts and literals. -/
def Store.HoldsData (s : Store) (id : BindingId) : Prop :=
  ∀ c, s.Reaches id c → ∀ v ∈ s.slotValues c, v.HoldsData

end VisualScale
