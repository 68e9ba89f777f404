import VisualScale.Proofs.Contents
import VisualScale.Proofs.Document.Written

/-!
# Which bindings are written as documents

The doubles in the payload of a binding are those in what is bound, to its arguments and to the
attributes of its scale, and behind it (`Store.contains_iff_of_ofBindingWithin`): in literals, with
the components of vectors and colors, and in the constants of expressions. Nothing turns one away
that is not finite. So where a text is written of a binding, it is a JSON document if and only if
all of them are finite (`Store.document_iff`).

No text is written if the payload has a value type or a binding itself in it. These come of
constants that hold a reference, an expression or a binding, and of nothing else
(`Store.foreign?_of_ofBindingWithin`).
-/

namespace VisualScale

/-! ## 1. The doubles in what is bound -/

/-- The double that a scalar is. -/
def Scalar.doubles : Scalar → List Double
  | .float d => [d]
  | _ => []

/-- The doubles in a literal. -/
def Literal.doubles : Literal → List Double
  | .scalar s => s.doubles
  | l => l.parts.flatMap Scalar.doubles

/-- The doubles in what has no parts that are values. -/
def Datum.doubles : Datum → List Double
  | .literal l => l.doubles
  | _ => []

mutual

/-- The doubles in a value; those behind a binding are not in it. -/
def Value.doubles : Value → List Double
  | .datum d => d.doubles
  | .expr e => e.doubles
  | .reference _ | .binding _ => []

/-- The doubles in the constants of an expression. -/
def Expr.doubles : Expr → List Double
  | .const value _ | .stray value => value.doubles
  | .var _ _ | .column _ _ => []
  | .unary _ operand _ => operand.doubles
  | .binary _ left right _ => left.doubles ++ right.doubles
  | .call _ args _ => Expr.doublesOfAll args
  | .component value _ _ => value.doubles

/-- The doubles in the constants of expressions side by side. -/
def Expr.doublesOfAll : List Expr → List Double
  | [] => []
  | e :: rest => e.doubles ++ Expr.doublesOfAll rest

end

namespace Payload

variable {d : Double}

theorem contains_ofScalar {s : Scalar} : (ofScalar s).Contains (.float d) ↔ d ∈ s.doubles := by
  cases s <;> simp [ofScalar, Scalar.doubles]

theorem contains_ofLiteral {l : Literal} : (ofLiteral l).Contains (.float d) ↔ d ∈ l.doubles := by
  cases l with
  | scalar s => exact contains_ofScalar
  | _ =>
    simp [ofLiteral, Literal.doubles, Literal.parts, Literal.valueType, ValueType.components,
      contains_ofScalar]

theorem contains_ofDatum {v : Datum} : (ofDatum v).Contains (.float d) ↔ d ∈ v.doubles := by
  cases v with
  | literal l => exact contains_ofLiteral
  | absent | text s => simp [ofDatum, Datum.doubles]

mutual

/-- The doubles in the payload of what a constant holds. -/
theorem contains_ofHeld : (v : Value) → ((ofHeld v).Contains (.float d) ↔ d ∈ v.doubles)
  | .datum _ => contains_ofDatum
  | .reference r => by
    cases hr : r.valueType <;> simp [ofHeld, ofOpenType, Value.doubles, hr]
  | .expr e => contains_ofHeldExpr e
  | .binding _ => by simp [ofHeld, Value.doubles]

/-- The doubles in the payload of an expression that a constant holds. -/
theorem contains_ofHeldExpr : (e : Expr) → ((ofHeldExpr e).Contains (.float d) ↔ d ∈ e.doubles)
  | .const v _ => by simp [ofHeldExpr, Expr.doubles, contains_ofHeld v]
  | .var _ _ | .column _ _ => by simp [ofHeldExpr, Expr.doubles]
  | .unary _ operand _ => by simp [ofHeldExpr, Expr.doubles, contains_ofHeldExpr operand]
  | .binary _ left right _ => by
    simp [ofHeldExpr, Expr.doubles, contains_ofHeldExpr left, contains_ofHeldExpr right]
  | .call _ args _ => by simp [ofHeldExpr, Expr.doubles, contains_ofHeldExprs args]
  | .component value _ _ => by simp [ofHeldExpr, Expr.doubles, contains_ofHeldExpr value]
  | .stray v => contains_ofHeld v

/-- The same of expressions side by side. -/
theorem contains_ofHeldExprs : (es : List Expr) →
    ((∃ p ∈ ofHeldExprs es, p.Contains (.float d)) ↔ d ∈ Expr.doublesOfAll es)
  | [] => by simp [ofHeldExprs, Expr.doublesOfAll]
  | e :: rest => by
    simp [ofHeldExprs, Expr.doublesOfAll, contains_ofHeldExpr e, contains_ofHeldExprs rest]

end

/-- The fields that every node begins with are texts. -/
theorem contains_node {kind : String} {t : ValueType} {fields : List (String × Payload)} :
    (node kind t fields).Contains (.float d) ↔ ∃ f ∈ fields, f.2.Contains (.float d) := by
  simp [node]

mutual

/-- The doubles in the payload of an expression are those in its constants. -/
theorem contains_ofExpr : (e : Expr) → {p : Payload} → ofExpr e = .ok p →
    (p.Contains (.float d) ↔ d ∈ e.doubles)
  | .const _ _, _, h => by
    obtain rfl := Except.ok.inj h
    simp [contains_node, contains_ofHeld, Expr.doubles]
  | .var _ _, _, h | .column _ _, _, h => by
    obtain rfl := Except.ok.inj h
    simp [contains_node, Expr.doubles]
  | .unary _ operand _, _, h => by
    obtain ⟨p, hp, h⟩ := Outcome.of_bind h
    obtain rfl := Except.ok.inj h
    simp [contains_node, Expr.doubles, contains_ofExpr operand hp]
  | .binary _ left right _, _, h => by
    obtain ⟨l, hl, h⟩ := Outcome.of_bind h
    obtain ⟨r, hr, h⟩ := Outcome.of_bind h
    obtain rfl := Except.ok.inj h
    simp [contains_node, Expr.doubles, contains_ofExpr left hl, contains_ofExpr right hr]
  | .call _ args _, _, h => by
    obtain ⟨ps, hps, h⟩ := Outcome.of_bind h
    obtain rfl := Except.ok.inj h
    simp [contains_node, Expr.doubles, contains_ofExprs args hps]
  | .component value _ _, _, h => by
    obtain ⟨p, hp, h⟩ := Outcome.of_bind h
    obtain rfl := Except.ok.inj h
    simp [contains_node, Expr.doubles, contains_ofExpr value hp]
  | .stray _, _, h => nomatch h

/-- The same of expressions side by side. -/
theorem contains_ofExprs : (es : List Expr) → {ps : List Payload} → ofExprs es = .ok ps →
    ((∃ p ∈ ps, p.Contains (.float d)) ↔ d ∈ Expr.doublesOfAll es)
  | [], _, h => by
    obtain rfl := Except.ok.inj h
    simp [Expr.doublesOfAll]
  | e :: rest, _, h => by
    obtain ⟨p, hp, h⟩ := Outcome.of_bind h
    obtain ⟨ps, hps, h⟩ := Outcome.of_bind h
    obtain rfl := Except.ok.inj h
    simp [Expr.doublesOfAll, contains_ofExpr e hp, contains_ofExprs rest hps]

end

/-! ## 2. The doubles in one payload -/

section

variable {f : BindingId → Except Failure Payload}

/-- The doubles in the payload of a value are its own, or those in the payload of the binding that
    it is. -/
theorem Stored.contains_iff {v : Value} {p : Payload} (h : Stored f v p) :
    p.Contains (.float d) ↔
      d ∈ v.doubles ∨ ∃ c q, v = .binding c ∧ f c = .ok q ∧ q.Contains (.float d) := by
  cases h with
  | unbound => simp [Value.doubles, Datum.doubles]
  | literal l => simp [ofKind, Value.literal, Value.doubles, Datum.doubles, contains_ofLiteral]
  | reference r => cases hr : r.valueType <;> simp [ofKind, ofType?, Value.doubles]
  | expr he => simp [ofKind, Value.doubles, contains_ofExpr _ he]
  | binding hc => simp [ofKind, Value.doubles, hc]

/-- The doubles in the payloads of values are those in the payload of one of them. -/
theorem exists_contains_iff {vs : List Value} {ps : List Payload}
    (h : List.Forall₂ (Stored f) vs ps) : (∃ p ∈ ps, p.Contains (.float d)) ↔
      ∃ v ∈ vs, d ∈ v.doubles ∨ ∃ c q, v = .binding c ∧ f c = .ok q ∧ q.Contains (.float d) := by
  induction h with
  | nil => simp
  | cons hv _ ih =>
    simp only [List.mem_cons, exists_eq_or_imp]
    rw [hv.contains_iff, ih]

/-- The names and types of attributes are texts. -/
theorem exists_contains_attributes {as : List Attribute} {ps : List Payload}
    (h : as.length = ps.length) :
    (∃ p ∈ List.zipWith attributeField as ps, p.Contains (.float d)) ↔
      ∃ p ∈ ps, p.Contains (.float d) := by
  induction as generalizing ps with
  | nil =>
    obtain rfl := List.length_eq_zero_iff.1 h.symm
    rfl
  | cons a as ih =>
    cases ps with
    | nil => cases h
    | cons p ps =>
      simp only [List.zipWith_cons_cons, List.mem_cons, exists_eq_or_imp]
      rw [ih (Nat.succ.inj h)]
      simp [attributeField]

/-- The doubles in the payload of a binding are those in what is bound to its arguments and
    attributes. -/
theorem contains_invocation {scale : Scale} {b : Binding} {arguments attributes : List Payload}
    (harguments : List.Forall₂ (Stored f) b.arguments arguments)
    (hattributes : List.Forall₂ (Stored f) (scale.attributes.map Attribute.value) attributes) :
    (invocation scale b arguments attributes).Contains (.float d) ↔
      ∃ v ∈ b.arguments ++ scale.attributes.map Attribute.value,
        d ∈ v.doubles ∨ ∃ c q, v = .binding c ∧ f c = .ok q ∧ q.Contains (.float d) := by
  have hlength : scale.attributes.length = attributes.length := by
    rw [← hattributes.length_eq, List.length_map]
  have htexts : ¬ ∃ p ∈ b.argumentTypes.map fun t => Payload.text t.name,
      p.Contains (.float d) := by
    simp
  have hfields : (invocation scale b arguments attributes).Contains (.float d) ↔
      (∃ p ∈ arguments, p.Contains (.float d)) ∨ ∃ p ∈ attributes, p.Contains (.float d) := by
    unfold invocation
    simp only [contains_record, List.mem_cons, List.not_mem_nil, exists_eq_or_imp, exists_eq_left,
      contains_text, contains_list, htexts, exists_contains_attributes hlength, false_or, or_false]
  rw [hfields, exists_contains_iff harguments, exists_contains_iff hattributes, ← exists_or]
  refine exists_congr fun v => ?_
  rw [List.mem_append, or_and_right]

end

/-! ## 3. What is written of one payload -/

theorem foreign?_ofLiteral (l : Literal) : Json.foreign? (ofLiteral l) = none := by
  have hscalar (s : Scalar) : Json.foreign? (ofScalar s) = none := by
    cases s <;> rfl
  cases l with
  | scalar s => exact hscalar s
  | _ =>
    simp [ofLiteral, Literal.parts, Literal.valueType, ValueType.components, hscalar]

theorem foreign?_ofDatum (v : Datum) : Json.foreign? (ofDatum v) = none := by
  cases v with
  | literal l => exact foreign?_ofLiteral l
  | absent | text s => rfl

/-- The fields that every node begins with are written. -/
theorem foreign?_node_iff {kind : String} {t : ValueType} {fields : List (String × Payload)} :
    Json.foreign? (node kind t fields) = none ↔ ∀ f ∈ fields, Json.foreign? f.2 = none := by
  simp [node]

mutual

/-- All of an expression is written, if its constants hold what has no parts that are values. -/
theorem foreign?_ofExpr : (e : Expr) → {p : Payload} → ofExpr e = .ok p → e.HoldsData →
    Json.foreign? p = none
  | .const v _, _, h, hdata => by
    obtain rfl := Except.ok.inj h
    obtain ⟨d, rfl⟩ := hdata v List.mem_cons_self
    exact foreign?_node_iff.2 (List.forall_mem_singleton.2 (foreign?_ofDatum d))
  | .var _ _, _, h, _ | .column _ _, _, h, _ => by
    obtain rfl := Except.ok.inj h
    rfl
  | .unary _ operand _, _, h, hdata => by
    obtain ⟨p, hp, h⟩ := Outcome.of_bind h
    obtain rfl := Except.ok.inj h
    simp [foreign?_node_iff, foreign?_ofExpr operand hp hdata]
  | .binary _ left right _, _, h, hdata => by
    obtain ⟨l, hl, h⟩ := Outcome.of_bind h
    obtain ⟨r, hr, h⟩ := Outcome.of_bind h
    obtain rfl := Except.ok.inj h
    obtain ⟨hleft, hright⟩ := List.forall_mem_append.1 hdata
    simp [foreign?_node_iff, foreign?_ofExpr left hl hleft, foreign?_ofExpr right hr hright]
  | .call _ args _, _, h, hdata => by
    obtain ⟨ps, hps, h⟩ := Outcome.of_bind h
    obtain rfl := Except.ok.inj h
    simpa [foreign?_node_iff] using foreign?_ofExprs args hps hdata
  | .component value _ _, _, h, hdata => by
    obtain ⟨p, hp, h⟩ := Outcome.of_bind h
    obtain rfl := Except.ok.inj h
    simp [foreign?_node_iff, foreign?_ofExpr value hp hdata]
  | .stray _, _, h, _ => nomatch h

/-- The same of expressions side by side. -/
theorem foreign?_ofExprs : (es : List Expr) → {ps : List Payload} → ofExprs es = .ok ps →
    (∀ v ∈ Expr.heldByAll es, ∃ d, v = .datum d) → ∀ p ∈ ps, Json.foreign? p = none
  | [], _, h, _ => by
    obtain rfl := Except.ok.inj h
    exact List.forall_mem_nil _
  | e :: rest, _, h, hdata => by
    obtain ⟨p, hp, h⟩ := Outcome.of_bind h
    obtain ⟨ps, hps, h⟩ := Outcome.of_bind h
    obtain rfl := Except.ok.inj h
    obtain ⟨hfirst, hrest⟩ := List.forall_mem_append.1 hdata
    exact List.forall_mem_cons.2 ⟨foreign?_ofExpr e hp hfirst, foreign?_ofExprs rest hps hrest⟩

end

section

variable {f : BindingId → Except Failure Payload}

/-- All of the value is written: its constants hold what has no parts that are values, and all of
    the binding is written that it may be. -/
def IsWritten (f : BindingId → Except Failure Payload) (v : Value) : Prop :=
  v.HoldsData ∧ ∀ c q, v = .binding c → f c = .ok q → Json.foreign? q = none

theorem Stored.foreign?_eq_none {v : Value} {p : Payload} (h : Stored f v p)
    (hv : IsWritten f v) : Json.foreign? p = none := by
  cases h with
  | unbound => rfl
  | literal l => simp [ofKind, foreign?_ofLiteral]
  | reference r => cases hr : r.valueType <;> simp [ofKind, ofType?]
  | expr he => simp [ofKind, foreign?_ofExpr _ he (hv.1 _ rfl)]
  | binding hc => simp [ofKind, hv.2 _ _ rfl hc]

theorem foreign?_of_stored {vs : List Value} {ps : List Payload}
    (h : List.Forall₂ (Stored f) vs ps) (hvs : ∀ v ∈ vs, IsWritten f v) :
    ∀ p ∈ ps, Json.foreign? p = none := by
  induction h with
  | nil => exact List.forall_mem_nil _
  | cons hv _ ih =>
    obtain ⟨hfirst, hrest⟩ := List.forall_mem_cons.1 hvs
    exact List.forall_mem_cons.2 ⟨hv.foreign?_eq_none hfirst, ih hrest⟩

theorem foreign?_attributes {as : List Attribute} {ps : List Payload}
    (h : ∀ p ∈ ps, Json.foreign? p = none) :
    ∀ p ∈ List.zipWith attributeField as ps, Json.foreign? p = none := by
  induction as generalizing ps with
  | nil => exact List.forall_mem_nil _
  | cons a as ih =>
    cases ps with
    | nil => exact List.forall_mem_nil _
    | cons p ps =>
      obtain ⟨hfirst, hrest⟩ := List.forall_mem_cons.1 h
      refine List.forall_mem_cons.2 ⟨?_, ih hrest⟩
      simp [attributeField, hfirst]

/-- All of a binding is written, if all of what is bound in it is. -/
theorem foreign?_invocation {scale : Scale} {b : Binding} {arguments attributes : List Payload}
    (harguments : List.Forall₂ (Stored f) b.arguments arguments)
    (hattributes : List.Forall₂ (Stored f) (scale.attributes.map Attribute.value) attributes)
    (h : ∀ v ∈ scale.attributes.map Attribute.value ++ b.arguments, IsWritten f v) :
    Json.foreign? (invocation scale b arguments attributes) = none := by
  obtain ⟨hbound, hgiven⟩ := List.forall_mem_append.1 h
  have hfields : ∀ p ∈ List.zipWith attributeField scale.attributes attributes,
      Json.foreign? p = none := foreign?_attributes (foreign?_of_stored hattributes hbound)
  have hitems : ∀ p ∈ arguments, Json.foreign? p = none := foreign?_of_stored harguments hgiven
  simpa [invocation] using ⟨hitems, hfields⟩

end

end Payload

namespace Store

open Payload

variable {s : Store} {id : BindingId} {d : Double}

/-! ## 4. The doubles in the payload of a binding -/

/-- **The doubles in the payload of a binding are those in what is bound in it and behind it.** -/
theorem contains_iff_of_ofBindingWithin {depth : Nat} {p : Payload}
    (h : ofBindingWithin s depth id = .ok p) : p.Contains (.float d) ↔
      ∃ c, s.Reaches id c ∧ ∃ v ∈ s.exported c, d ∈ v.doubles := by
  induction depth generalizing id p with
  | zero => cases h
  | succ depth ih =>
    obtain ⟨less, b, scale, arguments, attributes, hless, hb, hs, harguments, hattributes, rfl⟩ :=
      exists_of_ofBindingWithin h
    obtain rfl := Nat.succ.inj hless
    rw [contains_invocation harguments hattributes, ← exported_of hb hs]
    have hchild (c : BindingId) : c ∈ s.children id ↔ .binding c ∈ s.exported id :=
      mem_children_iff.trans mem_exported_iff.symm
    constructor
    · rintro ⟨v, hv, hd | ⟨c, q, rfl, hq, hd⟩⟩
      · exact ⟨id, .refl, v, hv, hd⟩
      · obtain ⟨x, hx, hd⟩ := (ih hq).1 hd
        exact ⟨x, .head ((hchild c).2 hv) hx, hd⟩
    · rintro ⟨x, hx, v, hv, hd⟩
      rcases hx.cases_head with rfl | ⟨c, hc, hx⟩
      · exact ⟨v, hv, .inl hd⟩
      · have hc := (hchild c).1 hc
        obtain ⟨q, hq⟩ := exists_of_mem_exported h hc
        exact ⟨_, hc, .inr ⟨c, q, rfl, hq, (ih hq).2 ⟨x, hx, v, hv, hd⟩⟩⟩

/-! ## 5. What is written of a binding -/

/-- **There is nothing in the payload of a binding that JSON has no kind of value for**, if the
    constants of what is bound hold nothing, texts and literals. -/
theorem foreign?_of_ofBindingWithin {depth : Nat} {p : Payload}
    (h : ofBindingWithin s depth id = .ok p) (hdata : s.HoldsData id) :
    Json.foreign? p = none := by
  induction depth generalizing id p with
  | zero => cases h
  | succ depth ih =>
    obtain ⟨less, b, scale, arguments, attributes, hless, hb, hs, harguments, hattributes, rfl⟩ :=
      exists_of_ofBindingWithin h
    obtain rfl := Nat.succ.inj hless
    have hown := hdata id .refl
    rw [slotValues_of hb hs] at hown
    refine foreign?_invocation harguments hattributes fun v hv => ⟨hown v hv, fun c q hc hq => ?_⟩
    obtain rfl := hc
    have hchild : c ∈ s.children id := by
      rw [mem_children_iff, slotValues_of hb hs]
      exact hv
    exact ih hq fun x hx => hdata x (.head hchild hx)

/-- **What is written of a binding is a JSON document exactly if every double that is bound in it or
    behind it is finite**, and then it holds the payload of the binding and nothing else. There is
    nothing in the payload that keeps it from being written, as long as the constants of what is
    bound hold nothing, texts and literals. -/
theorem document_iff {p : Payload} (h : s.Exports id (.ok p)) :
    (s.HoldsData id → Json.foreign? p = none) ∧
    ∀ text, p.json = .ok text → ∀ q, Json.Document text q ↔
      (∀ c, s.Reaches id c → ∀ v ∈ s.exported c, ∀ d ∈ v.doubles, d.isFinite = true) ∧ q = p := by
  obtain ⟨-, depth, h⟩ := h
  refine ⟨foreign?_of_ofBindingWithin h, fun text hwritten q => ?_⟩
  rw [Json.document_json_iff hwritten]
  refine and_congr_left' ?_
  unfold Payload.Finite
  simp only [contains_iff_of_ofBindingWithin h]
  exact ⟨fun h c hc v hv d hd => h d ⟨c, hc, v, hv, hd⟩,
    fun h d ⟨c, hc, v, hv, hd⟩ => h c hc v hv d hd⟩

/-- The sum of two doubles, not resolved yet. -/
def sumOfDoubles (a b : Double) : Store :=
  ⟨[.arithmetic .add],
    [⟨⟨0⟩, .float, [.float, .float],
      [.literal (.scalar (.float a)), .literal (.scalar (.float b))], .created, rfl⟩]⟩

theorem reachable_sumOfDoubles (a b : Double) : (sumOfDoubles a b).Reachable := by
  have hcreated : Reachable ⟨[.arithmetic .add], []⟩ :=
    Reachable.empty.step (.create (.arithmetic .add))
  have hinvoke : invoke ⟨[.arithmetic .add], []⟩ ⟨0⟩
    [.literal (.scalar (.float a)), .literal (.scalar (.float b))] =
      .ok (⟨0⟩, sumOfDoubles a b) := rfl
  exact hcreated.step (.invoke hinvoke)

/-- The payload of that sum. -/
def payloadOfSum (a b : Double) : Payload :=
  let constant (d : Double) := Payload.ofKind .constant [("value", .float d)]
  .record
    [ ("scale", .text "ArithmeticScale")
    , ("state", .text "created")
    , ("value_type", .text "float")
    , ("argument_types", .list [.text "float", .text "float"])
    , ("arguments", .list [constant a, constant b])
    , ("attributes", .list []) ]

theorem exports_sumOfDoubles (a b : Double) :
    (sumOfDoubles a b).Exports ⟨0⟩ (.ok (payloadOfSum a b)) := ⟨nofun, 1, rfl⟩

theorem mem_doubles_of_reaches {a b : Double} {c : BindingId}
    (hc : (sumOfDoubles a b).Reaches ⟨0⟩ c) {v : Value} (hv : v ∈ (sumOfDoubles a b).exported c)
    (hd : d ∈ v.doubles) : d = a ∨ d = b := by
  rcases hc.cases_head with rfl | ⟨child, hchild, -⟩
  · have hexported : (sumOfDoubles a b).exported ⟨0⟩ =
        [.literal (.scalar (.float a)), .literal (.scalar (.float b))] := rfl
    rw [hexported] at hv
    rcases List.mem_cons.1 hv with rfl | hv
    · exact .inl (List.mem_singleton.1 hd)
    · obtain rfl := List.mem_singleton.1 hv
      exact .inr (List.mem_singleton.1 hd)
  · cases hchild

/-- The sum of two zeros is written as a document. -/
theorem document_sum_of_zeros :
    let s := sumOfDoubles (.zero true) (.zero false)
    let p := payloadOfSum (.zero true) (.zero false)
    s.Exports ⟨0⟩ (.ok p) ∧ ∃ text, p.json = .ok text ∧ Json.Document text p := by
  intro s p
  have hexports : s.Exports ⟨0⟩ (.ok p) := exports_sumOfDoubles _ _
  refine ⟨hexports, _, rfl, ((document_iff hexports).2 _ rfl p).2 ⟨fun c hc v hv d hd => ?_, rfl⟩⟩
  rcases mem_doubles_of_reaches hc hv hd with rfl | rfl
  all_goals rfl

/-- **A session can come to a binding of which a text is written that is no document**: the sum of a
    double that is not a number. -/
theorem exists_exports_not_document :
    ∃ (s : Store) (id : BindingId) (p : Payload) (text : String), s.Reachable ∧
      s.state? id = some .created ∧ s.Exports id (.ok p) ∧ p.json = .ok text ∧
      ∀ q, ¬ Json.Document text q := by
  have hnan : ¬ (payloadOfSum .nan (.zero false)).HasForm := by
    rintro ⟨hfinite, -⟩
    have hfound : (payloadOfSum .nan (.zero false)).Contains (.float .nan) := by
      simp [payloadOfSum, Payload.ofKind]
    exact Bool.false_ne_true (hfinite .nan hfound)
  exact ⟨sumOfDoubles .nan (.zero false), ⟨0⟩, _, _, reachable_sumOfDoubles _ _, rfl,
    exports_sumOfDoubles _ _, rfl, Json.not_document hnan⟩

end Store

end VisualScale
