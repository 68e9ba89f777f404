import VisualScale.Payload
import VisualScale.Proofs.Outcome
import VisualScale.Proofs.Table

/-!
# Reading what is stored

What is stored of an expression is enough to read it again. Two payloads are the same when they
agree name by name (`Payload.Same`), in whatever order the fields of their records stand; integers,
doubles and truth values stay apart. `Payload.toExpr` reads a payload by the names of its fields,
so it reads the same from payloads that are the same, and from the payload of an expression it
reads the expression (`Expr.Whole.toExpr_of_same`). So no two expressions have the same payload, as
long as their constants hold what has no parts that are values. Of a reference or an expression in
a constant, the payload has the fields but not the kind.
-/

namespace VisualScale

namespace Payload

/-! ## 1. Payloads that agree name by name -/

/-- The same payload, save for the order in which the fields of records stand. -/
inductive Same : Payload → Payload → Prop where
  | null : Same .null .null
  | bool (b : Bool) : Same (.bool b) (.bool b)
  | int (n : Int) : Same (.int n) (.int n)
  | float (d : Double) : Same (.float d) (.float d)
  | text (s : String) : Same (.text s) (.text s)
  | type (t : ValueType) : Same (.type t) (.type t)
  | copy (b : BindingId) : Same (.copy b) (.copy b)
  | list {ps qs : List Payload} (h : List.Forall₂ Same ps qs) : Same (.list ps) (.list qs)
  | record {fields fields' : Table Payload}
      (h : ∀ name, Option.Rel Same (fields.find? name) (fields'.find? name)) :
      Same (.record fields) (.record fields')

/-! ## 2. Reading a payload -/

/-- The text that a payload is. -/
def toText : Payload → Option String
  | .text s => some s
  | _ => none

/-- The value type that a payload names. -/
def toValueType (p : Payload) : Option ValueType := p.toText.bind ValueType.ofName?

/-- The scalar that a payload is. -/
def toScalar : Payload → Option Scalar
  | .bool b => some (.bool b)
  | .int n => some (.int n)
  | .float d => some (.float d)
  | _ => none

/-- The vector or color of a type whose components are found in a record. -/
def vectorOf (fields : Table Payload) (t : ValueType) : Option Literal := do
  let parts ← t.components.mapM fun name => (fields.find? name).bind toScalar
  Literal.ofParts? (.float (.ofInt 1)) t parts

/-- What a constant holds. A record has the components of one type, and not all those of a larger
    one. -/
def toDatum : Payload → Option Datum
  | .null => some .absent
  | .text s => some (.text s)
  | .record fields =>
    ([ValueType.color, .vector4, .vector3, .vector2].findSome? (vectorOf fields)).map .literal
  | p => p.toScalar.map fun s => .literal (.scalar s)

theorem sizeOf_lt_of_find? {fields : Table Payload} {name : String} {p : Payload}
    (h : fields.find? name = some p) : sizeOf p < 1 + sizeOf fields := by
  have hentry := List.sizeOf_lt_of_mem (Table.mem_of_find? h)
  have hsize : sizeOf (name, p) = 1 + sizeOf name + sizeOf p := rfl
  omega

/-- What stands under a name in a record. -/
def within (fields : Table Payload) (name : String) :
    Option { p : Payload // sizeOf p < 1 + sizeOf fields } :=
  match h : fields.find? name with
  | some p => some ⟨p, sizeOf_lt_of_find? h⟩
  | none => none

/-- The text under a name. -/
def textAt (fields : Table Payload) (name : String) : Option String :=
  (fields.find? name).bind toText

/-- The expression that a payload stores. -/
def toExpr : Payload → Option Expr
  | .record fields => do
    let kind ← textAt fields "type"
    let t ← (Table.find? fields "value_type").bind toValueType
    match kind with
    | "constant" => do
      let value ← (Table.find? fields "value").bind toDatum
      some (.const (.datum value) t)
    | "variable" => do
      let name ← textAt fields "name"
      some (.var name t)
    | "field" => do
      let field ← textAt fields "field"
      some (.column field t)
    | "unary" => do
      let op ← textAt fields "op"
      let ⟨p, _⟩ ← within fields "operand"
      let operand ← p.toExpr
      some (.unary op operand t)
    | "binary" => do
      let op ← textAt fields "op"
      let ⟨l, _⟩ ← within fields "left"
      let left ← l.toExpr
      let ⟨r, _⟩ ← within fields "right"
      let right ← r.toExpr
      some (.binary op left right t)
    | "call" => do
      let name ← textAt fields "name"
      match ← within fields "args" with
      | ⟨.list ps, _⟩ => do
        let args ← ps.attach.mapM fun p => p.1.toExpr
        some (.call name args t)
      | _ => none
    | "component" => do
      let field ← textAt fields "field"
      let ⟨p, _⟩ ← within fields "value"
      let value ← p.toExpr
      some (.component value field t)
    | _ => none
  | _ => none
termination_by p => sizeOf p
decreasing_by
  all_goals simp only [Payload.record.sizeOf_spec, Payload.list.sizeOf_spec] at *
  all_goals try omega
  have := List.sizeOf_lt_of_mem p.2
  omega

/-- Every payload is the same as itself. -/
theorem Same.refl : (p : Payload) → p.Same p
  | .null => .null
  | .bool b => .bool b
  | .int n => .int n
  | .float d => .float d
  | .text s => .text s
  | .type t => .type t
  | .copy b => .copy b
  | .list ps => .list (List.forall₂_same.2 fun p _ => refl p)
  | .record fields => by
    refine .record fun name => ?_
    cases hfound : Table.find? fields name with
    | none => exact .none
    | some p => exact .some (refl p)
termination_by p => sizeOf p
decreasing_by
  · have := List.sizeOf_lt_of_mem ‹p ∈ ps›
    simp only [Payload.list.sizeOf_spec]
    omega
  · have := sizeOf_lt_of_find? hfound
    simp only [Payload.record.sizeOf_spec]
    omega

/-! ## 3. Payloads that agree are read alike -/

theorem bind_eq_of_rel {α : Type} {f : Payload → Option α} (hf : ∀ {p q}, Same p q → f q = f p)
    {p? q? : Option Payload} (h : Option.Rel Same p? q?) : q?.bind f = p?.bind f := by
  cases h with
  | some h => exact hf h
  | none => rfl

theorem Same.toText_eq {p q : Payload} (h : p.Same q) : q.toText = p.toText := by
  cases h <;> rfl

theorem Same.toValueType_eq {p q : Payload} (h : p.Same q) : q.toValueType = p.toValueType := by
  unfold toValueType
  rw [h.toText_eq]

theorem Same.toScalar_eq {p q : Payload} (h : p.Same q) : q.toScalar = p.toScalar := by
  cases h <;> rfl

theorem Same.toDatum_eq {p q : Payload} (h : p.Same q) : q.toDatum = p.toDatum := by
  cases h with
  | @record fields fields' h =>
    have hvector : vectorOf fields' = vectorOf fields := by
      funext t
      unfold vectorOf
      simp only [fun name => bind_eq_of_rel Same.toScalar_eq (h name)]
    show (List.findSome? (vectorOf fields') _).map _ = _
    rw [hvector]
    rfl
  | _ => rfl

@[simp] theorem toScalar_ofScalar (s : Scalar) : (ofScalar s).toScalar = some s := by
  cases s <;> rfl

/-- What a constant holds is read from its payload. -/
theorem toDatum_ofDatum (d : Datum) : (ofDatum d).toDatum = some d := by
  cases d with
  | absent | text => rfl
  | literal l =>
    cases l with
    | scalar s => cases s <;> rfl
    | _ =>
      simp [ofDatum, ofLiteral, toDatum, vectorOf, Literal.valueType, Literal.parts,
        ValueType.components, Table.find?, Literal.ofParts?]

/-! ## 4. Nodes -/

section

variable {fields : Table Payload} {name : String} {p q : Payload}

/-- What is the same as a node is a record with the kind, the type and the fields of the node. -/
theorem Same.exists_node {kind : String} {t : ValueType} {rest : Table Payload}
    (h : (node kind t rest).Same q) : ∃ fields : Table Payload, q = .record fields ∧
      textAt fields "type" = some kind ∧ (fields.find? "value_type").bind toValueType = some t ∧
      ∀ name, Option.Rel Same
        (Table.find? (("type", .text kind) :: ("value_type", .text t.name) :: rest) name)
        (fields.find? name) := by
  cases h with
  | @record _ fields h =>
    refine ⟨fields, rfl, ?_, ?_, h⟩
    · exact bind_eq_of_rel Same.toText_eq (h "type")
    · have htype : (Payload.text t.name).toValueType = some t := ValueType.ofName?_name t
      exact (bind_eq_of_rel Same.toValueType_eq (h "value_type")).trans htype

theorem textAt_of_rel {s : String} (h : Option.Rel Same (some (.text s)) (fields.find? name)) :
    textAt fields name = some s :=
  bind_eq_of_rel Same.toText_eq h

/-- A part of a node is found under its name. -/
theorem exists_within_of_rel (h : Option.Rel Same (some p) (fields.find? name)) :
    ∃ q hlt, within fields name = some ⟨q, hlt⟩ ∧ p.Same q := by
  unfold within
  split
  · next q hq =>
    rw [hq] at h
    cases h with
    | some h => exact ⟨q, sizeOf_lt_of_find? hq, rfl, h⟩
  · next hnone =>
    rw [hnone] at h
    cases h

end

end Payload

/-! ## 5. Expressions -/

namespace Expr

open Payload

/-- Every node of the expression is of one of the seven kinds, and every constant holds what has no
    parts that are values. -/
inductive Whole : Expr → Prop where
  | const (value : Datum) (t : ValueType) : Whole (.const (.datum value) t)
  | var (name : String) (t : ValueType) : Whole (.var name t)
  | column (field : String) (t : ValueType) : Whole (.column field t)
  | unary (op : String) {operand : Expr} (t : ValueType) (h : operand.Whole) :
      Whole (.unary op operand t)
  | binary (op : String) {left right : Expr} (t : ValueType) (hl : left.Whole) (hr : right.Whole) :
      Whole (.binary op left right t)
  | call (name : String) {args : List Expr} (t : ValueType) (h : ∀ a ∈ args, a.Whole) :
      Whole (.call name args t)
  | component {value : Expr} (field : String) (t : ValueType) (h : value.Whole) :
      Whole (.component value field t)

/-- The expression has a payload, and is read from every payload that is the same. -/
def IsStored (e : Expr) : Prop := ∃ p, ofExpr e = .ok p ∧ ∀ q, p.Same q → q.toExpr = some e

theorem exists_ofExprs {args : List Expr} (h : ∀ a ∈ args, a.IsStored) :
    ∃ ps, ofExprs args = .ok ps ∧ ∀ qs, List.Forall₂ Same ps qs →
      qs.mapM toExpr = some args := by
  induction args with
  | nil =>
    refine ⟨[], rfl, fun qs hqs => ?_⟩
    obtain rfl := List.forall₂_nil_left_iff.1 hqs
    rfl
  | cons a args ih =>
    obtain ⟨⟨p, hp, hread⟩, hrest⟩ := List.forall_mem_cons.1 h
    obtain ⟨ps, hps, hreads⟩ := ih hrest
    refine ⟨p :: ps, ?_, fun qs hqs => ?_⟩
    · unfold ofExprs
      rw [hp, hps]
      rfl
    · obtain ⟨q, rest, hq, hrest, rfl⟩ := List.forall₂_cons_left_iff.1 hqs
      rw [List.mapM_cons, hread q hq, hreads rest hrest]
      rfl

/-- **An expression is read from its payload.** -/
theorem Whole.isStored {e : Expr} (h : e.Whole) : e.IsStored := by
  induction h with
  | const value t =>
    refine ⟨_, rfl, fun q hq => ?_⟩
    obtain ⟨fields, rfl, hkind, htype, hfields⟩ := hq.exists_node
    have hvalue : (fields.find? "value").bind toDatum = some value :=
      (bind_eq_of_rel Same.toDatum_eq (hfields "value")).trans (toDatum_ofDatum value)
    unfold toExpr
    simp [hkind, htype, hvalue]
  | var name t =>
    refine ⟨_, rfl, fun q hq => ?_⟩
    obtain ⟨fields, rfl, hkind, htype, hfields⟩ := hq.exists_node
    unfold toExpr
    simp [hkind, htype, textAt_of_rel (hfields "name")]
  | column field t =>
    refine ⟨_, rfl, fun q hq => ?_⟩
    obtain ⟨fields, rfl, hkind, htype, hfields⟩ := hq.exists_node
    unfold toExpr
    simp [hkind, htype, textAt_of_rel (hfields "field")]
  | unary op t _ ih =>
    obtain ⟨p, hp, hread⟩ := ih
    refine ⟨node "unary" t [("op", .text op), ("operand", p)], ?_, fun q hq => ?_⟩
    · unfold ofExpr
      rw [hp]
      rfl
    · obtain ⟨fields, rfl, hkind, htype, hfields⟩ := hq.exists_node
      obtain ⟨q, hlt, hq, hsame⟩ := exists_within_of_rel (hfields "operand")
      unfold toExpr
      simp [hkind, htype, textAt_of_rel (hfields "op"), hq, hread q hsame]
  | binary op t _ _ ihl ihr =>
    obtain ⟨l, hl, hleft⟩ := ihl
    obtain ⟨r, hr, hright⟩ := ihr
    refine ⟨node "binary" t [("op", .text op), ("left", l), ("right", r)], ?_, fun q hq => ?_⟩
    · unfold ofExpr
      rw [hl, hr]
      rfl
    · obtain ⟨fields, rfl, hkind, htype, hfields⟩ := hq.exists_node
      obtain ⟨l', hlt, hl', hsame⟩ := exists_within_of_rel (hfields "left")
      obtain ⟨r', hlt', hr', hsame'⟩ := exists_within_of_rel (hfields "right")
      unfold toExpr
      simp [hkind, htype, textAt_of_rel (hfields "op"), hl', hr', hleft l' hsame,
        hright r' hsame']
  | call name t _ ih =>
    obtain ⟨ps, hps, hreads⟩ := exists_ofExprs ih
    refine ⟨node "call" t [("name", .text name), ("args", .list ps)], ?_, fun q hq => ?_⟩
    · unfold ofExpr
      rw [hps]
      rfl
    · obtain ⟨fields, rfl, hkind, htype, hfields⟩ := hq.exists_node
      obtain ⟨q, hlt, hq, hsame⟩ := exists_within_of_rel (hfields "args")
      cases hsame with
      | list hsame =>
        unfold toExpr
        simp [hkind, htype, textAt_of_rel (hfields "name"), hq, hreads _ hsame]
  | component field t _ ih =>
    obtain ⟨p, hp, hread⟩ := ih
    refine ⟨node "component" t [("field", .text field), ("value", p)], ?_, fun q hq => ?_⟩
    · unfold ofExpr
      rw [hp]
      rfl
    · obtain ⟨fields, rfl, hkind, htype, hfields⟩ := hq.exists_node
      obtain ⟨q, hlt, hq, hsame⟩ := exists_within_of_rel (hfields "value")
      unfold toExpr
      simp [hkind, htype, textAt_of_rel (hfields "field"), hq, hread q hsame]

/-- **Stored expressions lose nothing.** An expression has a payload; and from every payload that is
    the same, name by name, the expression is read, and no other expression has such a payload. -/
theorem Whole.toExpr_of_same {a : Expr} (ha : a.Whole) :
    ∃ p, ofExpr a = .ok p ∧ ∀ q, p.Same q →
      q.toExpr = some a ∧ ∀ b : Expr, b.Whole → ofExpr b = .ok q → b = a := by
  obtain ⟨p, hp, hread⟩ := ha.isStored
  refine ⟨p, hp, fun q hq => ⟨hread q hq, fun b hb hbq => ?_⟩⟩
  obtain ⟨q', hq', hread'⟩ := hb.isStored
  obtain rfl := Except.ok.inj (hbq.symm.trans hq')
  exact Option.some.inj ((hread' q (.refl q)).symm.trans (hread q hq))

/-- The component of a vector of a whole number and a truth value. -/
theorem toExpr_of_same_component :
    let vector : Literal := .vector2 (.int 1) (.bool true)
    let a : Expr := .component (.const (.literal vector) .vector2) "x" .float
    a.Whole ∧ ∃ p, ofExpr a = .ok p ∧ ∀ q, p.Same q →
      q.toExpr = some a ∧ ∀ b : Expr, b.Whole → ofExpr b = .ok q → b = a := by
  intro vector a
  have ha : a.Whole := .component _ _ (.const _ _)
  exact ⟨ha, ha.toExpr_of_same⟩

end Expr

end VisualScale
