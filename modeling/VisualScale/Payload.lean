import VisualScale.Store
import VisualScale.Expr.Source

/-!
# Payloads

What is stored of expressions, values and bindings: trees of named fields, in which integers and
doubles are told apart. A binding's payload holds the bindings inside it, so a binding that contains
itself has none; the depth to which bindings are followed is counted down from their number.

A constant may hold a reference, an expression or a binding, and is stored with a copy of it, taken
apart into its fields. These name no types: the types themselves stand in them.
-/

namespace VisualScale

/-- A tree of named fields. -/
inductive Payload where
  | null
  | bool (b : Bool)
  | int (n : Int)
  | float (d : Double)
  | text (s : String)
  | list (items : List Payload)
  | record (fields : List (String × Payload))
  /-- A value type itself, not its name. -/
  | type (t : ValueType)
  /-- A copy of a binding, with a copy of its scale. -/
  | copy (b : BindingId)

namespace Payload

instance : Inhabited Payload := ⟨.null⟩

/-! ## 1. Literals -/

/-- The payload of a scalar. -/
def ofScalar : Scalar → Payload
  | .bool b => .bool b
  | .int n => .int n
  | .float d => .float d

/-- The payload of a literal: a vector or color is a record of its components. -/
def ofLiteral : Literal → Payload
  | .scalar s => ofScalar s
  | l => .record (l.valueType.components.zip (l.parts.map ofScalar))

/-- The payload of what has no parts that are values. -/
def ofDatum : Datum → Payload
  | .absent => .null
  | .text s => .text s
  | .literal l => ofLiteral l

/-! ## 2. What constants hold -/

/-- A type that may be left open, itself. -/
def ofOpenType : Option ValueType → Payload
  | some t => .type t
  | none => .null

mutual

/-- The payload of what a constant holds. -/
def ofHeld : Value → Payload
  | .datum d => ofDatum d
  | .reference r => .record [("field", .text r.field), ("value_type", ofOpenType r.valueType)]
  | .expr e => ofHeldExpr e
  | .binding b => .copy b

/-- The payload of an expression that a constant holds: its fields, whatever kind of node it is. -/
def ofHeldExpr : Expr → Payload
  | .const v t => .record [("value", ofHeld v), ("value_type", .type t)]
  | .var name t => .record [("name", .text name), ("value_type", .type t)]
  | .column field t => .record [("field", .text field), ("value_type", .type t)]
  | .unary op operand t =>
    .record [("op", .text op), ("operand", ofHeldExpr operand), ("value_type", .type t)]
  | .binary op left right t => .record
      [ ("op", .text op), ("left", ofHeldExpr left), ("right", ofHeldExpr right)
      , ("value_type", .type t) ]
  | .call name args t =>
    .record [("name", .text name), ("args", .list (ofHeldExprs args)), ("value_type", .type t)]
  | .component value field t =>
    .record [("value", ofHeldExpr value), ("field", .text field), ("value_type", .type t)]
  | .stray v => ofHeld v

/-- The payloads of expressions that a constant holds, from the first to the last. -/
def ofHeldExprs : List Expr → List Payload
  | [] => []
  | e :: rest => ofHeldExpr e :: ofHeldExprs rest

end

/-! ## 3. Expressions -/

/-- The fields that every node begins with. -/
def node (kind : String) (type : ValueType) (fields : List (String × Payload)) : Payload :=
  .record (("type", .text kind) :: ("value_type", .text type.name) :: fields)

mutual

/-- The payload of an expression. -/
def ofExpr : Expr → Except Fault Payload
  | .const value t => .ok (node "constant" t [("value", ofHeld value)])
  | .var name t => .ok (node "variable" t [("name", .text name)])
  | .column field t => .ok (node "field" t [("field", .text field)])
  | .unary op operand t => do
    let p ← ofExpr operand
    .ok (node "unary" t [("op", .text op), ("operand", p)])
  | .binary op left right t => do
    let l ← ofExpr left
    let r ← ofExpr right
    .ok (node "binary" t [("op", .text op), ("left", l), ("right", r)])
  | .call name args t => do
    let ps ← ofExprs args
    .ok (node "call" t [("name", .text name), ("args", .list ps)])
  | .component value field t => do
    let p ← ofExpr value
    .ok (node "component" t [("field", .text field), ("value", p)])
  | .stray v => .error (.notNode v.noun)

/-- The payloads of expressions, from the first to the last. -/
def ofExprs : List Expr → Except Fault (List Payload)
  | [] => .ok []
  | e :: rest => do
    let p ← ofExpr e
    let ps ← ofExprs rest
    .ok (p :: ps)

end

/-! ## 4. Values, attributes and bindings -/

/-- The payload of a kind of value, with the fields of that kind. -/
def ofKind (kind : Value.Kind) (fields : List (String × Payload)) : Payload :=
  .record (("kind", .text kind.name) :: fields)

/-- The payload of a type that may be left open. -/
def ofType? : Option ValueType → Payload
  | some t => .text t.name
  | none => .null

/-- The payload of a value; `ofBinding` gives those of bindings. -/
def ofValue (ofBinding : BindingId → Except Failure Payload) : Value → Except Failure Payload
  | .datum .absent => .ok (.record [("kind", .text "unbound")])
  | .binding b => (ofBinding b).map fun p => ofKind .scale [("binding", p)]
  | .expr e => (Scale.unplaced (ofExpr e)).map fun p => ofKind .expression [("expression", p)]
  | .reference r =>
    .ok (ofKind .reference [("field", .text r.field), ("value_type", ofType? r.valueType)])
  | .datum d => (Scale.unplaced (Value.datum d).asLiteral).map fun l =>
      ofKind .constant [("value", ofLiteral l)]

/-- The payloads of values, from the first to the last. -/
def ofValues (ofBinding : BindingId → Except Failure Payload) :
    List Value → Except Failure (List Payload)
  | [] => .ok []
  | v :: rest => do
    let p ← ofValue ofBinding v
    let ps ← ofValues ofBinding rest
    .ok (p :: ps)

/-- The payloads of attributes, from the first to the last. -/
def ofAttributes (ofBinding : BindingId → Except Failure Payload) :
    List Attribute → Except Failure (List Payload)
  | [] => .ok []
  | a :: rest => do
    let p ← ofValue ofBinding a.value
    let ps ← ofAttributes ofBinding rest
    .ok (.record [("name", .text a.name), ("value_type", .text a.valueType.name), ("binding", p)]
      :: ps)

/-- The payload of a binding of a scale, with the scale's attributes as they are now. -/
def ofInvocation (ofBinding : BindingId → Except Failure Payload) (scale : Scale) (b : Binding) :
    Except Failure Payload := do
  let arguments ← ofValues ofBinding b.arguments
  let attributes ← ofAttributes ofBinding scale.attributes
  .ok (.record
    [ ("scale", .text scale.name)
    , ("state", .text b.state.name)
    , ("value_type", .text b.valueType.name)
    , ("argument_types", .list (b.argumentTypes.map fun t => .text t.name))
    , ("arguments", .list arguments)
    , ("attributes", .list attributes) ])

/-- The payload of a binding, with bindings followed to a depth. -/
def ofBindingWithin (store : Store) : (depth : Nat) → BindingId → Except Failure Payload
  | 0, _ => .error (.plain .endless)
  | depth + 1, id => do
    let b ← store.binding id
    let scale ← store.scale b.scale
    ofInvocation (ofBindingWithin store depth) scale b

end Payload

namespace Store

/-- The payload of a binding. No binding that has one nests bindings deeper than there are any. -/
def bindingPayload (s : Store) (id : BindingId) : Except Failure Payload :=
  Payload.ofBindingWithin s s.bindings.length id

/-- The payload of a value. -/
def valuePayload (s : Store) (v : Value) : Except Failure Payload :=
  Payload.ofValue s.bindingPayload v

/-- The payload of a scale's attributes. -/
def attributesPayload (s : Store) (scale : Scale) : Except Failure (List Payload) :=
  Payload.ofAttributes s.bindingPayload scale.attributes

end Store

end VisualScale
