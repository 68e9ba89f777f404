import VisualScale.Store

/-!
# Resolution

A binding is resolved by resolving what its scale's attributes and its arguments are bound to,
checking each against the type of its slot, and letting the scale build the expression. A binding
that stands in an argument or attribute is resolved on the way.

One resolution is a pass. The resolver remembers the bindings that the pass has entered
(`Desk.pending`), enters none twice, and enters none that was resolved before. Only when the
outermost expression stands, all of them are marked as resolved, one after another (`Work.inPass`).
However a pass ends, the resolver forgets it.

A pass can stand inside itself no deeper than there are bindings, because each entered one is
another; `Work.resolve` counts down from their number.
-/

namespace VisualScale

/-! ## 1. Slots -/

/-- An expression of a type fits a slot: types are equal, an integer stands for a float, or the slot
    accepts numbers. -/
def fits (actual slot : ValueType) (acceptsNumeric : Bool) : Bool :=
  actual == slot || (slot == .float && actual == .int) || (acceptsNumeric && actual.isNumeric)

/-- A slot for a value: its type, if it asks for one; whether it accepts any number; and what
    messages call it. -/
structure Slot where
  type : Option ValueType
  acceptsNumeric : Bool
  label : String

/-- The expression, if it fits the slot. -/
def Slot.check (slot : Slot) (e : Expr) : Except Fault Expr :=
  match slot.type with
  | none => .ok e
  | some t =>
    if fits e.valueType t slot.acceptsNumeric then .ok e
    else .error (.slotMismatch slot.label t e.valueType)

/-- The slot of an attribute. -/
def Slot.ofAttribute (owner : String) (a : Attribute) : Slot :=
  let name := a.name
  ⟨some a.valueType, a.acceptsNumeric, s!"Attribute '{name}' of {owner}"⟩

/-- The slot of an argument. -/
def Slot.ofArgument (owner : String) (index : Nat) (t : ValueType) : Slot :=
  let number := index.repr
  ⟨some t, false, s!"Value {number} of {owner}"⟩

/-! ## 2. References -/

/-- How references to data become expressions. -/
abbrev References := DataRef → Option ValueType → Except Fault Expr

/-- A reference becomes the column that it names, typed by itself, else by its slot, else as a
    float. -/
def columnOf : References := fun r slot =>
  .ok (.column r.field ((r.valueType.or slot).getD .float))

/-- References to some fields become given values, the others columns. -/
def referencesBy (table : Table Value) : References := fun r slot =>
  match table.find? r.field with
  | some v => Build.operand v
  | none => columnOf r slot

/-! ## 3. The parts of a binding -/

namespace Parts

variable {m : Type → Type} [Monad m] [MonadExceptOf Failure m]

/-- A fault that no formula is about. -/
def fail {α : Type} (fault : Fault) : m α := throw (.plain fault)

/-- An outcome as a step. -/
def ofOutcome {α : Type} : Except Failure α → m α
  | .ok a => pure a
  | .error failure => throw failure

/-- A literal as an expression for a slot: a number becomes a float where the slot accepts any. -/
def literalFor (slot : Slot) (v : Value) : Except Fault Expr := do
  let t ← v.literalType
  if slot.acceptsNumeric && t.isNumeric then Build.ofValue v (some (.known .float))
  else Build.ofValue v (slot.type.map .known)

/-- The expression of a value for a slot, before it is checked. -/
def rawValue (refs : References) (enter : BindingId → m Expr) (slot : Slot) : Value → m Expr
  | .binding b => enter b
  | .reference r => ofOutcome (Scale.unplaced (refs r slot.type))
  | .expr e => pure e
  | .datum d => ofOutcome (Scale.unplaced (literalFor slot (.datum d)))

/-- The expression of a value for a slot. -/
def value (refs : References) (enter : BindingId → m Expr) (slot : Slot) (v : Value) : m Expr := do
  let e ← rawValue refs enter slot v
  ofOutcome (Scale.unplaced (slot.check e))

/-- The expressions of attributes, in order. -/
def attributeValues (refs : References) (enter : BindingId → m Expr) (owner : String) :
    List Attribute → m (Table Value)
  | [] => pure []
  | a :: rest => do
    if a.value.isUnbound then fail (.attributeUnbound a.name owner)
    let e ← value refs enter (.ofAttribute owner a) a.value
    let es ← attributeValues refs enter owner rest
    return (a.name, .expr e) :: es

/-- The expressions of arguments with their types, in order, counted from an index. -/
def argumentValues (refs : References) (enter : BindingId → m Expr) (owner : String) :
    (index : Nat) → List (Value × ValueType) → m (List Value)
  | _, [] => pure []
  | index, (v, t) :: rest => do
    let e ← value refs enter (.ofArgument owner index t) v
    let es ← argumentValues refs enter owner (index + 1) rest
    return .expr e :: es

/-- The expression of a binding of a scale. -/
def body (refs : References) (enter : BindingId → m Expr) (scale : Scale) (b : Binding) :
    m Expr := do
  let attrs ← attributeValues refs enter scale.name scale.attributes
  let values ← argumentValues refs enter scale.name 0 (b.arguments.zip b.argumentTypes)
  ofOutcome (scale.build attrs values)

end Parts

/-! ## 4. Passes -/

/-- What a resolver works on: the store, and the bindings that the pass under way has entered, first
    ones first, if a pass is under way. -/
structure Desk where
  store : Store
  pending : Option (List BindingId)

/-- Work at a desk. What fails leaves the desk as it is by then. -/
abbrev Work := ExceptT Failure (StateM Desk)

namespace Work

open Parts

/-- The bindings that the pass under way has entered. -/
def pending : Work (List BindingId) := do return (← get).pending.getD []

/-- Another binding is entered. -/
def enter (id : BindingId) : Work Unit :=
  modify fun d => { d with pending := some (d.pending.getD [] ++ [id]) }

/-- Bindings are marked as resolved, up to the first one that was resolved before. -/
def markEach : List BindingId → Work Unit
  | [] => pure ()
  | id :: rest => do
    let d ← get
    let store ← ofOutcome (d.store.markResolved id)
    set { d with store }
    markEach rest

/-- Work, and at its end, however it ends, a last change. -/
def endingWith {α : Type} (w : Work α) (last : Desk → Desk) : Work α := fun d =>
  let (outcome, d) := w d
  (outcome, last d)

/-- Work inside the pass under way; or, if none is, as a pass of its own, at whose end all bindings
    that it entered are marked. -/
def inPass {α : Type} (w : Work α) : Work α := do
  if (← get).pending.isSome then w
  else
    modify fun d => { d with pending := some [] }
    let all : Work α := do
      let a ← w
      markEach (← pending)
      return a
    all.endingWith fun d => { d with pending := none }

/-- Resolves a binding. Where no room is left, every binding has been entered. -/
def resolve (refs : References) : (room : Nat) → BindingId → Work Expr
  | room, id => do
    let b ← ofOutcome ((← get).store.binding id)
    if b.state = .resolved then fail .alreadyResolved
    inPass do
      if id ∈ (← pending) then fail .usedTwice
      match room with
      | 0 => fail .usedTwice
      | room + 1 =>
        enter id
        let scale ← ofOutcome ((← get).store.scale b.scale)
        body refs (resolve refs room) scale b

end Work

/-! ## 5. Resolvers -/

/-- A resolver: how it reads references, and what it has entered if a pass is under way. -/
structure Resolver where
  references : References
  pending : Option (List BindingId)

namespace Resolver

/-- A resolver that has not worked yet. -/
def new (refs : References) : Resolver := ⟨refs, none⟩

/-- A resolver works on a store: the outcome, and resolver and store afterwards. -/
def work {α : Type} (r : Resolver) (s : Store) (w : Work α) :
    Except Failure α × Resolver × Store :=
  let (outcome, d) := w ⟨s, r.pending⟩
  (outcome, { r with pending := d.pending }, d.store)

/-- Resolves a binding. -/
def resolve (r : Resolver) (s : Store) (id : BindingId) :
    Except Failure Expr × Resolver × Store :=
  r.work s (Work.resolve r.references s.bindings.length id)

/-- Resolves a value for a slot. A binding is resolved in a pass of its own if none is under way,
    and then stays resolved even where its expression does not fit the slot. -/
def resolveValue (r : Resolver) (s : Store) (slot : Slot) (v : Value) :
    Except Failure Expr × Resolver × Store :=
  r.work s (Parts.value r.references (Work.resolve r.references s.bindings.length) slot v)

end Resolver

namespace Store

/-- A new resolver resolves a binding: its expression, or why there is none, and the store
    afterwards. -/
def resolve (s : Store) (refs : References) (id : BindingId) : Except Failure Expr × Store :=
  let (outcome, _, after) := (Resolver.new refs).resolve s id
  (outcome, after)

/-- A new resolver resolves a value for a slot. -/
def resolveValue (s : Store) (refs : References) (slot : Slot) (v : Value) :
    Except Failure Expr × Store :=
  let (outcome, _, after) := (Resolver.new refs).resolveValue s slot v
  (outcome, after)

end Store

end VisualScale
