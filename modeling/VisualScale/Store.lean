import VisualScale.Scale

/-!
# The store of a session

Scales and bindings are spoken of by number, and stay what they are when others come to be. Invoking
a scale with arguments records a binding (`Store.invoke`): which scale, which type was announced,
which arguments, all of them as they are. A binding is new until it is resolved, and it is resolved
once.
-/

namespace VisualScale

/-- The number of a scale. -/
structure ScaleId where
  index : Nat
  deriving DecidableEq, Repr

/-- The two states of a binding. -/
inductive BindingState where
  | created
  | resolved
  deriving DecidableEq, Repr

/-- The name of a state. -/
def BindingState.name : BindingState → String
  | created => "created"
  | resolved => "resolved"

/-- One invocation of a scale, with as many arguments as the scale takes. -/
structure Binding where
  scale : ScaleId
  valueType : ValueType
  argumentTypes : List ValueType
  arguments : List Value
  state : BindingState
  length_arguments : arguments.length = argumentTypes.length

/-- The scales and bindings of a session, by number. -/
structure Store where
  scales : List Scale
  bindings : List Binding

namespace Store

/-- No scales and no bindings. -/
def empty : Store := ⟨[], []⟩

/-- The scale of a number. -/
def scale? (s : Store) (id : ScaleId) : Option Scale := s.scales[id.index]?

/-- The binding of a number. -/
def binding? (s : Store) (id : BindingId) : Option Binding := s.bindings[id.index]?

/-- The scale of a number, or the fault that there is none. -/
def scale (s : Store) (id : ScaleId) : Except Failure Scale :=
  match s.scale? id with
  | some scale => .ok scale
  | none => .error (.plain .noSuchScale)

/-- The binding of a number, or the fault that there is none. -/
def binding (s : Store) (id : BindingId) : Except Failure Binding :=
  match s.binding? id with
  | some b => .ok b
  | none => .error (.plain .noSuchBinding)

/-! ## 1. Scales -/

/-- One more scale. -/
def addScale (s : Store) (scale : Scale) : ScaleId × Store :=
  (⟨s.scales.length⟩, { s with scales := s.scales ++ [scale] })

/-- A scale is replaced by another. -/
def setScale (s : Store) (id : ScaleId) (scale : Scale) : Store :=
  { s with scales := s.scales.set id.index scale }

/-- A scale is replaced by what a change makes of it, unless the change fails. -/
def changeScale (s : Store) (id : ScaleId) (change : Scale → Except Fault Scale) :
    Except Failure Store := do
  let scale ← s.scale id
  let changed ← Scale.unplaced (change scale)
  .ok (s.setScale id changed)

/-- An attribute of a custom scale is declared or set; the warnings say what else to know. -/
def setAttribute (s : Store) (id : ScaleId) (name : String) (value : Value)
    (typeName : Option String) : Except Failure (Store × List String) := do
  let scale ← s.scale id
  let (changed, warnings) ← Scale.unplaced (scale.setAttribute name value typeName)
  .ok (s.setScale id changed, warnings)

/-! ## 2. Bindings -/

/-- One more binding. -/
def addBinding (s : Store) (b : Binding) : BindingId × Store :=
  (⟨s.bindings.length⟩, { s with bindings := s.bindings ++ [b] })

/-- The binding that a scale makes of arguments. -/
def bind (id : ScaleId) (scale : Scale) (arguments : List Value) : Except Failure Binding :=
  if h : arguments.length = scale.arity then
    scale.valueType.map fun t => ⟨id, t, scale.argumentTypes, arguments, .created, h⟩
  else .error (.plain (.valueCount scale.name scale.arity arguments.length))

/-- A scale is invoked with arguments. -/
def invoke (s : Store) (id : ScaleId) (arguments : List Value) :
    Except Failure (BindingId × Store) := do
  let scale ← s.scale id
  let b ← bind id scale arguments
  .ok (s.addBinding b)

/-- A binding in the state of being resolved. -/
def resolvedBinding (b : Binding) : Binding := { b with state := .resolved }

/-- A binding is marked as resolved, whatever its state was. -/
def mark (s : Store) (id : BindingId) : Store :=
  { s with bindings := s.bindings.modify id.index resolvedBinding }

/-- Bindings are marked as resolved. -/
def markAll (s : Store) (ids : List BindingId) : Store := ids.foldl mark s

/-- A binding is marked as resolved, unless it was before. -/
def markResolved (s : Store) (id : BindingId) : Except Failure Store := do
  let b ← s.binding id
  match b.state with
  | .resolved => .error (.plain .alreadyResolved)
  | .created => .ok (s.mark id)

end Store

end VisualScale
