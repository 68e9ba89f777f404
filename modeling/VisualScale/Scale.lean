import VisualScale.Formula.Compile

/-!
# Scales

A scale maps values onto a visual attribute. It has attributes, each with a type and a value that is
bound to it, takes a fixed number of arguments, and builds one expression from what its attributes
and arguments have become (`Scale.build`). Nothing is computed here, and what an attribute is bound
to is not looked at.

* linear and logarithmic scales map a domain onto a range, both given by two bounds;
* interpolating scales blend their two arguments by an attribute `t`;
* arithmetic scales combine their two arguments and have no attributes;
* custom scales are given by a formula over their argument, `value`, and attributes that are
  declared one by one.
-/

namespace VisualScale

/-! ## 1. Kinds of scales -/

/-- What a scale reads from a domain and writes to a range. -/
structure DomainRange where
  valueType : ValueType
  domain : Value × Value
  range : Value × Value

/-- What an arithmetic scale does with its two arguments. -/
inductive Arithmetic where
  | add
  | sub
  | mul
  | div
  | vector2
  deriving DecidableEq, Repr

/-- A declared attribute of a custom scale. -/
structure CustomAttribute where
  valueType : ValueType
  value : Value

/-- A scale. -/
inductive Scale where
  | linear (s : DomainRange)
  | log (s : DomainRange)
  | interpolate (valueType : ValueType) (t : Value)
  | arithmetic (op : Arithmetic)
  | custom (formula : ParsedFormula) (attributes : Table CustomAttribute)

/-- An attribute of a scale as others see it. A slot that accepts numbers takes one even where its
    type is a vector. -/
structure Attribute where
  name : String
  valueType : ValueType
  value : Value
  acceptsNumeric : Bool

namespace Arithmetic

/-- The type of the result, as it is announced. -/
def valueType : Arithmetic → ValueType
  | vector2 => .vector2
  | _ => .float

/-- The expression of two values. -/
def build : Arithmetic → Value → Value → Except Fault Expr
  | add => Build.add
  | sub => Build.sub
  | mul => Build.mul
  | div => Build.div
  | vector2 => Build.vector2

end Arithmetic

namespace Scale

/-! ## 2. New scales -/

/-- The number `n` as a double. -/
def floatValue (n : Nat) : Value := .literal (.scalar (.float (.ofInt n)))

/-- The bounds zero and one. -/
def unitBounds : Value × Value := (floatValue 0, floatValue 1)

/-- A domain and a range from zero to one. -/
def newDomainRange (t : ValueType) : DomainRange := ⟨t, unitBounds, unitBounds⟩

/-- A linear scale for values of a type. -/
def newLinear (t : ValueType) : Scale := .linear (newDomainRange t)

/-- A logarithmic scale for values of a type. -/
def newLog (t : ValueType) : Scale := .log (newDomainRange t)

/-- An interpolating scale for values of a type, its position not bound yet. -/
def newInterpolate (t : ValueType) : Scale := .interpolate t .unbound

/-- The custom scale of a formula, without attributes. -/
def newCustom (text : String) : Except Failure Scale :=
  (ParsedFormula.ofText text).map fun p => .custom p []

/-! ## 3. What a scale shows -/

/-- What a scale is called. -/
def name : Scale → String
  | linear _ => "LinearScale"
  | log _ => "LogScale"
  | interpolate .. => "InterpolateScale"
  | arithmetic _ => "ArithmeticScale"
  | custom .. => "CustomScale"

/-- The name of a custom scale's argument in its formula. -/
def inputName : String := "value"

/-- The environment in which a custom scale's formula shows its type: a variable of the declared
    type for every attribute, and a float for the argument. -/
def typeEnvironment (attributes : Table CustomAttribute) : Environment :=
  Table.set (attributes.map fun (n, a) => (n, .var n a.valueType)) inputName
    (.var inputName .float)

/-- The type of the values that the scale gives. That of a custom scale is found anew each time. -/
def valueType : Scale → Except Failure ValueType
  | linear s | log s => .ok s.valueType
  | interpolate t _ => .ok t
  | arithmetic op => .ok op.valueType
  | custom p attributes => (p.compile (typeEnvironment attributes)).map Expr.valueType

/-- The types of the arguments. -/
def argumentTypes : Scale → List ValueType
  | linear _ | log _ | custom .. => [.float]
  | interpolate t _ => [t, t]
  | arithmetic _ => [.float, .float]

/-- The number of arguments. -/
def arity (s : Scale) : Nat := s.argumentTypes.length

/-- The attributes of a domain and a range. -/
def domainRangeAttributes (s : DomainRange) : List Attribute :=
  [ ⟨"d0", s.valueType, s.domain.1, true⟩
  , ⟨"d1", s.valueType, s.domain.2, true⟩
  , ⟨"r0", s.valueType, s.range.1, false⟩
  , ⟨"r1", s.valueType, s.range.2, false⟩ ]

/-- The attributes in the order of their declaration. -/
def attributes : Scale → List Attribute
  | linear s | log s => domainRangeAttributes s
  | interpolate _ t => [⟨"t", .float, t, false⟩]
  | arithmetic _ => []
  | custom _ attributes => attributes.map fun (n, a) => ⟨n, a.valueType, a.value, false⟩

/-! ## 4. Building the expression -/

/-- The resolved attribute of a name. -/
def resolved (attrs : Table Value) (name : String) : Except Fault Value :=
  match attrs.find? name with
  | some v => .ok v
  | none => .error (.attributeMissing name)

/-- Where a value lies in a domain, 0 at its first bound and 1 at its second. -/
def linearPosition (attrs : Table Value) (value : Value) : Except Fault Expr := do
  let d0 ← resolved attrs "d0"
  let d1 ← resolved attrs "d1"
  let above ← Build.sub value d0
  let width ← Build.sub d1 d0
  Build.div (.expr above) (.expr width)

/-- Where a value lies in a domain by the logarithms of its ratios to the first bound. -/
def logPosition (attrs : Table Value) (value : Value) : Except Fault Expr := do
  let d0 ← resolved attrs "d0"
  let d1 ← resolved attrs "d1"
  let ratio ← Build.div value d0
  let above ← Build.log (.expr ratio)
  let whole ← Build.div d1 d0
  let width ← Build.log (.expr whole)
  Build.div (.expr above) (.expr width)

/-- The value of a range at the position of a value in a domain. -/
def mapped (position : Table Value → Value → Except Fault Expr) (attrs : Table Value)
    (value : Value) : Except Fault Expr := do
  let r0 ← resolved attrs "r0"
  let r1 ← resolved attrs "r1"
  let p ← position attrs value
  Build.mix r0 r1 (.expr p)

/-- A result that no formula is about. -/
def unplaced {α : Type} (r : Except Fault α) : Except Failure α :=
  match r with
  | .ok a => .ok a
  | .error fault => .error (.plain fault)

theorem unplaced_ok {α : Type} {r : Except Fault α} {a : α} (h : unplaced r = .ok a) : r = .ok a := by
  cases r with
  | ok b => exact congrArg _ (Except.ok.inj h)
  | error fault => cases h

/-- The expression of a scale from what its attributes and arguments have become. -/
def build (s : Scale) (attrs : Table Value) (values : List Value) : Except Failure Expr :=
  match s, values with
  | linear _, [v] => unplaced (mapped linearPosition attrs v)
  | log _, [v] => unplaced (mapped logPosition attrs v)
  | interpolate .., [a, b] => unplaced do
    let t ← resolved attrs "t"
    Build.mix a b t
  | arithmetic op, [a, b] => unplaced (op.build a b)
  | custom p _, [v] => p.compileWith (attrs.set inputName v)
  | s, values => .error (.plain (.valueCount s.name s.arity values.length))

/-! ## 5. Setting attributes -/

/-- Two bounds out of a list that must have two. -/
def bounds (label : String) (values : List Value) : Except Fault (Value × Value) :=
  match values with
  | [a, b] => .ok (a, b)
  | _ => .error (.boundCount label values.length)

/-- Sets the domain of a linear or logarithmic scale. -/
def setDomain (s : Scale) (values : List Value) : Except Fault Scale :=
  match s with
  | linear d => (bounds "domain" values).map fun b => .linear { d with domain := b }
  | log d => (bounds "domain" values).map fun b => .log { d with domain := b }
  | _ => .error (.settingUnknown s.name "domain")

/-- Sets the range of a linear or logarithmic scale. -/
def setRange (s : Scale) (values : List Value) : Except Fault Scale :=
  match s with
  | linear d => (bounds "range" values).map fun b => .linear { d with range := b }
  | log d => (bounds "range" values).map fun b => .log { d with range := b }
  | _ => .error (.settingUnknown s.name "range")

/-- Sets the position of an interpolating scale. -/
def setPosition (s : Scale) (value : Value) : Except Fault Scale :=
  match s with
  | interpolate t _ => .ok (.interpolate t value)
  | _ => .error (.settingUnknown s.name "t")

/-- The domain of a linear or logarithmic scale. -/
def domain (s : Scale) : Except Fault (Value × Value) :=
  match s with
  | linear d | log d => .ok d.domain
  | _ => .error (.settingUnknown s.name "domain")

/-- The range of a linear or logarithmic scale. -/
def range (s : Scale) : Except Fault (Value × Value) :=
  match s with
  | linear d | log d => .ok d.range
  | _ => .error (.settingUnknown s.name "range")

/-- The position of an interpolating scale. -/
def position (s : Scale) : Except Fault Value :=
  match s with
  | interpolate _ t => .ok t
  | _ => .error (.settingUnknown s.name "t")

/-- The formula of a custom scale. -/
def formula (s : Scale) : Except Fault ParsedFormula :=
  match s with
  | custom p _ => .ok p
  | _ => .error (.settingUnknown s.name "formula")

/-- The value of a custom scale's attribute. -/
def attributeValue (s : Scale) (name : String) : Except Fault Value :=
  match s with
  | custom _ attributes =>
    match attributes.find? name with
    | some a => .ok a.value
    | none => .error (.attributeUnknown name)
  | _ => .error (.settingUnknown s.name name)

/-! ## 6. Declaring attributes of custom scales -/

/-- The warning that an attribute changes its type. -/
def changeWarning (source name : String) (before after : ValueType) : String :=
  let old := before.name
  let new := after.name
  annotate
    (s!"Custom scale attribute '{name}' changed type from {old} to {new}; bindings " ++
      "created earlier keep the previously inferred type.")
    (some source) none

/-- The type of an attribute that is set: the one that is named, else the one it has, else float. -/
def declaredType (current : Option CustomAttribute) (typeName : Option String) :
    Except Fault ValueType :=
  match typeName with
  | some name => ValueType.parse name
  | none => .ok ((current.map CustomAttribute.valueType).getD .float)

/-- Declares an attribute or sets its value, in a table of attributes. -/
def declare (attributes : Table CustomAttribute) (name : String) (value : Value)
    (typeName : Option String) : Except Fault (Table CustomAttribute) :=
  if name = inputName then .error (.nameReserved name)
  else if !Text.isIdentifier name.toList then .error (.nameNotIdentifier name)
  else do
    let t ← declaredType (attributes.find? name) typeName
    .ok (attributes.set name ⟨t, value⟩)

/-- The types before and after, if setting an attribute changes its type. -/
def typeChange (before after : Table CustomAttribute) (name : String) :
    Option (ValueType × ValueType) :=
  match before.find? name, after.find? name with
  | some old, some new =>
    if old.valueType = new.valueType then none else some (old.valueType, new.valueType)
  | _, _ => none

/-- Declares an attribute of a custom scale or sets its value, and warns where its type changes. -/
def setAttribute (s : Scale) (name : String) (value : Value) (typeName : Option String) :
    Except Fault (Scale × List String) :=
  match s with
  | custom p attributes => do
    let after ← declare attributes name value typeName
    let warnings := (typeChange attributes after name).toList.map fun (old, new) =>
      changeWarning p.source name old new
    .ok (.custom p after, warnings)
  | _ => .error (.settingUnknown s.name name)

end Scale

end VisualScale
