import VisualScale.Expr
import VisualScale.Number.Shortest
import VisualScale.Text.Quoted

/-!
# How messages show values

A message that speaks about a value shows it in full (`Value.shown`): a number by its text, a text
between quotes, and whatever has parts by its kind and the parts with their names. A scale binding
is shown by a description alone, since what else could be shown of it is another in every session.
-/

namespace VisualScale

/-! ## 1. Types and literals -/

/-- A value type, as messages show it. -/
def ValueType.shown (t : ValueType) : String :=
  let member := t.name.toUpper
  let name := t.name
  s!"<ValueType.{member}: '{name}'>"

/-- A type that may be left open. -/
def shownOpenType : Option ValueType → String
  | some t => t.shown
  | none => "None"

/-- Texts with commas between them. -/
def listed (texts : List String) : String := ", ".intercalate texts

/-- What has parts: its kind, and its parts with their names. -/
def shownParts (kind : String) (parts : List (String × String)) : String :=
  let shown := listed (parts.map fun (name, text) => s!"{name}={text}")
  s!"{kind}({shown})"

/-- A scalar, as messages show it. -/
def Scalar.shown : Scalar → String
  | .bool b => if b then "True" else "False"
  | .int n => .ofList (intText n)
  | .float d => d.text

/-- A literal, as messages show it. -/
def Literal.shown : Literal → String
  | .scalar s => s.shown
  | l => shownParts l.valueType.name (l.valueType.components.zip (l.parts.map Scalar.shown))

/-! ## 2. Values and expressions -/

/-- Values side by side; a single one has a comma behind it. -/
def shownSideBySide : List String → String
  | [text] => s!"({text},)"
  | texts =>
    let shown := listed texts
    s!"({shown})"

mutual

/-- A value, as messages show it. -/
def Value.shown : Value → String
  | .datum .absent => "None"
  | .datum (.text s) => Text.quoted s
  | .datum (.literal l) => l.shown
  | .reference r =>
    shownParts "DataRef" [("field", Text.quoted r.field), ("value_type", shownOpenType r.valueType)]
  | .expr e => e.shown
  | .binding _ => "a scale binding"

/-- An expression, as messages show it. -/
def Expr.shown : Expr → String
  | .const v t => shownParts "Constant" [("value", v.shown), ("value_type", t.shown)]
  | .var name t => shownParts "Variable" [("name", Text.quoted name), ("value_type", t.shown)]
  | .column field t => shownParts "FieldRef" [("field", Text.quoted field), ("value_type", t.shown)]
  | .unary op operand t => shownParts "Unary"
      [("op", Text.quoted op), ("operand", operand.shown), ("value_type", t.shown)]
  | .binary op left right t => shownParts "Binary"
      [ ("op", Text.quoted op), ("left", left.shown), ("right", right.shown)
      , ("value_type", t.shown) ]
  | .call name args t => shownParts "Call"
      [ ("name", Text.quoted name), ("args", shownSideBySide (Expr.shownOfAll args))
      , ("value_type", t.shown) ]
  | .component value field t => shownParts "Component"
      [("value", value.shown), ("field", Text.quoted field), ("value_type", t.shown)]
  | .stray v => v.shown

/-- Expressions side by side, as messages show each of them. -/
def Expr.shownOfAll : List Expr → List String
  | [] => []
  | e :: rest => e.shown :: Expr.shownOfAll rest

end

end VisualScale
