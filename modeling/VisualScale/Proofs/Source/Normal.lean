import VisualScale.Proofs.Compile
import VisualScale.Proofs.Source.Words

/-!
# The normal form of an expression

What an expression becomes when it is written as a formula and read again (`Expr.normal`): every
number is a float without a sign, and a minus sign before it a node of its own; a vector or color is
a call of the function that makes one; a plus sign is gone. The types are those that the signatures
give for what has become of the operands.

This is meant for plain expressions (`Expr.Plain`): those that are written at all, and whose types
are what the signatures give. A whole number in them becomes a float, and some of their types with
it, but no rule fails for that (`Plain.standsFor_normal`).
-/

namespace VisualScale

/-- The double of a number. -/
def Scalar.double : Scalar → Double
  | .bool b => .ofInt (if b then 1 else 0)
  | .int n => .ofInt n
  | .float d => d

namespace Expr

/-! ## 1. Plain expressions -/

/-- How a sign is written. -/
def signText : Sign → String
  | .plus => "+"
  | .minus => "-"

/-- An expression that can be written as a formula: its constants are finite numbers, vectors and
    colors under their own types, the names of its variables and columns are names, and each node
    has the type that the signatures give it. -/
inductive Plain : Expr → Prop where
  | number {s : Scalar} (hs : s.valueType ≠ .bool) (hfinite : s.double.isFinite = true) :
      Plain (.const (.literal (.scalar s)) s.valueType)
  | vector {l : Literal} (hl : l.parts ≠ [])
      (hfinite : ∀ s ∈ l.parts, s.double.isFinite = true) :
      Plain (.const (.literal l) l.valueType)
  | var {name : String} (t : ValueType) (h : Lexer.IsName name) : Plain (.var name t)
  | column {name : String} (t : ValueType) (h : Lexer.IsName name) : Plain (.column name t)
  | unary (sign : Sign) {operand : Expr} {t : ValueType}
      (ht : Signature.signType (signText sign) operand.valueType = .ok t) (h : operand.Plain) :
      Plain (.unary (signText sign) operand t)
  | binary (op : Operator) {left right : Expr} {t : ValueType}
      (ht : Signature.operatorType op.symbol left.valueType right.valueType = .ok t)
      (hl : left.Plain) (hr : right.Plain) : Plain (.binary op.symbol left right t)
  | call {name : String} {args : List Expr} {t : ValueType}
      (ht : Signature.callType name (args.map valueType) = .ok t) (h : ∀ a ∈ args, a.Plain) :
      Plain (.call name args t)
  | component {value : Expr} {field : String} (hf : field ∈ value.valueType.components)
      (h : value.Plain) : Plain (.component value field .float)

/-! ## 2. Normal forms -/

/-- A number with its sign as a node of its own. -/
def signedNumber (d : Double) : Expr :=
  if d.isNegative then .unary "-" (number d.neg) .float else number d

/-- The type that a rule gives, or another one where it gives none. -/
def typeOr (t : ValueType) : Except Fault ValueType → ValueType
  | .ok t' => t'
  | .error _ => t

mutual

/-- The normal form of an expression. -/
def normal : Expr → Expr
  | const (.literal (.scalar s)) _ => signedNumber s.double
  | const (.literal l) t => call t.name (l.parts.map fun s => signedNumber s.double) t
  | const v t => const v t
  | var name t => var name t
  | column field t => column field t
  | unary op operand t =>
    let e := operand.normal
    if op = "+" then e else unary op e (typeOr t (Signature.signType op e.valueType))
  | binary op left right t =>
    let l := left.normal
    let r := right.normal
    binary op l r (typeOr t (Signature.operatorType op l.valueType r.valueType))
  | call name args t =>
    let es := normalAll args
    call name es (typeOr t (Signature.callType name (es.map valueType)))
  | component value field t => component value.normal field t
  | stray kind => stray kind

/-- The normal forms of expressions side by side. -/
def normalAll : List Expr → List Expr
  | [] => []
  | e :: rest => e.normal :: normalAll rest

end

theorem normalAll_eq (es : List Expr) : normalAll es = es.map normal := by
  induction es with
  | nil => rfl
  | cons e rest ih => exact congrArg (e.normal :: ·) ih

theorem valueType_signedNumber (d : Double) : (signedNumber d).valueType = .float := by
  unfold signedNumber
  split <;> rfl

/-! ## 3. Types of normal forms -/

section

open Signature ValueType

/-- A rule gives a type for operands that others stand for, if it gave one for these. -/
theorem typeOr_of_typings {r r' : Except Fault ValueType} {t : ValueType} (h : Typings r r')
    (hr : r = .ok t) : r' = .ok (typeOr t r') ∧ t.StandsFor (typeOr t r') := by
  subst hr
  obtain ⟨t', rfl, ht⟩ := h.exists_of_left
  exact ⟨rfl, ht⟩

theorem allStandFor_normalAll {es : List Expr}
    (h : ∀ e ∈ es, e.valueType.StandsFor e.normal.valueType) :
    AllStandFor (es.map valueType) ((normalAll es).map valueType) := by
  induction es with
  | nil => exact .nil
  | cons e rest ih =>
    exact .cons (h e List.mem_cons_self) (ih fun e he => h e (List.mem_cons_of_mem _ he))

theorem eq_of_signType {op : String} {a t : ValueType} (h : signType op a = .ok t) : t = a := by
  unfold signType at h
  split at h
  · exact (Except.ok.inj h).symm
  · cases h

/-- **The type of a plain expression stands for that of its normal form.** -/
theorem Plain.standsFor_normal {e : Expr} (h : e.Plain) :
    e.valueType.StandsFor e.normal.valueType := by
  induction h with
  | @number s hs hfinite =>
    show s.valueType.StandsFor (signedNumber s.double).valueType
    rw [valueType_signedNumber]
    cases s with
    | bool b => exact absurd rfl hs
    | int n => exact .inr ⟨rfl, rfl⟩
    | float d => exact .refl _
  | @vector l hl hfinite =>
    cases l with
    | scalar s => exact absurd rfl hl
    | _ => exact .refl _
  | var t h => exact .refl _
  | column t h => exact .refl _
  | @unary sign operand t ht h ih =>
    cases sign with
    | plus => exact eq_of_signType ht ▸ ih
    | minus => exact (typeOr_of_typings (signType_typings "-" ih) ht).2
  | @binary op left right t ht hl hr ihl ihr =>
    exact (typeOr_of_typings (operatorType_typings op.symbol ihl ihr) ht).2
  | @call name args t ht h ih =>
    exact (typeOr_of_typings (callType_typings name (allStandFor_normalAll ih)) ht).2
  | component hf h ih => exact .refl _

/-! ## 4. The rules on normal forms -/

/-- A sign before a normal form makes a normal form. -/
theorem Plain.signNode_normal {operand : Expr} {t : ValueType} (sign : Sign)
    (h : operand.Plain) (ht : signType (signText sign) operand.valueType = .ok t) :
    Formula.signNode sign operand.normal = .ok (Expr.unary (signText sign) operand t).normal := by
  have hrule := (typeOr_of_typings (signType_typings (signText sign) h.standsFor_normal) ht).1
  cases sign with
  | plus =>
    show (signType "+" operand.normal.valueType).map _ = .ok operand.normal
    rw [show signType "+" operand.normal.valueType = _ from hrule]
    rfl
  | minus =>
    show (signType "-" operand.normal.valueType).map _ = _
    rw [show signType "-" operand.normal.valueType = _ from hrule]
    rfl

theorem Plain.binaryNode_normal {left right : Expr} {t : ValueType} (op : Operator)
    (hl : left.Plain) (hr : right.Plain)
    (ht : operatorType op.symbol left.valueType right.valueType = .ok t) :
    Build.binaryNode op.symbol left.normal right.normal =
      .ok (Expr.binary op.symbol left right t).normal := by
  have hrule := (typeOr_of_typings
    (operatorType_typings op.symbol hl.standsFor_normal hr.standsFor_normal) ht).1
  unfold Build.binaryNode
  rw [hrule]
  rfl

theorem Plain.callNode_normal {name : String} {args : List Expr} {t : ValueType}
    (h : ∀ a ∈ args, a.Plain) (ht : callType name (args.map valueType) = .ok t) :
    Build.callNode name (args.map normal) = .ok (Expr.call name args t).normal := by
  have hrule := (typeOr_of_typings
    (callType_typings name (allStandFor_normalAll fun a ha => (h a ha).standsFor_normal)) ht).1
  rw [← normalAll_eq]
  unfold Build.callNode
  rw [hrule]
  rfl

theorem Plain.componentNode_normal {value : Expr} {field : String} (h : value.Plain)
    (hf : field ∈ value.valueType.components) :
    Formula.componentNode value.normal field = .ok (Expr.component value field .float).normal := by
  rw [h.standsFor_normal.components] at hf
  exact if_pos hf

/-- The function of a vector type or of colors takes its parts. -/
theorem callNode_parts {l : Literal} (hl : l.parts ≠ []) :
    Build.callNode l.valueType.name (l.parts.map fun s => signedNumber s.double) =
      .ok (normal (.const (.literal l) l.valueType)) := by
  have htypes : (l.parts.map fun s => signedNumber s.double).map valueType =
      l.parts.map fun _ => ValueType.float := by
    rw [List.map_map]
    exact List.map_congr_left fun s _ => valueType_signedNumber s.double
  unfold Build.callNode
  rw [htypes]
  cases l with
  | scalar s => exact absurd rfl hl
  | _ => rfl

end

end Expr

end VisualScale
