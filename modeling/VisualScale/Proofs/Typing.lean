import VisualScale.Proofs.Compile

/-!
# Well-typed expressions

An expression is well typed when every node of it carries the type that the signatures give for what
is below it, and every constant the type of its literal (`Expr.WellTyped`). Whatever the rules keep
of expressions, a formula keeps (`Formula.compile_keeps`), because compiling puts nodes together by
the rules alone (`KeptByRules`). To be well typed is one such property (`keptByRules_wellTyped`).
-/

namespace VisualScale

/-! ## 1. Expressions whose nodes have the types of the signatures -/

namespace Expr

/-- Every sign, operation and call has the type that its signature gives for its operands, every
    component is one that its operand has, and a float, and every constant has the type of its
    literal. Variables and columns may have any type. -/
inductive WellTyped : Expr → Prop where
  | const (l : Literal) : WellTyped (.const (.literal l) l.valueType)
  | var (name : String) (t : ValueType) : WellTyped (.var name t)
  | column (field : String) (t : ValueType) : WellTyped (.column field t)
  | unary {op : String} {operand : Expr} {t : ValueType}
      (ht : Signature.signType op operand.valueType = .ok t) (h : operand.WellTyped) :
      WellTyped (.unary op operand t)
  | binary {op : String} {left right : Expr} {t : ValueType}
      (ht : Signature.operatorType op left.valueType right.valueType = .ok t)
      (hl : left.WellTyped) (hr : right.WellTyped) : WellTyped (.binary op left right t)
  | call {name : String} {args : List Expr} {t : ValueType}
      (ht : Signature.callType name (args.map valueType) = .ok t) (h : ∀ a ∈ args, a.WellTyped) :
      WellTyped (.call name args t)
  | component {value : Expr} {field : String} (hf : field ∈ value.valueType.components)
      (h : value.WellTyped) : WellTyped (.component value field .float)

end Expr

/-! ## 2. What the rules keep -/

/-- A property of expressions that every rule keeps: the node that a rule builds has it if what is
    below the node has it. -/
structure KeptByRules (P : Expr → Prop) : Prop where
  number : ∀ d, P (.number d)
  binary : ∀ (op : Operator) {l r e}, P l → P r → Build.binaryNode op.symbol l r = .ok e → P e
  signed : ∀ {sign e e'}, P e → Formula.signNode sign e = .ok e' → P e'
  call : ∀ {function es e}, (∀ a ∈ es, P a) → Build.callNode function es = .ok e → P e
  component : ∀ {field e e'}, P e → Formula.componentNode e field = .ok e' → P e'

namespace KeptByRules

variable {P : Expr → Prop}

theorem alike_self {r : Except Fault Expr} (h : ∀ e, r = .ok e → P e) :
    Alike Eq (fun e e' => e = e' ∧ P e) r r := by
  cases r with
  | ok e => exact .ok ⟨rfl, h e rfl⟩
  | error fault => exact .error rfl

/-- A property that every rule keeps is kept as a relation of expressions to themselves. -/
theorem respected (h : KeptByRules P) : Respected Eq (fun e e' => e = e' ∧ P e) where
  same_refl _ := rfl
  same_kind hfg := congrArg Fault.kind hfg
  number d := ⟨rfl, h.number d⟩
  binary op l l' r r' hl hr := by
    obtain ⟨rfl, hl⟩ := hl
    obtain ⟨rfl, hr⟩ := hr
    exact alike_self fun e he => h.binary op hl hr he
  signed sign e e' he := by
    obtain ⟨rfl, he⟩ := he
    exact alike_self fun e' he' => h.signed he he'
  call function es es' hes := by
    have hall : es = es' ∧ ∀ a ∈ es, P a := by
      induction hes with
      | nil => exact ⟨rfl, fun a ha => absurd ha List.not_mem_nil⟩
      | cons hab _ ih =>
        obtain ⟨rfl, ha⟩ := hab
        obtain ⟨rfl, hrest⟩ := ih
        exact ⟨rfl, List.forall_mem_cons.2 ⟨ha, hrest⟩⟩
    obtain ⟨rfl, hP⟩ := hall
    exact alike_self fun e he => h.call hP he
  component field e e' he := by
    obtain ⟨rfl, he⟩ := he
    exact alike_self fun e' he' => h.component he he'

end KeptByRules

/-- **A formula keeps what the rules keep**: if the expressions that its names stand for have a
    property, so has what the formula compiles to. -/
theorem Formula.compile_keeps_of_reads {P : Expr → Prop} (hP : KeptByRules P) {source : String}
    {env : Environment} {f : Formula} {e : Expr}
    (henv : ∀ n ∈ f.reads, ∀ e, env.find? n = some e → P e)
    (h : f.compile source env = .ok e) : P e := by
  have hrelated : Related (fun e e' => e = e' ∧ P e) f.reads env env := by
    intro n hread
    cases hn : env.find? n with
    | none => exact .none
    | some e => exact .some ⟨rfl, henv n hread e hn⟩
  have halike := compile_alike hP.respected source f hrelated
  rw [h] at halike
  obtain ⟨_, he, -, hPe⟩ := halike.exists_of_left
  exact hPe

/-- If all expressions of an environment have the property, so has what the formula compiles to. -/
theorem Formula.compile_keeps {P : Expr → Prop} (hP : KeptByRules P) {source : String}
    {env : Environment} {f : Formula} {e : Expr} (henv : ∀ n e, env.find? n = some e → P e)
    (h : f.compile source env = .ok e) : P e :=
  compile_keeps_of_reads hP (fun n _ => henv n) h

/-! ## 3. Being well typed -/

section

open VisualScale.Expr

theorem wellTyped_binaryNode {op : String} {l r e : Expr} (hl : l.WellTyped) (hr : r.WellTyped)
    (h : Build.binaryNode op l r = .ok e) : e.WellTyped := by
  obtain ⟨t, ht, rfl⟩ := Outcome.of_map h
  exact .binary ht hl hr

theorem wellTyped_callNode {function : String} {es : List Expr} {e : Expr}
    (hes : ∀ a ∈ es, a.WellTyped) (h : Build.callNode function es = .ok e) : e.WellTyped := by
  obtain ⟨t, ht, rfl⟩ := Outcome.of_map h
  exact .call ht hes

theorem wellTyped_signNode {sign : Sign} {e e' : Expr} (he : e.WellTyped)
    (h : Formula.signNode sign e = .ok e') : e'.WellTyped := by
  cases sign with
  | plus =>
    obtain ⟨t, -, rfl⟩ := Outcome.of_map h
    exact he
  | minus =>
    obtain ⟨t, ht, rfl⟩ := Outcome.of_map h
    exact .unary ht he

theorem componentNode_ok {field : String} {e e' : Expr}
    (h : Formula.componentNode e field = .ok e') :
    field ∈ e.valueType.components ∧ e' = .component e field .float := by
  unfold Formula.componentNode at h
  split at h
  · next hf => exact ⟨hf, (Except.ok.inj h).symm⟩
  · cases h

/-- **The rules build well-typed nodes.** -/
theorem keptByRules_wellTyped : KeptByRules WellTyped where
  number d := .const (.scalar (.float d))
  binary _ := wellTyped_binaryNode
  signed := wellTyped_signNode
  call := wellTyped_callNode
  component he h := by
    obtain ⟨hf, rfl⟩ := componentNode_ok h
    exact .component hf he

/-- The constant of a literal has the literal's type. -/
theorem wellTyped_constant {v : Value} {e : Expr} (h : Build.constant v = .ok e) : e.WellTyped := by
  obtain ⟨l, -, rfl⟩ := Outcome.of_map h
  exact .const l

/-- A number is well typed also where it becomes a float. -/
theorem wellTyped_numberFor {s : Scalar} {wanted : Option Build.Wanted} {e : Expr}
    (h : Build.numberFor s wanted = .ok e) : e.WellTyped := by
  cases wanted with
  | none => exact wellTyped_constant h
  | some w =>
    obtain ⟨t, -, h⟩ := Outcome.of_bind h
    split at h
    · obtain ⟨d, -, h⟩ := Outcome.of_bind h
      cases h
      exact .const (.scalar (.float d))
    · exact wellTyped_constant h

/-- What becomes of a value in a place is well typed, if the value is no ill-typed expression. -/
theorem wellTyped_ofValue {v : Value} {wanted : Option Build.Wanted} {e : Expr}
    (hv : ∀ e, v = .expr e → e.WellTyped) (h : Build.ofValue v wanted = .ok e) : e.WellTyped := by
  unfold Build.ofValue at h
  split at h
  · cases h
    exact hv e rfl
  · split at h
    · cases h
      exact .column _ _
    · obtain ⟨t, -, rfl⟩ := Outcome.of_map h
      exact .column _ t
  · cases h
  · exact wellTyped_numberFor h
  · exact wellTyped_numberFor h
  · exact wellTyped_constant h

end

end VisualScale
