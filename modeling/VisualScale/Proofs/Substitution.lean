import VisualScale.Proofs.Compile
import VisualScale.Proofs.Table

/-!
# Compiling against placeholders

A formula can be compiled twice: against variables that only carry the types of their names, to
learn the type of the result, and against the expressions themselves, to build it. This file says
that the two runs are one run:

* `Environment.placeholders` -- the typed variables that stand for the expressions of an
  environment;
* `Environment.fill` -- the expression that a placeholder stands for;
* `ParsedFormula.compile_eq_replaceVars` -- compiling against the expressions is compiling against
  their placeholders and replacing every placeholder at once.

Replacing is simultaneous: an expression that is put in is not looked into, so its own variables may
have the names of placeholders.
-/

namespace VisualScale

namespace Expr

/-! ## 1. Replacing variables keeps types -/

mutual

/-- An expression and the expressions inside it, each before those inside of it. -/
def subterms : Expr → List Expr
  | const v t => [const v t]
  | var n t => [var n t]
  | column f t => [column f t]
  | stray kind => [stray kind]
  | unary op operand t => unary op operand t :: operand.subterms
  | binary op left right t => binary op left right t :: (left.subterms ++ right.subterms)
  | call name args t => call name args t :: subtermsOfAll args
  | component value f t => component value f t :: value.subterms

/-- The expressions that stand side by side, and those inside them. -/
def subtermsOfAll : List Expr → List Expr
  | [] => []
  | e :: rest => e.subterms ++ subtermsOfAll rest

end

theorem self_mem_subterms (e : Expr) : e ∈ e.subterms := by
  cases e <;> exact List.mem_cons_self

/-- Replacing variables changes the type of no expression inside `e`, nor that of `e` itself. -/
def KeepsTypes (σ : String → ValueType → Expr) (e : Expr) : Prop :=
  ∀ x ∈ e.subterms, (x.replaceVars σ).valueType = x.valueType

/-- The second expression becomes the first when its variables are replaced, and all types stay. -/
def FilledFrom (σ : String → ValueType → Expr) (e g : Expr) : Prop :=
  e = g.replaceVars σ ∧ g.KeepsTypes σ

variable {σ : String → ValueType → Expr}

theorem FilledFrom.valueType_eq {e g : Expr} (h : FilledFrom σ e g) :
    e.valueType = g.valueType := by
  rw [h.1]
  exact h.2 g g.self_mem_subterms

theorem filledFrom_number (d : Double) : FilledFrom σ (.number d) (.number d) := by
  refine ⟨rfl, fun x hx => ?_⟩
  obtain rfl := List.mem_singleton.mp hx
  rfl

theorem filledFrom_unary {e g : Expr} (h : FilledFrom σ e g) (op : String) (t : ValueType) :
    FilledFrom σ (.unary op e t) (.unary op g t) := by
  refine ⟨by rw [h.1]; rfl, fun x hx => ?_⟩
  rcases List.mem_cons.mp hx with rfl | hx
  · rfl
  · exact h.2 x hx

theorem filledFrom_binary {l r l' r' : Expr} (hl : FilledFrom σ l l') (hr : FilledFrom σ r r')
    (op : String) (t : ValueType) : FilledFrom σ (.binary op l r t) (.binary op l' r' t) := by
  refine ⟨by rw [hl.1, hr.1]; rfl, fun x hx => ?_⟩
  rcases List.mem_cons.mp hx with rfl | hx
  · rfl
  · rcases List.mem_append.mp hx with hx | hx
    · exact hl.2 x hx
    · exact hr.2 x hx

theorem filledFrom_component {e g : Expr} (h : FilledFrom σ e g) (f : String) (t : ValueType) :
    FilledFrom σ (.component e f t) (.component g f t) := by
  refine ⟨by rw [h.1]; rfl, fun x hx => ?_⟩
  rcases List.mem_cons.mp hx with rfl | hx
  · rfl
  · exact h.2 x hx

theorem filledFrom_args {es gs : List Expr} (h : List.Forall₂ (FilledFrom σ) es gs) :
    es = replaceVarsInAll σ gs ∧ ∀ x ∈ subtermsOfAll gs, (x.replaceVars σ).valueType = x.valueType := by
  induction h with
  | nil => exact ⟨rfl, fun x hx => absurd hx List.not_mem_nil⟩
  | cons he _ ih =>
    refine ⟨by rw [he.1, ih.1]; rfl, fun x hx => ?_⟩
    rcases List.mem_append.mp hx with hx | hx
    · exact he.2 x hx
    · exact ih.2 x hx

theorem filledFrom_call {es gs : List Expr} (h : List.Forall₂ (FilledFrom σ) es gs)
    (name : String) (t : ValueType) : FilledFrom σ (.call name es t) (.call name gs t) := by
  obtain ⟨rfl, ht⟩ := filledFrom_args h
  refine ⟨rfl, fun x hx => ?_⟩
  rcases List.mem_cons.mp hx with rfl | hx
  · rfl
  · exact ht x hx

theorem map_valueType_of_filledFrom {es gs : List Expr} (h : List.Forall₂ (FilledFrom σ) es gs) :
    es.map valueType = gs.map valueType := by
  induction h with
  | nil => rfl
  | cons he _ ih => rw [List.map_cons, List.map_cons, he.valueType_eq, ih]

end Expr

/-! ## 2. The rules look at types alone -/

/-- The same rule on both sides, with related nodes. -/
theorem alike_map_of_eq {R : Expr → Expr → Prop} {r r' : Except Fault ValueType} (h : r = r')
    {k k' : ValueType → Expr} (hk : ∀ t, R (k t) (k' t)) : Alike Eq R (r.map k) (r'.map k') := by
  subst h
  cases r with
  | ok t => exact .ok (hk t)
  | error fault => exact .error rfl

/-- **Every rule keeps that one expression is filled from another.** -/
theorem respected_filledFrom (σ : String → ValueType → Expr) :
    Respected Eq (Expr.FilledFrom σ) where
  same_refl _ := rfl
  same_kind h := congrArg Fault.kind h
  number d := Expr.filledFrom_number d
  binary op _ _ _ _ hl hr :=
    alike_map_of_eq (by rw [hl.valueType_eq, hr.valueType_eq]) (Expr.filledFrom_binary hl hr op.symbol)
  signed sign _ _ he := by
    cases sign with
    | plus => exact alike_map_of_eq (by rw [he.valueType_eq]) fun _ => he
    | minus => exact alike_map_of_eq (by rw [he.valueType_eq]) (Expr.filledFrom_unary he "-")
  call function _ _ hes :=
    alike_map_of_eq (by rw [Expr.map_valueType_of_filledFrom hes])
      (Expr.filledFrom_call hes function)
  component field e g he := by
    unfold Formula.componentNode
    rw [he.valueType_eq]
    split
    · exact .ok (Expr.filledFrom_component he field .float)
    · exact .error rfl

/-! ## 3. Placeholders -/

namespace Environment

/-- A variable in the place of every expression, with the expression's name and type. -/
def placeholders (env : Environment) : Environment := env.map fun (n, e) => (n, .var n e.valueType)

/-- What a variable stands for; one without an entry stands for itself. -/
def fill (env : Environment) (name : String) (t : ValueType) : Expr :=
  (env.find? name).getD (.var name t)

theorem find?_placeholders (env : Environment) (name : String) :
    env.placeholders.find? name = (env.find? name).map fun e => .var name e.valueType :=
  Table.find?_map (fun n (e : Expr) => Expr.var n e.valueType) env name

/-- An environment is filled from its placeholders, whatever names are read. -/
theorem related_placeholders (env : Environment) (names : List String) :
    Formula.Related (Expr.FilledFrom env.fill) names env env.placeholders := by
  intro n _
  rw [find?_placeholders]
  cases h : env.find? n with
  | none => exact .none
  | some e =>
    have hfill : env.fill n e.valueType = e := by unfold fill; rw [h]; rfl
    refine .some ⟨hfill.symm, fun x hx => ?_⟩
    obtain rfl := List.mem_singleton.mp hx
    show (env.fill n e.valueType).valueType = e.valueType
    rw [hfill]

end Environment

namespace ParsedFormula

/-- **Compiling against expressions is compiling against their placeholders and filling these in.**
    So either both runs give an expression or both fail, and with the same failure; and outside the
    expressions that were filled in, every node has the type it had before. -/
theorem compile_eq_replaceVars (p : ParsedFormula) (env : Environment) :
    p.compile env = (p.compile env.placeholders).map (Expr.replaceVars env.fill) ∧
      (∀ g, p.compile env.placeholders = .ok g → g.KeepsTypes env.fill) ∧
      ∀ failure, p.compile env = .error failure ↔ p.compile env.placeholders = .error failure := by
  have h : Alike (Failure.SameBy Eq) (Expr.FilledFrom env.fill) (p.compile env)
      (p.compile env.placeholders) :=
    Formula.compile_alike (respected_filledFrom env.fill) p.source p.formula
      (env.related_placeholders p.formula.reads)
  revert h
  generalize p.compile env = x, p.compile env.placeholders = y
  rintro (⟨rfl, ht⟩ | ⟨hs, hf⟩)
  · refine ⟨rfl, fun g hg => ?_, fun failure => ⟨fun hc => ?_, fun hc => ?_⟩⟩
    · cases hg
      exact ht
    · cases hc
    · cases hc
  · next f g =>
    obtain rfl : f = g := by
      cases f
      cases g
      exact congrArg₂ Failure.mk hf hs
    refine ⟨rfl, fun g hg => ?_, fun failure => Iff.rfl⟩
    cases hg

end ParsedFormula

end VisualScale
