import VisualScale.Formula.Names
import VisualScale.Formula.Compile
import VisualScale.Proofs.Widening

/-!
# Compiling one formula against two environments

A formula looks at the expressions of its environment only through the rules that build nodes. So
what a relation between expressions keeps in every rule (`Respected`), it keeps in every formula:

* `Formula.compile_alike` -- against environments whose expressions are related, for the names that
  the formula reads, the results are related, or both runs fail at the same node;
* `Formula.isSome_of_compile` -- a formula that compiles finds every name that it reads.

One such relation is that the type of an expression stands for that of another
(`respected_typeStandsFor`).
-/

namespace VisualScale

/-- Two failures arose at the same place, by faults that are the same. -/
def Failure.SameBy (same : Fault → Fault → Prop) (f g : Failure) : Prop :=
  f.site = g.site ∧ same f.fault g.fault

/-- Faults of one kind are placed alike. -/
theorem Failure.sameBy_at {same : Fault → Fault → Prop} (source : String) (span : Span)
    {f g : Fault} (h : same f g) (hk : f.kind = g.kind) :
    Failure.SameBy same (.at source span f) (.at source span g) := by
  unfold Failure.SameBy Failure.at
  rw [hk]
  cases g.kind <;> exact ⟨rfl, h⟩

/-- The constant of a double. -/
def Expr.number (d : Double) : Expr := .const (.literal (.scalar (.float d))) .float

/-- A relation between expressions that every rule keeps, up to faults that are the same. -/
structure Respected (same : Fault → Fault → Prop) (R : Expr → Expr → Prop) : Prop where
  same_refl : ∀ f, same f f
  same_kind : ∀ {f g}, same f g → f.kind = g.kind
  number : ∀ d, R (.number d) (.number d)
  binary : ∀ (op : Operator) {l l' r r'}, R l l' → R r r' →
    Alike same R (Build.binaryNode op.symbol l r) (Build.binaryNode op.symbol l' r')
  signed : ∀ sign {e e'}, R e e' → Alike same R (Formula.signNode sign e) (Formula.signNode sign e')
  call : ∀ function {es es'}, List.Forall₂ R es es' →
    Alike same R (Build.callNode function es) (Build.callNode function es')
  component : ∀ field {e e'}, R e e' →
    Alike same R (Formula.componentNode e field) (Formula.componentNode e' field)

namespace Formula

variable {same : Fault → Fault → Prop} {R : Expr → Expr → Prop}

/-! ## 1. Related environments -/

/-- The environments relate the expressions of each of the names. -/
def Related (R : Expr → Expr → Prop) (names : List String) (env env' : Environment) : Prop :=
  ∀ n ∈ names, Option.Rel R (env.find? n) (env'.find? n)

theorem Related.left {as bs : List String} {env env' : Environment}
    (h : Related R (as ++ bs) env env') : Related R as env env' :=
  fun n hn => h n (List.mem_append_left _ hn)

theorem Related.right {as bs : List String} {env env' : Environment}
    (h : Related R (as ++ bs) env env') : Related R bs env env' :=
  fun n hn => h n (List.mem_append_right _ hn)

/-- The result of a rule stays related when its fault is placed. -/
theorem placed_alike (hR : Respected same R) (source : String) (span : Span)
    {r r' : Except Fault Expr} (h : Alike same R r r') :
    Alike (Failure.SameBy same) R (placed source span r) (placed source span r') := by
  cases h with
  | ok h => exact .ok h
  | error h => exact .error (Failure.sameBy_at source span h (hR.same_kind h))

mutual

/-- **A formula keeps every relation that the rules keep.** -/
theorem compile_alike (hR : Respected same R) (source : String) {env env' : Environment}
    (f : Formula) (h : Related R f.reads env env') :
    Alike (Failure.SameBy same) R (f.compile source env) (f.compile source env') := by
  have fault (span : Span) (fault : Fault) : Alike (Failure.SameBy same) R
      (.error (.at source span fault)) (.error (.at source span fault)) :=
    .error ⟨rfl, hR.same_refl _⟩
  cases f with
  | whole n s =>
    refine placed_alike hR source s ?_
    unfold wholeConstant
    cases Build.toDouble (.int n) with
    | ok d => exact .ok (hR.number d)
    | error fault => exact .error (hR.same_refl fault)
  | real d s => exact .ok (hR.number d)
  | name id s =>
    have hn := h id (List.mem_singleton_self id)
    unfold compile
    revert hn
    generalize env.find? id = x, env'.find? id = y
    rintro (hn | -)
    · exact .ok hn
    · exact fault s _
  | binary op left right s =>
    unfold compile
    exact (compile_alike hR source left h.left).bind fun l l' hl =>
      (compile_alike hR source right h.right).bind fun r r' hr =>
        placed_alike hR source s (hR.binary op hl hr)
  | signed sign operand s =>
    unfold compile
    exact (compile_alike hR source operand h).bind fun e e' he =>
      placed_alike hR source s (hR.signed sign he)
  | call function args s =>
    unfold compile
    split
    · exact (compileAll_alike hR source args h).bind fun es es' hes =>
        placed_alike hR source s (hR.call function hes)
    · exact fault s _
  | component value field s =>
    unfold compile
    exact (compile_alike hR source value h).bind fun e e' he =>
      placed_alike hR source s (hR.component field he)

theorem compileAll_alike (hR : Respected same R) (source : String) {env env' : Environment}
    (fs : List Formula) (h : Related R (readsOfAll fs) env env') :
    Alike (Failure.SameBy same) (List.Forall₂ R) (compileAll source env fs)
      (compileAll source env' fs) := by
  cases fs with
  | nil => exact .ok .nil
  | cons f rest =>
    unfold compileAll
    exact (compile_alike hR source f h.left).bind fun e e' he =>
      (compileAll_alike hR source rest h.right).bind fun es es' hes => .ok (.cons he hes)

end

/-! ## 2. Names that are read are bound -/

mutual

/-- A formula that compiles finds every name that it reads. -/
theorem isSome_of_compile {source : String} {env : Environment} (f : Formula) {e : Expr}
    (h : f.compile source env = .ok e) : ∀ n ∈ f.reads, (env.find? n).isSome = true := by
  cases f with
  | whole | real => exact fun _ hn => absurd hn List.not_mem_nil
  | name id s =>
    intro n hn
    obtain rfl : n = id := List.mem_singleton.mp hn
    unfold compile at h
    split at h
    · next he => rw [he]; rfl
    · cases h
  | binary op left right s =>
    unfold compile at h
    obtain ⟨l, hl, h⟩ := Outcome.of_bind h
    obtain ⟨r, hr, -⟩ := Outcome.of_bind h
    intro n hn
    rcases List.mem_append.mp hn with hn | hn
    · exact isSome_of_compile left hl n hn
    · exact isSome_of_compile right hr n hn
  | signed sign operand s =>
    unfold compile at h
    obtain ⟨o, ho, -⟩ := Outcome.of_bind h
    exact isSome_of_compile operand ho
  | call function args s =>
    unfold compile at h
    split at h
    · obtain ⟨es, hes, -⟩ := Outcome.of_bind h
      exact isSome_of_compileAll args hes
    · cases h
  | component value field s =>
    unfold compile at h
    obtain ⟨v, hv, -⟩ := Outcome.of_bind h
    exact isSome_of_compile value hv

theorem isSome_of_compileAll {source : String} {env : Environment} (fs : List Formula)
    {es : List Expr} (h : compileAll source env fs = .ok es) :
    ∀ n ∈ readsOfAll fs, (env.find? n).isSome = true := by
  cases fs with
  | nil => exact fun _ hn => absurd hn List.not_mem_nil
  | cons f rest =>
    unfold compileAll at h
    obtain ⟨e, he, h⟩ := Outcome.of_bind h
    obtain ⟨es, hes, -⟩ := Outcome.of_bind h
    intro n hn
    rcases List.mem_append.mp hn with hn | hn
    · exact isSome_of_compile f he n hn
    · exact isSome_of_compileAll rest hes n hn

end

end Formula

/-! ## 3. Types that stand for others -/

/-- The type of one expression stands for that of another. -/
def Expr.TypeStandsFor (e e' : Expr) : Prop := e.valueType.StandsFor e'.valueType

/-- A node whose type a rule gives, against the same node by the same rule. -/
theorem Typings.node {r r' : Except Fault ValueType} (h : Typings r r') {k k' : ValueType → Expr}
    (hk : ∀ t, (k t).valueType = t) (hk' : ∀ t, (k' t).valueType = t) :
    Alike Fault.SameReason Expr.TypeStandsFor (r.map k) (r'.map k') :=
  h.map fun a b hab => by
    unfold Expr.TypeStandsFor
    rw [hk, hk']
    exact hab

/-- **Every rule keeps that types stand for others.** -/
theorem respected_typeStandsFor : Respected Fault.SameReason Expr.TypeStandsFor where
  same_refl := Fault.SameReason.refl
  same_kind := Fault.SameReason.kind_eq
  number _ := .refl _
  binary op _ _ _ _ hl hr :=
    (Signature.operatorType_typings op.symbol hl hr).node (fun _ => rfl) (fun _ => rfl)
  signed sign e e' he := by
    cases sign with
    | plus => exact (Signature.signType_typings "+" he).map fun _ _ _ => he
    | minus => exact (Signature.signType_typings "-" he).node (fun _ => rfl) (fun _ => rfl)
  call function es es' hes := by
    have ht : ValueType.AllStandFor (es.map Expr.valueType) (es'.map Expr.valueType) :=
      List.forall₂_map_left_iff.2 (List.forall₂_map_right_iff.2 hes)
    exact (Signature.callType_typings function ht).node (fun _ => rfl) (fun _ => rfl)
  component field e e' he := by
    unfold Formula.componentNode
    rw [he.components]
    split
    · exact .ok (.refl _)
    · exact .error (by simp only [Fault.SameReason, Fault.widened, he.widened_eq])

end VisualScale
