import VisualScale.Proofs.Compile
import VisualScale.Proofs.Nodes

/-!
# Where compiling fails

Compiling goes through a formula from left to right and from the inside out. At each node a rule is
asked about the expressions of the formulas below it (`Formula.Rule`); only a call of a function
that does not exist fails before the formulas below it are looked at. So a formula that does not
compile fails at one node: the first whose own rule fails (`Formula.FailsAt`, which tells the node
by its path).

* `Formula.compile_cases` -- what compiling one node comes to;
* `Formula.compile_eq_error_iff` -- a formula fails to compile if and only if a node of it fails,
  and the failure is that node's fault at that node's place;
* `Formula.FailsAt.alike` -- against environments whose expressions are related, a formula fails at
  the same node.
-/

namespace VisualScale

@[simp] theorem Failure.fault_at (source : String) (span : Span) (fault : Fault) :
    (Failure.at source span fault).fault = fault := by
  unfold Failure.at
  split <;> rfl

namespace Formula

/-- The formula is no call of a function that does not exist. -/
def Callable : Formula → Prop
  | call function _ _ => Signature.isKnownFunction function = true
  | _ => True

/-- What the rule of a node gives, once the formulas below it have become expressions. -/
inductive Rule (env : Environment) : Formula → List Expr → Except Fault Expr → Prop where
  | whole (n : Nat) (s : Span) : Rule env (whole n s) [] (wholeConstant n)
  | real (d : Double) (s : Span) : Rule env (real d s) [] (.ok (.number d))
  | bound {id : String} {e : Expr} (s : Span) (h : env.find? id = some e) :
      Rule env (name id s) [] (.ok e)
  | unbound {id : String} (s : Span) (h : env.find? id = none) :
      Rule env (name id s) [] (.error (.unknownIdentifier id))
  | binary (op : Operator) (left right : Formula) (s : Span) (l r : Expr) :
      Rule env (binary op left right s) [l, r] (Build.binaryNode op.symbol l r)
  | signed (sign : Sign) (operand : Formula) (s : Span) (e : Expr) :
      Rule env (signed sign operand s) [e] (signNode sign e)
  | call (function : String) (args : List Formula) (s : Span) (es : List Expr) :
      Rule env (call function args s) es (Build.callNode function es)
  | component (value : Formula) (field : String) (s : Span) (e : Expr) :
      Rule env (component value field s) [e] (componentNode e field)

/-- Compiling fails at the node at the end of a path, because of a fault of that node itself: what
    comes before the node has become expressions, and so has what is below it, unless the node is a
    call of a function that does not exist. -/
inductive FailsAt (source : String) (env : Environment) : Formula → List Nat → Fault → Prop where
  | function {function : String} {args : List Formula} {s : Span}
      (h : Signature.isKnownFunction function = false) :
      FailsAt source env (call function args s) [] (.unknownFunction function)
  | inside {f child : Formula} {i : Nat} {es : List Expr} {path : List Nat} {fault : Fault}
      (hf : f.Callable) (hi : f.children[i]? = some child)
      (hbefore : compileAll source env (f.children.take i) = .ok es)
      (h : FailsAt source env child path fault) : FailsAt source env f (i :: path) fault
  | own {f : Formula} {es : List Expr} {fault : Fault} (hf : f.Callable)
      (hes : compileAll source env f.children = .ok es) (h : Rule env f es (.error fault)) :
      FailsAt source env f [] fault

variable {source : String} {env : Environment}

/-! ## 1. Formulas side by side -/

theorem compileAll_cons_eq_ok {f : Formula} {rest : List Formula} {es : List Expr}
    (h : compileAll source env (f :: rest) = .ok es) :
    ∃ e rest', f.compile source env = .ok e ∧ compileAll source env rest = .ok rest' ∧
      es = e :: rest' := by
  unfold compileAll at h
  obtain ⟨e, he, h⟩ := Outcome.of_bind h
  obtain ⟨rest', hrest, h⟩ := Outcome.of_bind h
  exact ⟨e, rest', he, hrest, (Except.ok.inj h).symm⟩

/-- Formulas side by side become expressions if each of them does. -/
theorem compileAll_eq_ok_iff {fs : List Formula} {es : List Expr} :
    compileAll source env fs = .ok es ↔
      List.Forall₂ (fun f e => f.compile source env = .ok e) fs es := by
  induction fs generalizing es with
  | nil =>
    unfold compileAll
    rw [List.forall₂_nil_left_iff, Except.ok.injEq, eq_comm]
  | cons f rest ih =>
    constructor
    · intro h
      obtain ⟨e, rest', he, hrest, rfl⟩ := compileAll_cons_eq_ok h
      exact .cons he (ih.1 hrest)
    · rintro (_ | ⟨he, hrest⟩)
      unfold compileAll
      rw [he, ih.2 hrest]
      rfl

/-- If formulas side by side become expressions, each of them does. -/
theorem exists_of_compileAll {fs : List Formula} {es : List Expr}
    (h : compileAll source env fs = .ok es) {f : Formula} (hf : f ∈ fs) :
    ∃ e, f.compile source env = .ok e := by
  rw [compileAll_eq_ok_iff] at h
  induction h with
  | nil => cases hf
  | cons he _ ih =>
    rcases List.mem_cons.1 hf with rfl | hf
    · exact ⟨_, he⟩
    · exact ih hf

/-- Formulas side by side fail at the first of them that fails. -/
theorem compileAll_eq_error_iff {fs : List Formula} {failure : Failure} :
    compileAll source env fs = .error failure ↔ ∃ i f es, fs[i]? = some f ∧
      compileAll source env (fs.take i) = .ok es ∧ f.compile source env = .error failure := by
  induction fs with
  | nil => simp [compileAll]
  | cons f rest ih =>
    constructor
    · intro h
      unfold compileAll at h
      cases hf : f.compile source env with
      | error g =>
        rw [hf] at h
        obtain rfl := Except.error.inj h
        exact ⟨0, f, [], rfl, by simp [compileAll], hf⟩
      | ok e =>
        rw [hf] at h
        cases hrest : compileAll source env rest with
        | ok es => rw [hrest] at h; cases h
        | error g =>
          rw [hrest] at h
          obtain rfl := Except.error.inj h
          obtain ⟨i, child, es, hi, hes, hchild⟩ := ih.1 hrest
          have htake : compileAll source env (f :: rest.take i) = .ok (e :: es) := by
            unfold compileAll
            rw [hf, hes]
            rfl
          exact ⟨i + 1, child, e :: es, hi, htake, hchild⟩
    · rintro ⟨i, child, es, hi, hes, hchild⟩
      cases i with
      | zero =>
        obtain rfl := Option.some.inj hi
        unfold compileAll
        rw [hchild]
        rfl
      | succ i =>
        obtain ⟨e, rest', he, hrest, -⟩ := compileAll_cons_eq_ok hes
        have herror := ih.2 ⟨i, child, rest', hi, hrest, hchild⟩
        unfold compileAll
        rw [he, herror]
        rfl

/-! ## 2. One node -/

/-- A node over expressions is what its rule gives. -/
theorem compile_of_rule {f : Formula} {es : List Expr} {r : Except Fault Expr} (hf : f.Callable)
    (hes : compileAll source env f.children = .ok es) (h : Rule env f es r) :
    f.compile source env = placed source f.span r := by
  rw [compileAll_eq_ok_iff] at hes
  cases h with
  | whole n s | real d s => rfl
  | bound s h | unbound s h =>
    unfold compile
    rw [h]
    rfl
  | binary op left right s l r =>
    obtain _ | ⟨hl, _ | ⟨hr, -⟩⟩ := hes
    unfold compile
    rw [hl, hr]
    rfl
  | signed sign operand s e | component value field s e =>
    obtain _ | ⟨he, -⟩ := hes
    unfold compile
    rw [he]
    rfl
  | call function args s es =>
    have hknown : Signature.isKnownFunction function = true := hf
    have hargs : compileAll source env args = .ok es := compileAll_eq_ok_iff.2 hes
    unfold compile
    rw [if_pos hknown, hargs]
    rfl

/-- Over as many expressions as there are formulas below it, a node has a rule. -/
theorem exists_rule {f : Formula} {es : List Expr}
    (hes : compileAll source env f.children = .ok es) : ∃ r, Rule env f es r := by
  rw [compileAll_eq_ok_iff] at hes
  cases f with
  | whole n s =>
    cases hes
    exact ⟨_, .whole n s⟩
  | real d s =>
    cases hes
    exact ⟨_, .real d s⟩
  | name id s =>
    cases hes
    cases h : env.find? id with
    | some e => exact ⟨_, .bound s h⟩
    | none => exact ⟨_, .unbound s h⟩
  | binary op left right s =>
    obtain _ | ⟨-, _ | ⟨-, _ | -⟩⟩ := hes
    exact ⟨_, .binary op left right s _ _⟩
  | signed sign operand s =>
    obtain _ | ⟨-, _ | -⟩ := hes
    exact ⟨_, .signed sign operand s _⟩
  | call function args s => exact ⟨_, .call function args s es⟩
  | component value field s =>
    obtain _ | ⟨-, _ | -⟩ := hes
    exact ⟨_, .component value field s _⟩

/-- What fails below a node is the failure of the node. -/
theorem compile_of_below {f : Formula} {failure : Failure} (hf : f.Callable)
    (h : compileAll source env f.children = .error failure) :
    f.compile source env = .error failure := by
  cases f with
  | whole n s | real d s | name id s => simp [children, compileAll] at h
  | binary op left right s =>
    obtain ⟨i, child, es, hi, hes, hchild⟩ := compileAll_eq_error_iff.1 h
    unfold compile
    rcases i with _ | _ | i
    · obtain rfl := Option.some.inj hi
      rw [hchild]
      rfl
    · obtain rfl := Option.some.inj hi
      obtain ⟨l, -, hl, -⟩ := compileAll_cons_eq_ok hes
      rw [hl, hchild]
      rfl
    · cases hi
  | signed sign operand s | component value field s =>
    obtain ⟨i, child, es, hi, hes, hchild⟩ := compileAll_eq_error_iff.1 h
    unfold compile
    cases i with
    | zero =>
      obtain rfl := Option.some.inj hi
      rw [hchild]
      rfl
    | succ i => cases hi
  | call function args s =>
    have hknown : Signature.isKnownFunction function = true := hf
    have hargs : compileAll source env args = .error failure := h
    unfold compile
    rw [if_pos hknown, hargs]
    rfl

/-- **What compiling a node comes to.** It is a call of a function that does not exist; or a formula
    below it fails; or its rule is asked. -/
theorem compile_cases (source : String) (env : Environment) (f : Formula) :
    (∃ function args s, f = .call function args s ∧ Signature.isKnownFunction function = false ∧
        f.compile source env = .error (.at source s (.unknownFunction function))) ∨
      f.Callable ∧
        ((∃ failure, compileAll source env f.children = .error failure ∧
            f.compile source env = .error failure) ∨
          ∃ es r, compileAll source env f.children = .ok es ∧ Rule env f es r ∧
            f.compile source env = placed source f.span r) := by
  by_cases hf : f.Callable
  · refine .inr ⟨hf, ?_⟩
    cases hes : compileAll source env f.children with
    | error failure => exact .inl ⟨failure, rfl, compile_of_below hf hes⟩
    | ok es =>
      obtain ⟨r, hr⟩ := exists_rule hes
      exact .inr ⟨es, r, rfl, hr, compile_of_rule hf hes hr⟩
  · cases f with
    | call function args s =>
      have hunknown : Signature.isKnownFunction function = false := by
        simpa [Callable] using hf
      refine .inl ⟨function, args, s, rfl, hunknown, ?_⟩
      unfold compile
      rw [hunknown]
      rfl
    | whole | real | name | binary | signed | component => exact absurd trivial hf

theorem placed_eq_error {α : Type} {span : Span} {r : Except Fault α} {failure : Failure}
    (h : placed source span r = .error failure) :
    ∃ fault, r = .error fault ∧ failure = .at source span fault := by
  cases r with
  | ok a => cases h
  | error fault => exact ⟨fault, rfl, (Except.error.inj h).symm⟩

theorem placed_eq_ok {α : Type} {span : Span} {r : Except Fault α} {a : α}
    (h : placed source span r = .ok a) : r = .ok a := by
  cases r with
  | ok b => exact congrArg _ (Except.ok.inj h)
  | error fault => cases h

/-- A formula that compiles is what its rule gives over what the formulas below it become. -/
theorem exists_rule_of_compile {f : Formula} {e : Expr} (h : f.compile source env = .ok e) :
    f.Callable ∧ ∃ es, compileAll source env f.children = .ok es ∧ Rule env f es (.ok e) := by
  rcases compile_cases source env f with
    ⟨_, _, _, -, -, hf⟩ | ⟨hcallable, ⟨_, -, hf⟩ | ⟨es, r, hes, hr, hf⟩⟩
  · rw [hf] at h
    cases h
  · rw [hf] at h
    cases h
  · rw [hf] at h
    obtain rfl := placed_eq_ok h
    exact ⟨hcallable, es, hes, hr⟩

/-! ## 3. The node that fails -/

/-- A node that fails makes the formula fail, with the fault of the node at the node's place. -/
theorem FailsAt.compile_eq {f : Formula} {path : List Nat} {fault : Fault}
    (h : FailsAt source env f path fault) :
    ∃ node, f.node? path = some node ∧
      f.compile source env = .error (.at source node.span fault) := by
  induction h with
  | @function function args s h =>
    refine ⟨_, rfl, ?_⟩
    unfold compile
    rw [h]
    rfl
  | @inside f child i es path fault hf hi hbefore _ ih =>
    obtain ⟨node, hnode, hchild⟩ := ih
    refine ⟨node, (node?_cons hi path).trans hnode, compile_of_below hf ?_⟩
    exact compileAll_eq_error_iff.2 ⟨i, child, es, hi, hbefore, hchild⟩
  | @own f es fault hf hes hr => exact ⟨f, rfl, compile_of_rule hf hes hr⟩

/-- A formula that fails to compile fails at a node. -/
theorem exists_failsAt {f : Formula} {failure : Failure}
    (h : f.compile source env = .error failure) :
    ∃ path fault, FailsAt source env f path fault := by
  induction f using below_induction generalizing failure with
  | step f ih =>
    rcases compile_cases source env f with
      ⟨function, args, s, rfl, hunknown, -⟩ | ⟨hf, ⟨g, hg, -⟩ | ⟨es, r, hes, hr, hcompile⟩⟩
    · exact ⟨[], _, .function hunknown⟩
    · obtain ⟨i, child, es, hi, hes, hchild⟩ := compileAll_eq_error_iff.1 hg
      obtain ⟨path, fault, hpath⟩ := ih child (List.mem_of_getElem? hi) hchild
      exact ⟨i :: path, fault, .inside hf hi hes hpath⟩
    · rw [hcompile] at h
      obtain ⟨fault, rfl, -⟩ := placed_eq_error h
      exact ⟨[], fault, .own hf hes hr⟩

/-- **A formula fails to compile if and only if a node of it fails**, and then with the fault of
    that node at the place of that node. -/
theorem compile_eq_error_iff {f : Formula} {failure : Failure} :
    f.compile source env = .error failure ↔ ∃ path node fault, f.node? path = some node ∧
      FailsAt source env f path fault ∧ failure = .at source node.span fault := by
  constructor
  · intro h
    obtain ⟨path, fault, hpath⟩ := exists_failsAt h
    obtain ⟨node, hnode, hcompile⟩ := hpath.compile_eq
    rw [hcompile] at h
    exact ⟨path, node, fault, hnode, hpath, (Except.error.inj h).symm⟩
  · rintro ⟨path, node, fault, hnode, hpath, rfl⟩
    obtain ⟨node', hnode', hcompile⟩ := hpath.compile_eq
    obtain rfl : node = node' := Option.some.inj (hnode.symm.trans hnode')
    exact hcompile

/-! ## 4. Related environments -/

section Alike

variable {same : Fault → Fault → Prop} {R : Expr → Expr → Prop} {env' : Environment}

theorem Related.subset {as bs : List String} (h : Related R bs env env') (hsub : as ⊆ bs) :
    Related R as env env' := fun n hn => h n (hsub hn)

theorem readsOfAll_subset {f : Formula} {fs : List Formula} (h : fs ⊆ f.children) :
    readsOfAll fs ⊆ f.reads := by
  rw [readsOfAll_eq]
  intro n hn
  obtain ⟨child, hchild, hn⟩ := List.mem_flatMap.1 hn
  exact reads_subset_of_mem_children (h hchild) hn

/-- Formulas side by side that become expressions do so against related environments. -/
theorem compileAll_ok_of_related (hR : Respected same R) {fs : List Formula} {es : List Expr}
    (hrelated : Related R (readsOfAll fs) env env') (h : compileAll source env fs = .ok es) :
    ∃ es', compileAll source env' fs = .ok es' := by
  have halike := compileAll_alike hR source fs hrelated
  rw [h] at halike
  obtain ⟨es', hes', -⟩ := halike.exists_of_left
  exact ⟨es', hes'⟩

/-- **Against related environments a formula fails at the same node.** -/
theorem FailsAt.alike (hR : Respected same R) {f : Formula} {path : List Nat} {fault : Fault}
    (hrelated : Related R f.reads env env') (h : FailsAt source env f path fault) :
    ∃ fault', FailsAt source env' f path fault' ∧ same fault fault' := by
  induction h with
  | function h => exact ⟨_, .function h, hR.same_refl _⟩
  | @inside f child i es path fault hf hi hbefore _ ih =>
    have hchild := reads_subset_of_mem_children (List.mem_of_getElem? hi)
    obtain ⟨fault', hpath, hsame⟩ := ih (hrelated.subset hchild)
    have htake := readsOfAll_subset (f := f) (List.take_subset i f.children)
    obtain ⟨es', hbefore'⟩ := compileAll_ok_of_related hR (hrelated.subset htake) hbefore
    exact ⟨fault', .inside hf hi hbefore' hpath, hsame⟩
  | @own f es fault hf hes hr =>
    have hbelow := readsOfAll_subset (f := f) (List.Subset.refl _)
    obtain ⟨es', hes'⟩ := compileAll_ok_of_related hR (hrelated.subset hbelow) hes
    obtain ⟨r', hr'⟩ := exists_rule hes'
    have halike := compile_alike hR source f hrelated
    rw [compile_of_rule hf hes hr, compile_of_rule hf hes' hr'] at halike
    -- the same node's rule is asked on both sides, so both fail by their own fault
    cases r' with
    | ok e => cases halike
    | error fault' =>
      obtain _ | ⟨-, hsame⟩ := halike
      exact ⟨fault', .own hf hes' hr', by simpa using hsame⟩

end Alike

end Formula

end VisualScale
