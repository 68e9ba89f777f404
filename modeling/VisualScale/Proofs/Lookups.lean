import VisualScale.Formula.Compile
import VisualScale.Formula.Names

/-!
# The names that are looked up

Compiling asks its environment for names, and for nothing else. So it can be given any way of
finding names, in any monad (`Formula.compileVia`), and among them one that notes down which names
it was asked for (`Formula.noting`).

* `Formula.notes_compileVia` -- noting names down changes nothing about the result, and the names
  that are looked up are those that the formula reads, from left to right: all of them if it
  compiles, and otherwise the first ones.
-/

namespace VisualScale

namespace Formula

/-! ## 1. Compiling with any way of finding names -/

section

variable {m : Type → Type} [Monad m]

mutual

/-- The expression of a formula of a source, whose names are found in a monad. -/
def compileVia (source : String) (find : String → m (Option Expr)) :
    Formula → ExceptT Failure m Expr
  | whole n s => ofExcept (placed source s (wholeConstant n))
  | real d _ => pure (.const (.literal (.scalar (.float d))) .float)
  | name id s => do
    match ← find id with
    | some e => pure e
    | none => throw (.at source s (.unknownIdentifier id))
  | binary op left right s => do
    let l ← left.compileVia source find
    let r ← right.compileVia source find
    ofExcept (placed source s (Build.binaryNode op.symbol l r))
  | signed sign operand s => do
    let e ← operand.compileVia source find
    ofExcept (placed source s (signNode sign e))
  | call function args s =>
    if Signature.isKnownFunction function then do
      let es ← compileAllVia source find args
      ofExcept (placed source s (Build.callNode function es))
    else throw (.at source s (.unknownFunction function))
  | component value field s => do
    let e ← value.compileVia source find
    ofExcept (placed source s (componentNode e field))

/-- The expressions of formulas side by side, whose names are found in a monad. -/
def compileAllVia (source : String) (find : String → m (Option Expr)) :
    List Formula → ExceptT Failure m (List Expr)
  | [] => pure []
  | f :: rest => do
    let e ← f.compileVia source find
    let es ← compileAllVia source find rest
    return e :: es

end

end

/-- Finding a name in an environment, and noting down that it was asked for. -/
def noting (env : Environment) (id : String) : StateM (List String) (Option Expr) := do
  modify (· ++ [id])
  return env.find? id

/-! ## 2. What is noted down -/

section

variable {α β : Type}

/-- A run comes to a result and notes down names: the first of those that are given, behind what was
    noted before, and all of them if the result is a value. -/
def Notes (run : ExceptT Failure (StateM (List String)) α) (r : Except Failure α)
    (names : List String) : Prop :=
  ∀ noted, ∃ looked, looked <+: names ∧ (∀ a, r = .ok a → looked = names) ∧
    run.run.run noted = (r, noted ++ looked)

theorem notes_ofExcept (r : Except Failure α) : Notes (ofExcept r) r [] := by
  intro noted
  refine ⟨[], List.prefix_rfl, fun _ _ => rfl, ?_⟩
  rw [List.append_nil]
  cases r with
  | ok a => rfl
  | error f => rfl

/-- One run after another notes down the names of both. -/
theorem Notes.bind {run : ExceptT Failure (StateM (List String)) α} {r : Except Failure α}
    {names names' : List String} {k : α → ExceptT Failure (StateM (List String)) β}
    {r' : α → Except Failure β} (h : Notes run r names) (hk : ∀ a, Notes (k a) (r' a) names') :
    Notes (run >>= k) (r >>= r') (names ++ names') := by
  intro noted
  obtain ⟨looked, hprefix, hall, hrun⟩ := h noted
  have hbind : (run >>= k).run.run noted = match run.run.run noted with
      | (.ok a, noted') => (k a).run.run noted'
      | (.error f, noted') => (.error f, noted') := by
    rw [ExceptT.run_bind, StateT.run_bind]
    rcases run.run.run noted with ⟨_ | _, _⟩
    · rfl
    · rfl
  rw [hbind, hrun]
  cases r with
  | error f => exact ⟨looked, hprefix.trans (List.prefix_append _ _), nofun, rfl⟩
  | ok a =>
    obtain rfl := hall a rfl
    obtain ⟨looked', hprefix', hall', hrun'⟩ := hk a (noted ++ looked)
    refine ⟨looked ++ looked', (List.prefix_append_right_inj _).2 hprefix', ?_, ?_⟩
    · exact fun b hb => congrArg (looked ++ ·) (hall' b hb)
    · rw [← List.append_assoc]
      exact hrun'

/-- A rule that follows notes down nothing. -/
theorem Notes.thenRule {run : ExceptT Failure (StateM (List String)) α} {r : Except Failure α}
    {names : List String} (h : Notes run r names) (rule : α → Except Failure β) :
    Notes (run >>= fun a => ofExcept (rule a)) (r >>= rule) names := by
  rw [← List.append_nil names]
  exact h.bind fun a => notes_ofExcept (rule a)

end

/-! ## 3. What compiling looks up -/

variable (source : String) (env : Environment)

theorem notes_name (id : String) (s : Span) :
    Notes ((name id s).compileVia source (noting env)) ((name id s).compile source env) [id] := by
  intro noted
  refine ⟨[id], List.prefix_rfl, fun _ _ => rfl, ?_⟩
  unfold compile compileVia noting
  generalize env.find? id = found
  cases found with
  | some e => rfl
  | none => rfl

mutual

/-- **Compiling looks up the names that the formula reads, from left to right.** -/
theorem notes_compileVia (f : Formula) :
    Notes (f.compileVia source (noting env)) (f.compile source env) f.reads := by
  cases f with
  | whole n s | real d s =>
    unfold compile compileVia
    exact notes_ofExcept _
  | name id s => exact notes_name source env id s
  | binary op left right s =>
    unfold compile compileVia reads
    exact (notes_compileVia left).bind fun l => (notes_compileVia right).thenRule _
  | signed sign operand s | component operand field s =>
    unfold compile compileVia reads
    exact (notes_compileVia operand).thenRule _
  | call function args s =>
    unfold compile compileVia reads
    split
    · exact (notes_compileAllVia args).thenRule _
    · intro noted
      refine ⟨[], List.nil_prefix, nofun, ?_⟩
      rw [List.append_nil]
      rfl

theorem notes_compileAllVia (fs : List Formula) :
    Notes (compileAllVia source (noting env) fs) (compileAll source env fs) (readsOfAll fs) := by
  cases fs with
  | nil =>
    unfold compileAll compileAllVia readsOfAll
    exact notes_ofExcept (.ok [])
  | cons f rest =>
    unfold compileAll compileAllVia readsOfAll
    exact (notes_compileVia f).bind fun e => (notes_compileAllVia rest).thenRule (.ok <| e :: ·)

end

end Formula

end VisualScale
