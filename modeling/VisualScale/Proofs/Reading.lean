import VisualScale.Proofs.Failing
import VisualScale.Proofs.Table

/-!
# What a formula reads

The names that a formula lists are what compiling looks up in the environment: all of them must be
there, nothing else is looked at, and none of them can be left out. The names are listed by their
depth in the tree, and compiling looks them up from left to right until something fails, so the two
are compared as sets.

* `Formula.compile_congr` -- what a formula does not read makes no difference;
* `Formula.failsAt_without` -- without a name that it reads, a formula that compiled fails at a node
  that is this name;
* `ParsedFormula.compile_names` -- the listed names and compiling, put together.
-/

namespace VisualScale

namespace Formula

variable {source : String} {env env' : Environment}

/-! ## 1. Names that are not read -/

theorem alike_refl (r : Except Fault Expr) : Alike Eq Eq r r := by
  cases r with
  | ok e => exact .ok rfl
  | error fault => exact .error rfl

/-- Every rule gives the same for the same expressions. -/
theorem respected_eq : Respected Eq Eq where
  same_refl _ := rfl
  same_kind h := congrArg Fault.kind h
  number _ := rfl
  binary op _ _ _ _ hl hr := by
    rw [hl, hr]
    exact alike_refl _
  signed sign _ _ he := by
    rw [he]
    exact alike_refl _
  call function _ _ hes := by
    rw [List.forall₂_eq_eq_eq] at hes
    rw [hes]
    exact alike_refl _
  component field _ _ he := by
    rw [he]
    exact alike_refl _

/-- What is alike by being equal is equal. -/
theorem eq_of_alike {α : Type} {x y : Except Failure α} (h : Alike (Failure.SameBy Eq) Eq x y) :
    x = y := by
  obtain rfl | ⟨hsite, hfault⟩ := h
  · rfl
  · exact congrArg Except.error (Failure.mk.injEq .. ▸ ⟨hfault, hsite⟩)

theorem related_eq {names : List String} (h : ∀ n ∈ names, env.find? n = env'.find? n) :
    Related Eq names env env' := by
  intro n hn
  rw [h n hn]
  cases env'.find? n with
  | none => exact .none
  | some e => exact .some rfl

/-- **What a formula does not read makes no difference.** -/
theorem compile_congr {f : Formula} (h : ∀ n ∈ f.reads, env.find? n = env'.find? n) :
    f.compile source env = f.compile source env' :=
  eq_of_alike (compile_alike respected_eq source f (related_eq h))

theorem compileAll_congr {fs : List Formula}
    (h : ∀ n ∈ readsOfAll fs, env.find? n = env'.find? n) :
    compileAll source env fs = compileAll source env' fs := by
  have halike := compileAll_alike respected_eq source fs (related_eq h)
  rw [List.forall₂_eq_eq_eq] at halike
  exact eq_of_alike halike

/-! ## 2. Names that are read -/

/-- Of formulas side by side that read a name, there is a first one. -/
theorem exists_first_reader {n : String} {fs : List Formula} (h : n ∈ readsOfAll fs) :
    ∃ i child, fs[i]? = some child ∧ n ∈ child.reads ∧ n ∉ readsOfAll (fs.take i) := by
  induction fs with
  | nil => cases h
  | cons f rest ih =>
    by_cases hf : n ∈ f.reads
    · exact ⟨0, f, rfl, hf, List.not_mem_nil⟩
    · obtain ⟨i, child, hi, hchild, hbefore⟩ := ih ((List.mem_append.1 h).resolve_left hf)
      refine ⟨i + 1, child, hi, hchild, fun hn => ?_⟩
      exact (List.mem_append.1 hn).elim hf hbefore

theorem find?_without_of_ne {n m : String} (h : m ≠ n) :
    env.find? m = (env.without n).find? m := by
  rw [Table.find?_without, if_neg h]

/-- **Without a name that it reads, a formula that compiled fails at a node that is this name.**
    What stands before the first such node does not read the name, and compiles as before. -/
theorem failsAt_without {f : Formula} {e : Expr} {n : String}
    (h : f.compile source env = .ok e) (hn : n ∈ f.reads) :
    ∃ path span, f.node? path = some (.name n span) ∧
      FailsAt source (env.without n) f path (.unknownIdentifier n) := by
  induction f using below_induction generalizing e with
  | step f ih =>
    obtain ⟨hf, es, hes, -⟩ := exists_rule_of_compile h
    rcases f.name_cases with ⟨id, span, rfl⟩ | hno
    · obtain rfl := List.mem_singleton.1 hn
      have hnone : (env.without n).find? n = none := by
        rw [Table.find?_without, if_pos rfl]
      exact ⟨[], span, rfl, .own trivial rfl (.unbound span hnone)⟩
    · rw [reads_eq_readsOfAll hno] at hn
      obtain ⟨i, child, hi, hread, hbefore⟩ := exists_first_reader hn
      have htake : compileAll source env (f.children.take i) = .ok (es.take i) :=
        compileAll_eq_ok_iff.2 (List.forall₂_take i (compileAll_eq_ok_iff.1 hes))
      have hsame : ∀ m ∈ readsOfAll (f.children.take i), env.find? m = (env.without n).find? m :=
        fun m hm => find?_without_of_ne fun hmn => hbefore (hmn ▸ hm)
      rw [compileAll_congr hsame] at htake
      have hmem := List.mem_of_getElem? hi
      obtain ⟨e', he'⟩ := exists_of_compileAll hes hmem
      obtain ⟨path, span, hpath, hfails⟩ := ih child hmem he' hread
      exact ⟨i :: path, span, (node?_cons hi path).trans hpath, .inside hf hi htake hfails⟩

end Formula

/-- **The names of a formula are exactly what compiling looks up.** If a formula compiles, the
    environment has an entry for each of its names. Two environments that agree on the names give
    the same expression or the same failure. If a formula compiles, then without the entry of any
    one of its names it fails at a node that is this name, because the name is unknown. And the names
    are those among the nodes, each listed once; so a name that is only called is not listed, and
    one that is called and stands for a value as well is. -/
theorem ParsedFormula.compile_names (p : ParsedFormula) :
    (∀ env e, p.compile env = .ok e → ∀ n ∈ p.formula.names, (env.find? n).isSome = true) ∧
    (∀ env env' : Environment, (∀ n ∈ p.formula.names, env.find? n = env'.find? n) →
      p.compile env = p.compile env') ∧
    (∀ env e, p.compile env = .ok e → ∀ n ∈ p.formula.names, ∃ path span,
      p.formula.node? path = some (.name n span) ∧
        p.compile (env.without n) = .error (.at p.source span (.unknownIdentifier n))) ∧
    (∀ n, n ∈ p.formula.names ↔ p.formula.Uses n) ∧ p.formula.names.Nodup := by
  have hreads (n : String) : n ∈ p.formula.names ↔ n ∈ p.formula.reads := p.formula.mem_names n
  refine ⟨fun env e h n hn => ?_, fun env env' h => ?_, fun env e h n hn => ?_,
    p.formula.mem_names_iff, p.formula.nodup_names⟩
  · exact Formula.isSome_of_compile p.formula h n ((hreads n).1 hn)
  · exact Formula.compile_congr fun n hn => h n ((hreads n).2 hn)
  · obtain ⟨path, span, hpath, hfails⟩ := Formula.failsAt_without h ((hreads n).1 hn)
    obtain ⟨node, hnode, hcompile⟩ := hfails.compile_eq
    obtain rfl := Option.some.inj (hnode.symm.trans hpath)
    exact ⟨path, span, hpath, hcompile⟩

/-- The logarithm is only called; the minimum is called, and its name stands for a value as well. -/
example : (Formula.call "min" [.name "min" default, .call "log" [.name "a" default] default]
    default).names = ["min", "a"] := by decide

end VisualScale
