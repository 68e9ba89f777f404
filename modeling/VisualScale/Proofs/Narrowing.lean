import VisualScale.Proofs.Failing
import VisualScale.Proofs.Table

/-!
# Formulas over whole numbers in the place of floats

Where a float is asked for, a whole number may come. So a formula can be compiled against two
environments, one of which has whole numbers where the other one has floats
(`Environment.StandsFor`). No rule tells the two apart but in the type that it gives: the runs
either both give expressions, and the type of the first stands for that of the second, or both fail,
at the same node and for the same reason (`ParsedFormula.compile_standsFor`).
-/

namespace VisualScale

/-- Two environments have the same names, and the expression of each name in the first one has the
    type that it has in the second one, or is a whole number where that is a float. -/
def Environment.StandsFor (s t : Environment) : Prop :=
  ∀ n, Option.Rel Expr.TypeStandsFor (s.find? n) (t.find? n)

namespace ParsedFormula

variable {s t : Environment}

/-- The two runs are alike. -/
theorem compile_alike_of_standsFor (p : ParsedFormula) (h : s.StandsFor t) :
    Alike (Failure.SameBy Fault.SameReason) Expr.TypeStandsFor (p.compile s) (p.compile t) :=
  Formula.compile_alike respected_typeStandsFor p.source p.formula fun n _ => h n

/-- **Whole numbers can stand for floats everywhere in a formula.** Against environments whose types
    stand for one another, a formula gives an expression in both runs or in none. If it does, the
    first type stands for the second. If not, both runs fail at the same node, for the same
    reason. -/
theorem compile_standsFor (p : ParsedFormula) (h : s.StandsFor t) :
    ((∃ e, p.compile s = .ok e) ↔ ∃ e, p.compile t = .ok e) ∧
    (∀ e e', p.compile s = .ok e → p.compile t = .ok e' →
      e.valueType.StandsFor e'.valueType) ∧
    ∀ f g, p.compile s = .error f → p.compile t = .error g →
      ∃ path node fault fault', p.formula.node? path = some node ∧
        p.formula.FailsAt p.source s path fault ∧ f = .at p.source node.span fault ∧
        p.formula.FailsAt p.source t path fault' ∧ g = .at p.source node.span fault' ∧
        fault.SameReason fault' := by
  have halike := p.compile_alike_of_standsFor h
  refine ⟨⟨fun ⟨e, he⟩ => ?_, fun ⟨e, he⟩ => ?_⟩, fun e e' he he' => ?_, fun f g hf hg => ?_⟩
  · rw [he] at halike
    obtain ⟨e', he', -⟩ := halike.exists_of_left
    exact ⟨e', he'⟩
  · rw [he] at halike
    obtain ⟨e', he', -⟩ := halike.exists_of_right
    exact ⟨e', he'⟩
  · rw [he, he'] at halike
    obtain ⟨htype⟩ := halike
    exact htype
  · obtain ⟨path, node, fault, hnode, hfails, rfl⟩ := Formula.compile_eq_error_iff.1 hf
    obtain ⟨fault', hfails', hreason⟩ :=
      hfails.alike respected_typeStandsFor fun n _ => h n
    have hplace : ∃ path node fault, p.formula.node? path = some node ∧
        p.formula.FailsAt p.source t path fault ∧ _ = Failure.at p.source node.span fault :=
      ⟨path, node, fault', hnode, hfails', rfl⟩
    have hcompile : p.compile t = .error _ := Formula.compile_eq_error_iff.2 hplace
    rw [hg] at hcompile
    exact ⟨path, node, fault, fault', hnode, hfails, rfl, hfails', Except.error.inj hcompile,
      hreason⟩

/-- The opposite of the length of a product that is a whole number, or a float: neither has a
    length. -/
theorem compile_standsFor_length :
    let n : Formula := .name "n" default
    let p : ParsedFormula := ⟨"-length(n * n)",
      .signed .minus (.call "length" [.binary .mul n n default] default) default⟩
    let s : Environment := [("n", .column "n" .int)]
    let t : Environment := [("n", .column "n" .float)]
    s.StandsFor t ∧ ∃ f g, p.compile s = .error f ∧ p.compile t = .error g ∧
      ∃ path node fault fault', p.formula.node? path = some node ∧
        p.formula.FailsAt p.source s path fault ∧ f = .at p.source node.span fault ∧
        p.formula.FailsAt p.source t path fault' ∧ g = .at p.source node.span fault' ∧
        fault.SameReason fault' := by
  intro n p s t
  have h : s.StandsFor t := Table.find?_rel (.cons ⟨rfl, .inr ⟨rfl, rfl⟩⟩ .nil)
  exact ⟨h, _, _, rfl, rfl, (p.compile_standsFor h).2.2 _ _ rfl rfl⟩

end ParsedFormula

end VisualScale
