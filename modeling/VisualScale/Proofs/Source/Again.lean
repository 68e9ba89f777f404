import VisualScale.Proofs.Resolution.Leaves
import VisualScale.Proofs.Source.Reread

/-!
# What is written of a formula is read again

A formula that is compiled against variables of its own names, and written, is a text again; and
that is a formula unless it nests too many brackets (`ParsedFormula.source_reread_iff`). The text
has a pair of brackets for each operation and sign, where the formula may have had none. So a
formula can be accepted, and what is written of it refused (`ParsedFormula.exists_not_reread`).
-/

namespace VisualScale

open Lexer

namespace ParsedFormula

variable {text out : String} {p : ParsedFormula} {env : Environment} {e : Expr}

/-- Compiled against variables of its own names, a formula has them as its leaves. -/
theorem exists_mem_names_of_leaf (henv : ∀ n ∈ p.formula.names, ∃ t, env.find? n = some (.var n t))
    (he : p.compile env = .ok e) {l : Expr} (hl : l ∈ e.leaves) :
    ∃ n ∈ p.formula.names, l.leafName = n := by
  rw [Formula.leaves_compile he, List.mem_flatMap] at hl
  obtain ⟨n, hn, hl⟩ := hl
  have hn := (p.formula.mem_names n).2 hn
  obtain ⟨t, hfound⟩ := henv n hn
  obtain ⟨e', he', hl⟩ := Formula.mem_leavesOf.1 hl
  obtain rfl := Option.some.inj (hfound.symm.trans he')
  exact ⟨n, hn, List.mem_singleton.1 hl ▸ rfl⟩

/-- **What is written of a formula is a formula again exactly if there is room for its brackets.**
    The formula may be any, compiled against variables of its own names, none of them a reserved
    word. -/
theorem source_reread_iff (hp : ofText text = .ok p)
    (henv : ∀ n ∈ p.formula.names, ∃ t, env.find? n = some (.var n t))
    (hkey : ∀ n ∈ p.formula.names, isKeyword n.toList = false) (he : p.compile env = .ok e)
    (hout : e.source = .ok out) : (∃ q, ofText out = .ok q) ↔ Room 0 out.toList := by
  have hformed : e.Formed := by
    refine Formula.compile_keeps_of_reads Expr.keptByRules_formed (fun n hn a ha => ?_) he
    obtain ⟨t, hfound⟩ := henv n ((p.formula.mem_names n).2 hn)
    obtain rfl := Option.some.inj (hfound.symm.trans ha)
    exact .var n t
  have hidentifiers : ∀ l ∈ e.leaves, Text.isIdentifier l.leafName.toList = true := by
    intro l hl
    obtain ⟨n, hn, rfl⟩ := exists_mem_names_of_leaf henv he hl
    exact isIdentifier_of_reads hp ((p.formula.mem_names _).1 hn)
  have hkeywords : ∀ l ∈ e.leaves, isKeyword l.leafName.toList = false := by
    intro l hl
    obtain ⟨n, hn, rfl⟩ := exists_mem_names_of_leaf henv he hl
    exact hkey _ hn
  rw [(hformed.ofText_source hidentifiers hout).2]
  exact and_iff_left hkeywords

/-- The opposite of a variable is written with brackets, and read again. -/
theorem source_reread_opposite :
    let x : Expr := .var "x" .float
    ∃ p, ofText "-x" = .ok p ∧ p.compile [("x", x)] = .ok (.unary "-" x .float) ∧
      (Expr.unary "-" x .float).source = .ok "(-x)" ∧
      ((∃ q, ofText "(-x)" = .ok q) ↔ Room 0 "(-x)".toList) := by
  intro x
  have hp : ofText "-x" = .ok ⟨"-x", .signed .minus (.name "x" ⟨⟨1, 1⟩, ⟨1, 2⟩⟩)
    ⟨⟨1, 0⟩, ⟨1, 2⟩⟩⟩ := rfl
  have he : ParsedFormula.compile ⟨"-x", .signed .minus (.name "x" ⟨⟨1, 1⟩, ⟨1, 2⟩⟩)
    ⟨⟨1, 0⟩, ⟨1, 2⟩⟩⟩ [("x", x)] = .ok (.unary "-" x .float) := rfl
  have hout : (Expr.unary "-" x .float).source = .ok "(-x)" := rfl
  refine ⟨_, hp, he, hout, source_reread_iff hp (fun n hn => ?_) (fun n hn => ?_) he hout⟩
  · obtain rfl : n = "x" := by simpa [Formula.mem_names, Formula.reads] using hn
    exact ⟨.float, rfl⟩
  · obtain rfl : n = "x" := by simpa [Formula.mem_names, Formula.reads] using hn
    decide

/-- A variable behind minus signs. -/
def opposites (n : Nat) : List Char := List.replicate n '-' ++ ['x']

/-- What is written of it: a pair of brackets for each sign. -/
def oppositesSource (n : Nat) : List Char :=
  (List.replicate n ['(', '-']).flatten ++ 'x' :: List.replicate n ')'

-- the texts have some hundred characters
set_option maxRecDepth 10000 in
/-- A variable behind 201 minus signs is accepted, and what is written of it is refused. -/
theorem exists_not_reread : ∃ (text out : String) (p : ParsedFormula) (e : Expr),
    ofText text = .ok p ∧ p.formula.names = ["x"] ∧
      p.compile [("x", .var "x" .float)] = .ok e ∧ e.source = .ok out ∧
      ¬ ∃ q, ofText out = .ok q := by
  have hchain : ((ofText (.ofList (opposites 201))).toOption.bind fun p =>
      (p.compile [("x", .var "x" .float)]).toOption.bind fun e =>
        if p.formula.names = ["x"] then e.sourceChars.toOption else none) =
      some (oppositesSource 201) := by
    unfold ofText
    rw [String.toList_ofList]
    decide +kernel
  obtain ⟨p, hp, hchain⟩ := Option.bind_eq_some_iff.1 hchain
  obtain ⟨e, he, hchain⟩ := Option.bind_eq_some_iff.1 hchain
  obtain ⟨hnames, hsource⟩ := Option.ite_none_right_eq_some.1 hchain
  have hrefused : (ofText (.ofList (oppositesSource 201))).toOption.isNone = true := by
    unfold ofText
    rw [String.toList_ofList]
    decide +kernel
  have hout : e.source = .ok (.ofList (oppositesSource 201)) := by
    unfold Expr.source
    rw [toOption_eq_some_iff.1 hsource]
    rfl
  refine ⟨_, _, p, e, toOption_eq_some_iff.1 hp, hnames, toOption_eq_some_iff.1 he, hout, ?_⟩
  rintro ⟨q, hq⟩
  rw [hq] at hrefused
  cases hrefused

end ParsedFormula

end VisualScale
