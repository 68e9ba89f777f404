import Mathlib.Data.List.Forall2
import VisualScale.Formula.Parsed
import VisualScale.Proofs.Meaning.Evaluation
import VisualScale.Proofs.Signature
import VisualScale.Proofs.Table
import VisualScale.Proofs.Typing

/-!
# No formula gets stuck

What compiles evaluates. Against variables that stand for values of their types, a formula that
compiles gives a value of the type that it was found to have (`ParsedFormula.exists_eval`), whatever
the numbers are computed with. Each rule keeps this, because the sorts of operands that a rule is
defined for are those for which the evaluation is:

* `exists_broadcast`, `exists_call` -- an operation, or a call, on values of types that the rule
  takes gives a value of the type that the rule gives;
* `keptByRules_evaluates` -- so every rule builds nodes that evaluate from nodes that do.
-/

namespace VisualScale

open Signature

variable {K : Type} {N : NumberSystem K}

/-! ## 1. Quantities of the sorts of types -/

namespace Quantity

theorem HasType.exists_number {v : Quantity K} {t : ValueType} (h : v.HasType N t)
    (ht : t.isNumeric = true) : ∃ x, v = .number x := by
  cases h with
  | float x => exact ⟨x, rfl⟩
  | int _ => exact ⟨_, rfl⟩
  | bool _ => cases ht
  | tuple hv _ => exact absurd ⟨ht, hv⟩ t.not_numeric_and_vectorLike

theorem HasType.exists_tuple {v : Quantity K} {t : ValueType} (h : v.HasType N t)
    (ht : t.isVectorLike = true) : ∃ xs, v = .tuple xs ∧ xs.length = t.components.length := by
  cases h with
  | float | int _ | bool _ => exact absurd ht (by decide)
  | tuple _ hl => exact ⟨_, rfl, hl⟩

/-- Values of numeric types are numbers. -/
theorem exists_numbers {vs : List (Quantity K)} {types : List ValueType}
    (h : List.Forall₂ (HasType N) vs types) (ht : ∀ t ∈ types, t.isNumeric = true) :
    ∃ xs : List K, vs = xs.map .number ∧ xs.length = types.length := by
  induction h with
  | nil => exact ⟨[], rfl, rfl⟩
  | @cons v t vs types hv _ ih =>
    obtain ⟨hfirst, hrest⟩ := List.forall_mem_cons.1 ht
    obtain ⟨x, rfl⟩ := hv.exists_number hfirst
    obtain ⟨xs, rfl, hlength⟩ := ih hrest
    exact ⟨x :: xs, rfl, congrArg (· + 1) hlength⟩

@[simp] theorem numbers?_map_number (xs : List K) : numbers? (xs.map .number) = some xs := by
  induction xs with
  | nil => rfl
  | cons x xs ih =>
    show (numbers? (xs.map .number) >>= fun ys => some (x :: ys)) = _
    rw [ih]
    rfl

/-- Two tuples of one type go together component by component. -/
theorem zip_tuple (f : K → K → K) {xs ys : List K} {t : ValueType} (ht : t.isVectorLike = true)
    (hx : xs.length = t.components.length) (hy : ys.length = t.components.length) :
    ∃ u, (tuple xs).zip f (.tuple ys) = some u ∧ u.HasType N t := by
  have hsame : xs.length = ys.length := hx.trans hy.symm
  refine ⟨.tuple (List.zipWith f xs ys), if_pos hsame, .tuple ht ?_⟩
  rw [List.length_zipWith, ← hsame, Nat.min_self, hx]

/-- A function of a number keeps the type of its argument, unless that is a whole number. -/
theorem exists_map (f : K → K) {v : Quantity K} {a t : ValueType} (hv : v.HasType N a)
    (h : CommonSort [a] t) : ∃ u, v.map f = some u ∧ u.HasType N t := by
  cases h with
  | numbers hn =>
    obtain ⟨x, rfl⟩ := hv.exists_number (hn a List.mem_cons_self)
    exact ⟨_, rfl, .float _⟩
  | alike ha _ =>
    obtain ⟨xs, rfl, hl⟩ := hv.exists_tuple ha
    exact ⟨_, rfl, .tuple ha ((List.length_map f).trans hl)⟩

/-- A function of two numbers keeps the type that its arguments share. -/
theorem exists_zip (f : K → K → K) {v w : Quantity K} {a b t : ValueType} (hv : v.HasType N a)
    (hw : w.HasType N b) (h : CommonSort [a, b] t) : ∃ u, v.zip f w = some u ∧ u.HasType N t := by
  cases h with
  | numbers hn =>
    obtain ⟨ha, hb⟩ := List.forall_mem_cons.1 hn
    obtain ⟨x, rfl⟩ := hv.exists_number ha
    obtain ⟨y, rfl⟩ := hw.exists_number (hb b List.mem_cons_self)
    exact ⟨_, rfl, .float _⟩
  | alike ha hrest =>
    obtain rfl := hrest b List.mem_cons_self
    obtain ⟨xs, rfl, hx⟩ := hv.exists_tuple ha
    obtain ⟨ys, rfl, hy⟩ := hw.exists_tuple ha
    exact zip_tuple f ha hx hy

/-- **An operation on values of types that an operator takes gives a value of the type that the
    operator gives.** -/
theorem exists_broadcast {op : Operator} {v w : Quantity K} {a b t : ValueType}
    (hv : v.HasType N a) (hw : w.HasType N b) (h : OperatorSort op.symbol a b t) :
    ∃ u, v.broadcast (N.operate op) w = some u ∧ u.HasType N t := by
  cases h with
  | whole hop =>
    obtain _ | ⟨hx⟩ := hv
    · obtain _ | ⟨hy⟩ := hw
      · have hdiv : op ≠ .div := fun h => hop (h ▸ rfl)
        exact ⟨_, rfl, .int (N.isWhole_operate hdiv hx hy)⟩
      · next ht _ => exact absurd ht (by decide)
    · next ht _ => exact absurd ht (by decide)
  | numbers ha hb =>
    obtain ⟨x, rfl⟩ := hv.exists_number ha
    obtain ⟨y, rfl⟩ := hw.exists_number hb
    exact ⟨_, rfl, .float _⟩
  | alike ha =>
    obtain ⟨xs, rfl, hx⟩ := hv.exists_tuple ha
    obtain ⟨ys, rfl, hy⟩ := hw.exists_tuple ha
    exact zip_tuple _ ha hx hy
  | scaled _ ha hb =>
    obtain ⟨xs, rfl, hx⟩ := hv.exists_tuple ha
    obtain ⟨y, rfl⟩ := hw.exists_number hb
    exact ⟨_, rfl, .tuple ha ((List.length_map _).trans hx)⟩
  | scaling _ ha hb =>
    obtain ⟨x, rfl⟩ := hv.exists_number ha
    obtain ⟨ys, rfl, hy⟩ := hw.exists_tuple hb
    exact ⟨_, rfl, .tuple hb ((List.length_map _).trans hy)⟩

end Quantity

namespace NumberSystem

open Quantity

/-- The quantity of a constant has the constant's type. -/
theorem hasType_ofLiteral (N : NumberSystem K) (l : Literal) :
    (N.ofLiteral l).HasType N l.valueType := by
  cases l with
  | scalar s =>
    cases s with
    | bool b => exact .bool b
    | int n => exact .int (N.isWhole_ofInt n)
    | float d => exact .float _
  | vector2 | vector3 | vector4 | color => exact .tuple rfl rfl

variable {vs : List (Quantity K)} {types : List ValueType} {t : ValueType}

/-! ## 2. Calls -/

theorem exists_of_typed_one (h : List.Forall₂ (HasType N) vs types) (hl : types.length = 1) :
    ∃ v a, vs = [v] ∧ types = [a] ∧ v.HasType N a := by
  obtain ⟨a, rfl⟩ := List.length_eq_one_iff.1 hl
  obtain ⟨v, rest, hv, hrest, rfl⟩ := List.forall₂_cons_right_iff.1 h
  obtain rfl := List.forall₂_nil_right_iff.1 hrest
  exact ⟨v, a, rfl, rfl, hv⟩

theorem exists_of_typed_two (h : List.Forall₂ (HasType N) vs types) (hl : types.length = 2) :
    ∃ v w a b, vs = [v, w] ∧ types = [a, b] ∧ v.HasType N a ∧ w.HasType N b := by
  obtain ⟨a, b, rfl⟩ := List.length_eq_two.1 hl
  obtain ⟨v, rest, hv, hrest, rfl⟩ := List.forall₂_cons_right_iff.1 h
  obtain ⟨w, _, rfl, hb, hw⟩ := exists_of_typed_one hrest rfl
  obtain rfl := List.head_eq_of_cons_eq hb
  exact ⟨v, w, a, b, rfl, rfl, hv, hw⟩

theorem exists_of_typed_three (h : List.Forall₂ (HasType N) vs types) (hl : types.length = 3) :
    ∃ u v w a b c, vs = [u, v, w] ∧ types = [a, b, c] ∧ u.HasType N a ∧ v.HasType N b ∧
      w.HasType N c := by
  obtain ⟨a, b, c, rfl⟩ := List.length_eq_three.1 hl
  obtain ⟨u, rest, hu, hrest, rfl⟩ := List.forall₂_cons_right_iff.1 h
  obtain ⟨v, w, _, _, rfl, htypes, hv, hw⟩ := exists_of_typed_two hrest rfl
  obtain ⟨rfl, hc⟩ := List.cons.inj htypes
  obtain rfl := List.head_eq_of_cons_eq hc
  exact ⟨u, v, w, a, b, c, rfl, rfl, hu, hv, hw⟩

/-- As many numbers as a vector or color has components make one; three make a color as well. -/
theorem exists_construct (h : List.Forall₂ (HasType N) vs types)
    (hn : ∀ a ∈ types, a.isNumeric = true) (ht : t.isVectorLike = true)
    (hl : types.length = t.components.length ∨ t = .color ∧ types.length = 3) :
    ∃ u, N.construct t vs = some u ∧ u.HasType N t := by
  obtain ⟨xs, rfl, hlength⟩ := exists_numbers h hn
  unfold construct
  rw [numbers?_map_number]
  refine ⟨_, rfl, .tuple ht ?_⟩
  split
  · next hopaque => rw [List.length_append, hopaque.2, hopaque.1]; rfl
  · next hplain =>
    rcases hl with hl | ⟨hcolor, hl⟩
    · exact hlength.trans hl
    · exact absurd ⟨hcolor, hlength.trans hl⟩ hplain

/-- A function of one number. -/
theorem exists_call_scalar {f : Intrinsic} (h : List.Forall₂ (HasType N) vs types)
    (hl : types.length = 1) (hrule : Intrinsic.ofNumbers f.name .float types = .ok t) :
    ∃ x, vs = [.number x] ∧ t = .float := by
  obtain ⟨rfl, hn⟩ := Intrinsic.ofNumbers_ok hrule
  obtain ⟨v, a, rfl, rfl, hv⟩ := exists_of_typed_one h hl
  obtain ⟨x, rfl⟩ := hv.exists_number (hn a List.mem_cons_self)
  exact ⟨x, rfl, rfl⟩

/-- **A call on values of types that a function takes gives a value of the type that the function
    gives.** -/
theorem exists_call {f : Intrinsic} (h : List.Forall₂ (HasType N) vs types)
    (harity : types.length ∈ f.arities) (hrule : f.rule types = .ok t) :
    ∃ u, N.call f vs = some u ∧ u.HasType N t := by
  cases f with
  | log | exp | sqrt | sin | cos | tan | floor | ceil =>
    obtain ⟨x, rfl, rfl⟩ := exists_call_scalar h (List.mem_singleton.1 harity) hrule
    exact ⟨_, rfl, .float _⟩
  | pow =>
    obtain ⟨rfl, hn⟩ := Intrinsic.ofNumbers_ok hrule
    obtain ⟨v, w, a, b, rfl, rfl, hv, hw⟩ := exists_of_typed_two h (List.mem_singleton.1 harity)
    obtain ⟨ha, hb⟩ := List.forall_mem_cons.1 hn
    obtain ⟨x, rfl⟩ := hv.exists_number ha
    obtain ⟨y, rfl⟩ := hw.exists_number (hb b List.mem_cons_self)
    exact ⟨_, rfl, .float _⟩
  | abs =>
    obtain ⟨v, a, rfl, rfl, hv⟩ := exists_of_typed_one h (List.mem_singleton.1 harity)
    exact exists_map _ hv (Intrinsic.commonSort_of_ok hrule)
  | min | max =>
    obtain ⟨v, w, a, b, rfl, rfl, hv, hw⟩ := exists_of_typed_two h (List.mem_singleton.1 harity)
    exact exists_zip _ hv hw (Intrinsic.commonSort_of_ok hrule)
  | clamp =>
    obtain ⟨v, low, high, a, b, c, rfl, rfl, hv, hlow, hhigh⟩ :=
      exists_of_typed_three h (List.mem_singleton.1 harity)
    obtain ⟨r, hr, hrule⟩ := Outcome.of_bind hrule
    obtain ⟨hbounds, hrt⟩ := Outcome.of_guard hrule
    obtain rfl := Except.ok.inj hrt
    obtain ⟨hb, hc⟩ := List.forall_mem_cons.1 (List.all_eq_true.mp hbounds)
    obtain ⟨x, rfl⟩ := hlow.exists_number hb
    obtain ⟨y, rfl⟩ := hhigh.exists_number (hc c List.mem_cons_self)
    exact exists_map _ hv (Intrinsic.commonSort_of_ok hr)
  | mix =>
    obtain ⟨v, w, p, a, b, c, rfl, rfl, hv, hw, hp⟩ :=
      exists_of_typed_three h (List.mem_singleton.1 harity)
    obtain ⟨hc, hcommon⟩ := Outcome.of_guard hrule
    obtain ⟨x, rfl⟩ := hp.exists_number hc
    exact exists_zip _ hv hw (Intrinsic.commonSort_of_ok hcommon)
  | length =>
    obtain ⟨v, a, rfl, rfl, hv⟩ := exists_of_typed_one h (List.mem_singleton.1 harity)
    obtain ⟨ha, hrt⟩ := Outcome.of_guard hrule
    obtain rfl := Except.ok.inj hrt
    obtain ⟨xs, rfl, -⟩ := hv.exists_tuple (ValueType.isVectorLike_of_isVector ha)
    exact ⟨_, rfl, .float _⟩
  | dot =>
    obtain ⟨v, w, a, b, rfl, rfl, hv, hw⟩ := exists_of_typed_two h (List.mem_singleton.1 harity)
    obtain ⟨hab, hrt⟩ := Outcome.of_guard hrule
    obtain rfl := Except.ok.inj hrt
    obtain ⟨ha, hsame⟩ := Bool.and_eq_true_iff.1 hab
    obtain rfl := eq_of_beq hsame
    have hvector := ValueType.isVectorLike_of_isVector ha
    obtain ⟨xs, rfl, hx⟩ := hv.exists_tuple hvector
    obtain ⟨ys, rfl, hy⟩ := hw.exists_tuple hvector
    exact ⟨_, if_pos (hx.trans hy.symm), .float _⟩
  | normalize =>
    obtain ⟨v, a, rfl, rfl, hv⟩ := exists_of_typed_one h (List.mem_singleton.1 harity)
    obtain ⟨ha, hrt⟩ := Outcome.of_guard hrule
    obtain rfl := Except.ok.inj hrt
    have hvector := ValueType.isVectorLike_of_isVector ha
    obtain ⟨xs, rfl, hx⟩ := hv.exists_tuple hvector
    exact ⟨_, rfl, .tuple hvector ((List.length_map _).trans hx)⟩
  | vector2 | vector3 | vector4 =>
    obtain ⟨rfl, hn⟩ := Intrinsic.ofNumbers_ok hrule
    exact exists_construct h hn rfl (.inl (List.mem_singleton.1 harity))
  | color =>
    obtain ⟨rfl, hn⟩ := Intrinsic.ofNumbers_ok hrule
    refine exists_construct h hn rfl ?_
    rcases List.mem_cons.1 harity with hthree | hfour
    · exact .inr ⟨rfl, hthree⟩
    · exact .inl (List.mem_singleton.1 hfour)

end NumberSystem

/-! ## 3. Expressions -/

/-- The evaluation of an expression is not stuck, and gives a value of the expression's type. -/
def Expr.Evaluates (N : NumberSystem K) (σ : Assignment K) (e : Expr) : Prop :=
  ∃ v, e.eval N σ = some v ∧ v.HasType N e.valueType

section

open VisualScale.Expr

variable {σ : Assignment K}

theorem exists_evalAll {es : List Expr} (h : ∀ e ∈ es, e.Evaluates N σ) :
    ∃ vs, evalAll N σ es = some vs ∧
      List.Forall₂ (Quantity.HasType N) vs (es.map valueType) := by
  induction es with
  | nil => exact ⟨[], rfl, .nil⟩
  | cons e es ih =>
    obtain ⟨hfirst, hrest⟩ := List.forall_mem_cons.1 h
    obtain ⟨v, hv, htype⟩ := hfirst
    obtain ⟨vs, hvs, htypes⟩ := ih hrest
    refine ⟨v :: vs, ?_, .cons htype htypes⟩
    unfold evalAll
    rw [hv, hvs]
    rfl

theorem evaluates_binaryNode (op : Operator) {l r e : Expr} (hl : l.Evaluates N σ)
    (hr : r.Evaluates N σ) (h : Build.binaryNode op.symbol l r = .ok e) : e.Evaluates N σ := by
  obtain ⟨t, ht, rfl⟩ := Outcome.of_map h
  obtain ⟨v, hv, hvt⟩ := hl
  obtain ⟨w, hw, hwt⟩ := hr
  obtain ⟨u, hu, hut⟩ := Quantity.exists_broadcast hvt hwt (operatorSort_of_ok ht)
  refine ⟨u, ?_, hut⟩
  unfold eval
  rw [hv, hw, Operator.ofSymbol?_symbol]
  exact hu

/-- A quantity that may have a sign has one of the same type. -/
theorem Quantity.exists_neg {v : Quantity K} {a : ValueType} (hv : v.HasType N a)
    (ha : a.isNumeric = true ∨ a.isVectorLike = true) :
    ∃ u, v.map N.neg = some u ∧ u.HasType N a := by
  cases hv with
  | float x => exact ⟨_, rfl, .float _⟩
  | int hx => exact ⟨_, rfl, .int (N.isWhole_neg hx)⟩
  | bool b => exact absurd ha (by decide)
  | tuple ht hl => exact ⟨_, rfl, .tuple ht ((List.length_map _).trans hl)⟩

theorem evaluates_signNode {sign : Sign} {e e' : Expr} (he : e.Evaluates N σ)
    (h : Formula.signNode sign e = .ok e') : e'.Evaluates N σ := by
  cases sign with
  | plus =>
    obtain ⟨t, -, rfl⟩ := Outcome.of_map h
    exact he
  | minus =>
    obtain ⟨t, ht, rfl⟩ := Outcome.of_map h
    obtain ⟨rfl, hsort⟩ := signType_ok ht
    obtain ⟨v, hv, hvt⟩ := he
    obtain ⟨u, hu, hut⟩ := Quantity.exists_neg hvt hsort
    refine ⟨u, ?_, hut⟩
    unfold eval
    rw [hv]
    exact hu

theorem evaluates_callNode {function : String} {es : List Expr} {e : Expr}
    (hes : ∀ a ∈ es, a.Evaluates N σ) (h : Build.callNode function es = .ok e) :
    e.Evaluates N σ := by
  obtain ⟨t, ht, rfl⟩ := Outcome.of_map h
  obtain ⟨vs, hvs, htypes⟩ := exists_evalAll hes
  obtain ⟨f, hf, harity, hrule⟩ := callType_ok ht
  obtain ⟨u, hu, hut⟩ := NumberSystem.exists_call htypes harity hrule
  refine ⟨u, ?_, hut⟩
  unfold eval
  rw [hvs, hf]
  exact hu

theorem evaluates_componentNode {field : String} {e e' : Expr} (he : e.Evaluates N σ)
    (h : Formula.componentNode e field = .ok e') : e'.Evaluates N σ := by
  obtain ⟨hfield, rfl⟩ := componentNode_ok h
  obtain ⟨v, hv, hvt⟩ := he
  have hvector : e.valueType.isVectorLike = true :=
    decide_eq_true (List.ne_nil_of_mem hfield)
  obtain ⟨xs, rfl, hl⟩ := hvt.exists_tuple hvector
  have hindex : e.valueType.components.idxOf field < xs.length :=
    hl ▸ List.idxOf_lt_length_of_mem hfield
  refine ⟨.number xs[e.valueType.components.idxOf field], ?_, .float _⟩
  unfold eval
  rw [hv]
  show (xs[_]?).map _ = _
  rw [List.getElem?_eq_getElem hindex]
  rfl

/-- **The rules build nodes that evaluate.** -/
theorem keptByRules_evaluates : KeptByRules (Evaluates N σ) where
  number d := ⟨_, rfl, N.hasType_ofLiteral (.scalar (.float d))⟩
  binary := evaluates_binaryNode
  signed := evaluates_signNode
  call := evaluates_callNode
  component := evaluates_componentNode

end

/-! ## 4. Formulas -/

/-- **What compiles evaluates.** Where the names of a formula stand for variables, and the variables
    for values of their types, what the formula compiles to gives a value of its type. -/
theorem ParsedFormula.exists_eval (N : NumberSystem K) (σ : Assignment K) {p : ParsedFormula}
    {env : Environment} {e : Expr}
    (henv : ∀ n a, env.find? n = some a → ∃ m t, a = .var m t ∧ (σ.var m).HasType N t)
    (h : p.compile env = .ok e) : ∃ v, e.eval N σ = some v ∧ v.HasType N e.valueType := by
  have hvariables : ∀ n a, env.find? n = some a → a.Evaluates N σ := by
    intro n a ha
    obtain ⟨m, t, rfl, hm⟩ := henv n a ha
    exact ⟨_, rfl, hm⟩
  exact Formula.compile_keeps keptByRules_evaluates hvariables h

/-- A mix of vectors at the quotient of whole numbers, also where that divides by zero. -/
theorem ParsedFormula.exists_eval_mix :
    let N := NumberSystem.rational (fun _ x => x) (fun x _ => x) List.sum
    let p : ParsedFormula := ⟨"mix(p, q, m / n).x", .component (.call "mix"
      [.name "p" default, .name "q" default,
        .binary .div (.name "m" default) (.name "n" default) default] default) "x" default⟩
    let env : Environment := [("p", .var "p" .vector2), ("q", .var "q" .vector2),
      ("m", .var "m" .int), ("n", .var "n" .int)]
    let σ : Assignment ℚ :=
      ⟨fun n => if n = "p" ∨ n = "q" then .tuple [1, 2] else .number 0, fun _ => .truth true⟩
    (∀ n a, env.find? n = some a → ∃ m t, a = .var m t ∧ (σ.var m).HasType N t) ∧
      ∃ e, p.compile env = .ok e ∧ ∃ v, e.eval N σ = some v ∧ v.HasType N e.valueType := by
  intro N p env σ
  have hvector : (Quantity.tuple [(1 : ℚ), 2]).HasType N .vector2 := .tuple rfl rfl
  have hwhole : (Quantity.number (0 : ℚ)).HasType N .int := .int ⟨0, rfl⟩
  have henv : ∀ n a, env.find? n = some a → ∃ m t, a = .var m t ∧ (σ.var m).HasType N t := by
    intro n a ha
    have hmem : (n, a) ∈ env := Table.mem_of_find? ha
    simp only [env, List.mem_cons, Prod.mk.injEq, List.not_mem_nil, or_false] at hmem
    rcases hmem with ⟨-, rfl⟩ | ⟨-, rfl⟩ | ⟨-, rfl⟩ | ⟨-, rfl⟩
    · exact ⟨_, _, rfl, hvector⟩
    · exact ⟨_, _, rfl, hvector⟩
    · exact ⟨_, _, rfl, hwhole⟩
    · exact ⟨_, _, rfl, hwhole⟩
  have hcompile : p.compile env = .ok (.component (.call "mix" [.var "p" .vector2,
    .var "q" .vector2, .binary "/" (.var "m" .int) (.var "n" .int) .float] .vector2) "x"
    .float) := rfl
  exact ⟨henv, _, hcompile, exists_eval N σ henv hcompile⟩

end VisualScale
