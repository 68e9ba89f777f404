import Mathlib.Tactic.NormNum
import VisualScale.Proofs.Announcement
import VisualScale.Proofs.Meaning.Soundness
import VisualScale.Proofs.Number.Rounding
import VisualScale.Proofs.Resolution.Fold

/-!
# Linear and logarithmic scales hit their bounds

A linear or logarithmic scale with constant bounds, on a column of the data, is resolved to one
expression. This file computes what that expression is worth in exact arithmetic: a linear scale
takes a number of the column to the point of the range that lies where the number lies in the
domain, and both scales take the bounds of the domain to the bounds of the range
(`Scale.hits_bounds`).

Bounds may be whole numbers, and slots make doubles of these. No value is lost as long as each
number is one that some double is (`Scalar.IsExact`).

* `Double.exists_ofInt?_eq` -- a whole number that some double is becomes a double of that value;
* `ExactBounds`, `ExactBounds.exists_resolved` -- bounds that lose nothing, and that slots lose
  nothing of them;
* `Scale.mapped_linear`, `Scale.mapped_log` -- the expressions that the scales build;
* `Store.resolve_ofReference_ok_iff` -- when a binding to a column resolves, and to what;
* `ExactBounds.Resolved.worthAt` -- what such an expression is worth, by its position.
-/

namespace VisualScale

-- A power of naturals is the core one, as it is where doubles are defined.
attribute [local instance (2000)] instPowNat

/-! ## 1. Whole numbers that are doubles -/

namespace Double

theorem cast_stepsPerOne : (stepsPerOne : ℚ) = 2 ^ finestPlaces :=
  (Nat.cast_pow 2 finestPlaces).trans (by rw [Nat.cast_ofNat])

theorem stepsPerOne_cast_pos : (0 : ℚ) < stepsPerOne := Nat.cast_pos.2 stepsPerOne_pos

/-- A double is its significand at its scale, counted in the finest steps. -/
theorem toRat_finite (negative : Bool) {m e : Nat} (h : OnGrid m e) :
    (finite negative m e h).toRat =
      if negative then -(((m * 2 ^ e : ℕ) : ℚ) / stepsPerOne)
      else ((m * 2 ^ e : ℕ) : ℚ) / stepsPerOne := by
  rw [cast_stepsPerOne, Nat.cast_mul, Nat.cast_pow, Nat.cast_ofNat]
  rfl

theorem abs_toRat_finite (negative : Bool) {m e : Nat} (h : OnGrid m e) :
    |(finite negative m e h).toRat| = ((m * 2 ^ e : ℕ) : ℚ) / stepsPerOne := by
  have hsize : (0 : ℚ) ≤ ((m * 2 ^ e : ℕ) : ℚ) / stepsPerOne :=
    div_nonneg (Nat.cast_nonneg _) stepsPerOne_cast_pos.le
  rw [toRat_finite]
  cases negative with
  | false => exact abs_of_nonneg hsize
  | true => exact (abs_neg _).trans (abs_of_nonneg hsize)

/-- A whole number that some double is, counted in the finest steps. -/
theorem natAbs_mul_stepsPerOne {negative : Bool} {m e : Nat} {h : OnGrid m e} {n : Int}
    (hn : (finite negative m e h).toRat = n) : n.natAbs * stepsPerOne = m * 2 ^ e := by
  have habs : (n.natAbs : ℚ) = ((m * 2 ^ e : ℕ) : ℚ) / stepsPerOne := by
    rw [Nat.cast_natAbs, Int.cast_abs, ← hn, abs_toRat_finite]
  rw [eq_div_iff stepsPerOne_cast_pos.ne', ← Nat.cast_mul] at habs
  exact Nat.cast_injective habs

/-- The other way around. -/
theorem toRat_of_natAbs {m e : Nat} {h : OnGrid m e} {n : Int}
    (hn : n.natAbs * stepsPerOne = m * 2 ^ e) : (finite (n < 0) m e h).toRat = n := by
  have hsize : ((m * 2 ^ e : ℕ) : ℚ) / stepsPerOne = |(n : ℚ)| := by
    rw [← hn, Nat.cast_mul, mul_div_cancel_right₀ _ stepsPerOne_cast_pos.ne', Nat.cast_natAbs,
      Int.cast_abs]
  rw [toRat_finite, hsize]
  rcases lt_or_ge n 0 with h | h
  · rw [decide_eq_true h, if_pos rfl, abs_of_neg (Int.cast_lt_zero.2 h), Rat.neg_neg]
  · rw [decide_eq_false (not_lt.2 h), if_neg Bool.false_ne_true, abs_of_nonneg (Int.cast_nonneg h)]

/-- **A whole number that some double is becomes a double of that value.** -/
theorem exists_ofInt?_eq {n : Int} {d : Double} (hd : d.isFinite = true) (hn : d.toRat = n) :
    ∃ d', ofInt? n = some d' ∧ d'.toRat = n := by
  obtain _ | _ | ⟨negative, m, e, hgrid⟩ := d
  · cases hd
  · cases hd
  have hsteps := natAbs_mul_stepsPerOne hn
  have hof : ofInt n = .finite (n < 0) m e hgrid := by
    unfold ofInt
    rw [nearest_congr _ Nat.one_pos stepsPerOne_pos (hsteps.trans (Nat.mul_one _).symm),
      nearest_self]
  have hfinite : (ofInt n).isFinite = true := by rw [hof]; rfl
  exact ⟨ofInt n, ofInt?_of_isFinite hfinite, hof ▸ toRat_of_natAbs hsteps⟩

/-- A whole number of at most 53 bits is a point of the grid. -/
theorem exists_onGrid {n : Nat} (h : n < 2 ^ 53) :
    ∃ m e, OnGrid m e ∧ n * stepsPerOne = m * 2 ^ e := by
  by_cases h0 : n = 0
  · exact ⟨0, 0, onGrid_zero, by rw [h0, Nat.zero_mul, Nat.zero_mul]⟩
  have hlog : n.log2 ≤ 52 := Nat.le_of_lt_succ ((Nat.log2_lt h0).2 h)
  have hlow : 2 ^ 52 ≤ n * 2 ^ (52 - n.log2) := calc
    2 ^ 52 = 2 ^ n.log2 * 2 ^ (52 - n.log2) := by rw [← Nat.pow_add]; congr 1; omega
    _ ≤ n * 2 ^ (52 - n.log2) := Nat.mul_le_mul_right _ (Nat.log2_self_le h0)
  have hhigh : n * 2 ^ (52 - n.log2) < 2 ^ 53 := calc
    n * 2 ^ (52 - n.log2) < 2 ^ (n.log2 + 1) * 2 ^ (52 - n.log2) :=
      Nat.mul_lt_mul_of_pos_right Nat.lt_log2_self (Nat.two_pow_pos _)
    _ = 2 ^ 53 := by rw [← Nat.pow_add]; congr 1; omega
  refine ⟨n * 2 ^ (52 - n.log2), 1022 + n.log2, ⟨hhigh, by omega, .inr hlow⟩, ?_⟩
  have hplaces : 52 - n.log2 + (1022 + n.log2) = finestPlaces := by
    unfold finestPlaces
    omega
  rw [Nat.mul_assoc, ← Nat.pow_add, hplaces]
  rfl

end Double

/-! ## 2. Bounds that lose nothing -/

/-- The scalar is a number, and some double is that number. -/
def Scalar.IsExact : Scalar → Prop
  | .bool _ => False
  | .int n => ∃ d : Double, d.isFinite = true ∧ d.toRat = n
  | .float d => d.isFinite = true

/-- A whole number of at most 53 bits is exact. -/
theorem Scalar.isExact_int {n : Int} (h : n.natAbs < 2 ^ 53) : (Scalar.int n).IsExact := by
  obtain ⟨m, e, hgrid, hsteps⟩ := Double.exists_onGrid h
  exact ⟨.finite (n < 0) m e hgrid, rfl, Double.toRat_of_natAbs hsteps⟩

/-- The constant is of exact numbers. -/
def Literal.IsExact : Literal → Prop
  | .scalar s => s.IsExact
  | l => ∀ s ∈ l.parts, s.IsExact

/-- Bounds of a scale that maps to floats, vectors or colors: constant numbers for the domain,
    constants of the scale's type for the range, all of them exact. -/
structure ExactBounds where
  valueType : ValueType
  d0 : Scalar
  d1 : Scalar
  r0 : Literal
  r1 : Literal
  float_or_vectorLike : valueType = .float ∨ valueType.isVectorLike = true
  exact_d0 : d0.IsExact
  exact_d1 : d1.IsExact
  exact_r0 : r0.IsExact
  exact_r1 : r1.IsExact
  type_r0 : r0.valueType.StandsFor valueType
  type_r1 : r1.valueType.StandsFor valueType

/-- The domain and range of a scale with these bounds. -/
def ExactBounds.domainRange (B : ExactBounds) : DomainRange where
  valueType := B.valueType
  domain := (.literal (.scalar B.d0), .literal (.scalar B.d1))
  range := (.literal B.r0, .literal B.r1)

section Slots

variable {scalar : Signature.Intrinsic → ℚ → ℚ} {pow : ℚ → ℚ → ℚ} {norm : List ℚ → ℚ}

/-- A slot that asks for a float, or accepts any number, makes a double of an exact number, and the
    number stays what it is. -/
theorem Scalar.IsExact.exists_number {s : Scalar} (hs : s.IsExact) {t : ValueType}
    {acceptsNumeric : Bool} (h : t = .float ∨ acceptsNumeric = true) :
    ∃ d, (Literal.scalar s).constantFor? t acceptsNumeric = some (.number d) ∧
      d.toRat = (NumberSystem.rational scalar pow norm).ofScalar s := by
  cases s with
  | bool b => exact hs.elim
  | float d => exact ⟨d, rfl, rfl⟩
  | int n =>
    obtain ⟨d, hd, hn⟩ := hs
    obtain ⟨d', hd', hn'⟩ := Double.exists_ofInt?_eq hd hn
    refine ⟨d', ?_, hn'⟩
    show (if t = .float ∨ acceptsNumeric = true then _ else _) = _
    rw [if_pos h, hd']
    rfl

/-- A slot of a range makes of an exact constant one of the slot's own type and the same value. -/
theorem Literal.IsExact.exists_constant {l : Literal} (hl : l.IsExact) {t : ValueType}
    (ht : t = .float ∨ t.isVectorLike = true) (htype : l.valueType.StandsFor t) :
    ∃ m : Literal, l.constantFor? t false = some (.const (.literal m) t) ∧
      (NumberSystem.rational scalar pow norm).ofLiteral m =
        (NumberSystem.rational scalar pow norm).ofLiteral l := by
  cases l with
  | scalar s =>
    have hnumber : t = .float := by
      rcases ht with rfl | ht
      · rfl
      · obtain rfl | ⟨-, rfl⟩ := htype
        · cases s <;> cases ht
        · rfl
    subst hnumber
    obtain ⟨d, hd, hvalue⟩ := hl.exists_number (.inl rfl)
    refine ⟨.scalar (.float d), hd, ?_⟩
    cases s with
    | bool b => exact hl.elim
    | int n | float d' => exact congrArg Quantity.number hvalue
  | vector2 | vector3 | vector4 | color =>
    obtain rfl | ⟨htype, -⟩ := htype
    · exact ⟨_, rfl, rfl⟩
    · cases htype

/-- The attributes of a linear or logarithmic scale, resolved. -/
def Scale.resolvedBounds (D₀ D₁ R₀ R₁ : Expr) : Table Value :=
  [("d0", .expr D₀), ("d1", .expr D₁), ("r0", .expr R₀), ("r1", .expr R₁)]

/-- Doubles and constants are what the slots of a scale make of its exact bounds, and are worth what
    the bounds are. -/
structure ExactBounds.Resolved {K : Type} (B : ExactBounds) (N : NumberSystem K)
    (D₀ D₁ : Double) (R₀ R₁ : Literal) : Prop where
  attributes : ∀ known, attributes? known (Scale.domainRangeAttributes B.domainRange) =
    some (Scale.resolvedBounds (.number D₀) (.number D₁) (.const (.literal R₀) B.valueType)
      (.const (.literal R₁) B.valueType))
  d0 : N.ofDouble D₀ = N.ofScalar B.d0
  d1 : N.ofDouble D₁ = N.ofScalar B.d1
  r0 : N.ofLiteral R₀ = N.ofLiteral B.r0
  r1 : N.ofLiteral R₁ = N.ofLiteral B.r1

/-- **Slots lose nothing of exact bounds.** -/
theorem ExactBounds.exists_resolved (B : ExactBounds) :
    ∃ D₀ D₁ R₀ R₁, B.Resolved (.rational scalar pow norm) D₀ D₁ R₀ R₁ := by
  obtain ⟨D₀, hD₀, hd₀⟩ := B.exact_d0.exists_number (t := B.valueType) (.inr rfl)
  obtain ⟨D₁, hD₁, hd₁⟩ := B.exact_d1.exists_number (t := B.valueType) (.inr rfl)
  obtain ⟨R₀, hR₀, hr₀⟩ := B.exact_r0.exists_constant B.float_or_vectorLike B.type_r0
  obtain ⟨R₁, hR₁, hr₁⟩ := B.exact_r1.exists_constant B.float_or_vectorLike B.type_r1
  refine ⟨D₀, D₁, R₀, R₁, fun known => ?_, hd₀, hd₁, hr₀, hr₁⟩
  have hdomain {s : Scalar} {d : Double}
      (h : (Literal.scalar s).constantFor? B.valueType true = some (.number d)) :
      (Value.literal (.scalar s)).fill? known B.valueType true = some (.number d) :=
    Value.fill?_eq_some_iff.2 ⟨h, by cases B.valueType <;> rfl⟩
  have hrange {l m : Literal}
      (h : l.constantFor? B.valueType false = some (.const (.literal m) B.valueType)) :
      (Value.literal l).fill? known B.valueType false = some (.const (.literal m) B.valueType) :=
    Value.fill?_eq_some_iff.2 ⟨h, (fits_false_iff _ _).2 (.inl rfl)⟩
  refine attributes?_cons_eq_some_iff.2 ⟨_, _, hdomain hD₀, ?_, rfl⟩
  refine attributes?_cons_eq_some_iff.2 ⟨_, _, hdomain hD₁, ?_, rfl⟩
  refine attributes?_cons_eq_some_iff.2 ⟨_, _, hrange hR₀, ?_, rfl⟩
  exact attributes?_cons_eq_some_iff.2 ⟨_, _, hrange hR₁, rfl, rfl⟩

end Slots

/-! ## 3. What the scales build -/

namespace Scale

/-- Where an expression lies in a domain. -/
def linearExpr (D₀ D₁ x : Expr) : Expr :=
  .binary "/" (.binary "-" x D₀ .float) (.binary "-" D₁ D₀ .float) .float

/-- Where an expression lies in a domain, by logarithms. -/
def logExpr (D₀ D₁ x : Expr) : Expr :=
  .binary "/" (.call "log" [.binary "/" x D₀ .float] .float)
    (.call "log" [.binary "/" D₁ D₀ .float] .float) .float

/-- The value of a range at a position. -/
def mixExpr (t : ValueType) (R₀ R₁ position : Expr) : Expr := .call "mix" [R₀, R₁, position] t

variable {t u : ValueType} {field : String} {D₀ D₁ : Double} {R₀ R₁ : Literal}

theorem callType_mix (ht : t = .float ∨ t.isVectorLike = true) :
    Signature.callType "mix" [t, t, .float] = .ok t := by
  cases t with
  | float | vector2 | vector3 | vector4 | color => rfl
  | int | bool => exact absurd ht (by decide)

/-- A scale whose position is a float builds the mix of its range at that position, at every value
    type. -/
theorem mapped_eq (ht : t = .float ∨ t.isVectorLike = true) {x p : Expr}
    {position : Table Value → Value → Except Fault Expr}
    (hp : position (resolvedBounds (.number D₀) (.number D₁) (.const (.literal R₀) t)
      (.const (.literal R₁) t)) (.expr x) = .ok p) (htype : p.valueType = .float) :
    mapped position (resolvedBounds (.number D₀) (.number D₁) (.const (.literal R₀) t)
      (.const (.literal R₁) t)) (.expr x) =
    .ok (mixExpr t (.const (.literal R₀) t) (.const (.literal R₁) t) p) := by
  unfold mapped
  rw [hp]
  show (Signature.callType "mix" [t, t, p.valueType]).map _ = _
  rw [htype, callType_mix ht]
  rfl

/-- **A linear scale builds one expression, with every operand in its place.** -/
theorem mapped_linear (ht : t = .float ∨ t.isVectorLike = true) (hu : u.isNumeric = true) :
    mapped linearPosition (resolvedBounds (.number D₀) (.number D₁) (.const (.literal R₀) t)
      (.const (.literal R₁) t)) (.expr (.column field u)) =
    .ok (mixExpr t (.const (.literal R₀) t) (.const (.literal R₁) t)
      (linearExpr (.number D₀) (.number D₁) (.column field u))) := by
  refine mapped_eq ht ?_ rfl
  cases u with
  | float | int => rfl
  | bool | vector2 | vector3 | vector4 | color => cases hu

/-- **So does a logarithmic one.** -/
theorem mapped_log (ht : t = .float ∨ t.isVectorLike = true) (hu : u.isNumeric = true) :
    mapped logPosition (resolvedBounds (.number D₀) (.number D₁) (.const (.literal R₀) t)
      (.const (.literal R₁) t)) (.expr (.column field u)) =
    .ok (mixExpr t (.const (.literal R₀) t) (.const (.literal R₁) t)
      (logExpr (.number D₀) (.number D₁) (.column field u))) := by
  refine mapped_eq ht ?_ rfl
  cases u with
  | float | int => rfl
  | bool | vector2 | vector3 | vector4 | color => cases hu

end Scale

/-! ## 4. What the expressions are worth -/

section Worth

variable {K : Type} {N : NumberSystem K} {σ : Assignment K}

theorem eval_mixExpr {t : ValueType} {R₀ R₁ p : Expr} {v w : Quantity K} {x : K}
    (hR₀ : R₀.eval N σ = some v) (hR₁ : R₁.eval N σ = some w) (hp : p.eval N σ = some (.number x)) :
    (Scale.mixExpr t R₀ R₁ p).eval N σ = v.zip (N.mix x) w := by
  unfold Scale.mixExpr Expr.eval Expr.evalAll Expr.evalAll Expr.evalAll Expr.evalAll
  rw [hR₀, hR₁, hp]
  rfl

theorem eval_linearExpr {x : Expr} {v : K} (hx : x.eval N σ = some (.number v)) (D₀ D₁ : Double) :
    (Scale.linearExpr (.number D₀) (.number D₁) x).eval N σ =
      some (.number (N.operate .div (N.operate .sub v (N.ofDouble D₀))
        (N.operate .sub (N.ofDouble D₁) (N.ofDouble D₀)))) := by
  unfold Scale.linearExpr Expr.eval Expr.eval
  rw [hx]
  rfl

theorem eval_logExpr {x : Expr} {v : K} (hx : x.eval N σ = some (.number v)) (D₀ D₁ : Double) :
    (Scale.logExpr (.number D₀) (.number D₁) x).eval N σ =
      some (.number (N.operate .div (N.scalar .log (N.operate .div v (N.ofDouble D₀)))
        (N.scalar .log (N.operate .div (N.ofDouble D₁) (N.ofDouble D₀))))) := by
  unfold Scale.logExpr Expr.eval Expr.eval Expr.evalAll Expr.eval
  rw [hx]
  rfl

/-- What stands for a float or a vector is worth a quantity of that type. -/
theorem hasType_ofLiteral_of_standsFor {l : Literal} {t : ValueType}
    (h : l.valueType.StandsFor t) : (N.ofLiteral l).HasType N t := by
  obtain rfl | ⟨hint, rfl⟩ := h
  · exact N.hasType_ofLiteral l
  · obtain ⟨x, hx⟩ := (N.hasType_ofLiteral l).exists_number (by rw [hint]; rfl)
    rw [hx]
    exact .float x

namespace Quantity

variable {v w : Quantity K} {t : ValueType}

/-- Two quantities of one type, of floats or of a vector, have one shape. -/
theorem exists_shape (ht : t = .float ∨ t.isVectorLike = true) (hv : v.HasType N t)
    (hw : w.HasType N t) : (∃ x y, v = .number x ∧ w = .number y) ∨
      ∃ xs ys, v = .tuple xs ∧ w = .tuple ys ∧ xs.length = ys.length := by
  rcases ht with rfl | ht
  · obtain ⟨x, rfl⟩ := hv.exists_number rfl
    obtain ⟨y, rfl⟩ := hw.exists_number rfl
    exact .inl ⟨x, y, rfl, rfl⟩
  · obtain ⟨xs, rfl, hx⟩ := hv.exists_tuple ht
    obtain ⟨ys, rfl, hy⟩ := hw.exists_tuple ht
    exact .inr ⟨xs, ys, rfl, rfl, hx.trans hy.symm⟩

theorem exists_zip_eq (f : K → K → K) (ht : t = .float ∨ t.isVectorLike = true)
    (hv : v.HasType N t) (hw : w.HasType N t) : ∃ q, v.zip f w = some q := by
  obtain ⟨x, y, rfl, rfl⟩ | ⟨xs, ys, rfl, rfl, hlength⟩ := exists_shape ht hv hw
  · exact ⟨_, rfl⟩
  · exact ⟨_, if_pos hlength⟩

theorem zip_fst (ht : t = .float ∨ t.isVectorLike = true) (hv : v.HasType N t)
    (hw : w.HasType N t) : v.zip (fun a _ => a) w = some v := by
  obtain ⟨x, y, rfl, rfl⟩ | ⟨xs, ys, rfl, rfl, hlength⟩ := exists_shape ht hv hw
  · rfl
  · have hfst : List.zipWith (fun a _ => a) xs ys = xs :=
      List.map_uncurry_zip_eq_zipWith.symm.trans (List.map_fst_zip hlength.le)
    exact (if_pos hlength).trans (by rw [hfst])

theorem zip_snd (ht : t = .float ∨ t.isVectorLike = true) (hv : v.HasType N t)
    (hw : w.HasType N t) : v.zip (fun _ b => b) w = some w := by
  obtain ⟨x, y, rfl, rfl⟩ | ⟨xs, ys, rfl, rfl, hlength⟩ := exists_shape ht hv hw
  · rfl
  · have hsnd : List.zipWith (fun _ b => b) xs ys = ys :=
      List.map_uncurry_zip_eq_zipWith.symm.trans (List.map_snd_zip hlength.ge)
    exact (if_pos hlength).trans (by rw [hsnd])

end Quantity

end Worth

/-- Wherever the column is a number, the expression is worth a quantity. -/
def Expr.WorthAt {K : Type} (N : NumberSystem K) (e : Expr) (field : String) (x : K)
    (q : Quantity K) : Prop :=
  ∀ σ : Assignment K, σ.column field = .number x → e.eval N σ = some q

/-! ## 5. Resolving a scale on a column -/

/-- A new binding of a scale of one float to a column. -/
def Binding.ofReference (scale : ScaleId) (announced : ValueType) (r : DataRef) : Binding :=
  ⟨scale, announced, [.float], [.reference r], .created, rfl⟩

/-- It is what invoking a linear or logarithmic scale makes. -/
theorem Store.bind_reference (id : ScaleId) (d : DomainRange) (r : DataRef) :
    Store.bind id (.linear d) [.reference r] = .ok (.ofReference id d.valueType r) ∧
      Store.bind id (.log d) [.reference r] = .ok (.ofReference id d.valueType r) := ⟨rfl, rfl⟩

/-- The type of the column that a reference in a float slot becomes. -/
def DataRef.columnType (r : DataRef) : ValueType := r.valueType.getD .float

theorem arguments?_reference_eq_some_iff {known : BindingId → Option Expr} {r : DataRef}
    {values : List Value} :
    arguments? known [(.reference r, .float)] = some values ↔
      r.columnType.isNumeric = true ∧ values = [.expr (.column r.field r.columnType)] := by
  have hfits : fits r.columnType .float false = true ↔ r.columnType.isNumeric = true := by
    cases r.columnType <;> decide
  rw [arguments?_cons_eq_some_iff]
  constructor
  · rintro ⟨e, es, he, hes, rfl⟩
    obtain ⟨hraw, htype⟩ := Value.fill?_eq_some_iff.1 he
    obtain rfl := Option.some.inj hraw
    obtain rfl := Option.some.inj hes
    exact ⟨hfits.1 htype, rfl⟩
  · rintro ⟨hnumeric, rfl⟩
    exact ⟨_, [], Value.fill?_eq_some_iff.2 ⟨rfl, hfits.2 hnumeric⟩, rfl, rfl⟩

namespace Store

variable {s : Store} {id : BindingId} {scale : ScaleId} {announced : ValueType} {r : DataRef}
variable {sc : Scale} {B : ExactBounds}

theorem fresh_ofReference (hb : s.binding? id = some (.ofReference scale announced r))
    (hs : s.scale? scale = some sc)
    (hattrs : sc.attributes = Scale.domainRangeAttributes B.domainRange) : s.Fresh id := by
  have hchildren : s.children id = [] := by
    rw [children_of hb hs, hattrs]
    rfl
  have hbehind : s.Unfolds (s.children id) [] := by
    rw [hchildren]
    exact .nil
  refine ⟨[id], .cons hbehind .nil, List.nodup_singleton id, fun x hx => ?_⟩
  obtain rfl := List.mem_singleton.1 hx
  unfold state?
  rw [hb]
  rfl

/-- A new binding of a scale with exact bounds to a column resolves if and only if the column may be
    a number, and to what the scale builds from its bounds. -/
theorem resolve_ofReference_ok_iff {attrs : Table Value}
    (hb : s.binding? id = some (.ofReference scale announced r)) (hs : s.scale? scale = some sc)
    (hattributes : sc.attributes = Scale.domainRangeAttributes B.domainRange)
    (hattrs : ∀ known, attributes? known sc.attributes = some attrs) {built : Expr}
    (hbuild : r.columnType.isNumeric = true →
      sc.build attrs [.expr (.column r.field r.columnType)] = .ok built) {e : Expr} :
    (s.resolve columnOf id).1 = .ok e ↔ r.columnType.isNumeric = true ∧ e = built := by
  refine (Resolver.resolve_ok_iff_of_idle (r := .new columnOf) rfl rfl s id e).trans ?_
  constructor
  · rintro ⟨-, depth, h⟩
    cases depth with
    | zero => cases h
    | succ depth =>
      obtain ⟨b, sc', attrs', values, hb', hs', hattrs', hvalues, he⟩ :=
        build?_succ_eq_some_iff.1 h
      obtain rfl := Option.some.inj (hb.symm.trans hb')
      obtain rfl := Option.some.inj (hs.symm.trans hs')
      obtain rfl := Option.some.inj ((hattrs _).symm.trans hattrs')
      obtain ⟨hnumeric, rfl⟩ := arguments?_reference_eq_some_iff.1 hvalues
      exact ⟨hnumeric, Except.ok.inj (he.symm.trans (hbuild hnumeric))⟩
  · rintro ⟨hnumeric, rfl⟩
    refine ⟨fresh_ofReference hb hs hattributes, 1, build?_succ_eq_some_iff.2 ?_⟩
    exact ⟨_, sc, attrs, _, hb, hs, hattrs _,
      arguments?_reference_eq_some_iff.2 ⟨hnumeric, rfl⟩, hbuild hnumeric⟩

end Store

/-! ## 6. The bounds are hit -/

section Exact

variable {scalar : Signature.Intrinsic → ℚ → ℚ} {pow : ℚ → ℚ → ℚ} {norm : List ℚ → ℚ}

theorem mix_zero : (NumberSystem.rational scalar pow norm).mix 0 = fun a _ => a := by
  funext a b
  show a + (b - a) * 0 = a
  rw [mul_zero, add_zero]

theorem mix_one : (NumberSystem.rational scalar pow norm).mix 1 = fun _ b => b := by
  funext a b
  show a + (b - a) * 1 = b
  rw [mul_one, add_sub_cancel]

theorem eval_column {K : Type} {N : NumberSystem K} {σ : Assignment K} {field : String} {v : K}
    (h : σ.column field = .number v) (u : ValueType) :
    (Expr.column field u).eval N σ = some (.number v) := congrArg some h

namespace ExactBounds.Resolved

variable {B : ExactBounds} {D₀ D₁ : Double} {R₀ R₁ : Literal} {p : Expr} {field : String}

/-- The expression of a scale with exact bounds is worth the mix of the bounds of its range at its
    position. -/
theorem worthAt {K : Type} {N : NumberSystem K} {v x : K} {q : Quantity K}
    (h : B.Resolved N D₀ D₁ R₀ R₁)
    (hp : ∀ σ : Assignment K, σ.column field = .number v → p.eval N σ = some (.number x))
    (hq : (N.ofLiteral B.r0).zip (N.mix x) (N.ofLiteral B.r1) = some q) :
    (Scale.mixExpr B.valueType (.const (.literal R₀) B.valueType)
      (.const (.literal R₁) B.valueType) p).WorthAt N field v q := by
  intro σ hσ
  rw [eval_mixExpr rfl rfl (hp σ hσ), h.r0, h.r1]
  exact hq

variable {v : ℚ} (h : B.Resolved (.rational scalar pow norm) D₀ D₁ R₀ R₁)

include h

/-- At position 0 it is worth the first bound of the range. -/
theorem worthAt_first (hp : ∀ σ : Assignment ℚ, σ.column field = .number v →
      p.eval (.rational scalar pow norm) σ = some (.number 0)) :
    (Scale.mixExpr B.valueType (.const (.literal R₀) B.valueType)
      (.const (.literal R₁) B.valueType) p).WorthAt (.rational scalar pow norm) field v
        ((NumberSystem.rational scalar pow norm).ofLiteral B.r0) := by
  refine h.worthAt hp ?_
  rw [mix_zero]
  exact Quantity.zip_fst B.float_or_vectorLike (hasType_ofLiteral_of_standsFor B.type_r0)
    (hasType_ofLiteral_of_standsFor B.type_r1)

/-- At position 1 it is worth the second one. -/
theorem worthAt_last (hp : ∀ σ : Assignment ℚ, σ.column field = .number v →
      p.eval (.rational scalar pow norm) σ = some (.number 1)) :
    (Scale.mixExpr B.valueType (.const (.literal R₀) B.valueType)
      (.const (.literal R₁) B.valueType) p).WorthAt (.rational scalar pow norm) field v
        ((NumberSystem.rational scalar pow norm).ofLiteral B.r1) := by
  refine h.worthAt hp ?_
  rw [mix_one]
  exact Quantity.zip_snd B.float_or_vectorLike (hasType_ofLiteral_of_standsFor B.type_r0)
    (hasType_ofLiteral_of_standsFor B.type_r1)

/-- The position of a linear scale. -/
theorem eval_linearExpr {σ : Assignment ℚ} (hσ : σ.column field = .number v) (u : ValueType) :
    (Scale.linearExpr (.number D₀) (.number D₁) (.column field u)).eval (.rational scalar pow norm)
      σ = some (.number ((v - (NumberSystem.rational scalar pow norm).ofScalar B.d0) /
        ((NumberSystem.rational scalar pow norm).ofScalar B.d1 -
          (NumberSystem.rational scalar pow norm).ofScalar B.d0))) := by
  rw [VisualScale.eval_linearExpr (eval_column hσ u), h.d0, h.d1]
  rfl

/-- The position of a logarithmic scale. -/
theorem eval_logExpr {σ : Assignment ℚ} (hσ : σ.column field = .number v) (u : ValueType) :
    (Scale.logExpr (.number D₀) (.number D₁) (.column field u)).eval (.rational scalar pow norm) σ =
      some (.number (scalar .log (v / (NumberSystem.rational scalar pow norm).ofScalar B.d0) /
        scalar .log ((NumberSystem.rational scalar pow norm).ofScalar B.d1 /
          (NumberSystem.rational scalar pow norm).ofScalar B.d0))) := by
  rw [VisualScale.eval_logExpr (eval_column hσ u), h.d0, h.d1]
  rfl

end ExactBounds.Resolved

/-- **Linear and logarithmic scales hit their bounds.** A new binding of such a scale to a column
    resolves as long as the column may be a number. A linear scale then takes every number of the
    column to the point of the range that lies where the number lies in the domain; both take the
    bounds of the domain to the bounds of the range, a logarithmic scale with any function for the
    logarithm that is 0 at 1 and tells the bounds apart. -/
theorem Scale.hits_bounds (s : Store) (id : BindingId) (scale : ScaleId) (announced : ValueType)
    (r : DataRef) (B : ExactBounds) (hb : s.binding? id = some (.ofReference scale announced r))
    (scalar : Signature.Intrinsic → ℚ → ℚ) (pow : ℚ → ℚ → ℚ) (norm : List ℚ → ℚ) :
    let N := NumberSystem.rational scalar pow norm
    let d₀ := N.ofScalar B.d0
    let d₁ := N.ofScalar B.d1
    let r₀ := N.ofLiteral B.r0
    let r₁ := N.ofLiteral B.r1
    (s.scale? scale = some (.linear B.domainRange) →
      ((∃ e, (s.resolve columnOf id).1 = .ok e) ↔ r.columnType.isNumeric = true) ∧
      ∀ e, (s.resolve columnOf id).1 = .ok e → d₀ ≠ d₁ →
        (∀ v, ∃ q, r₀.zip (fun a b => a + (b - a) * (v - d₀) / (d₁ - d₀)) r₁ = some q ∧
          e.WorthAt N r.field v q) ∧
        e.WorthAt N r.field d₀ r₀ ∧ e.WorthAt N r.field d₁ r₁) ∧
    (s.scale? scale = some (.log B.domainRange) →
      ((∃ e, (s.resolve columnOf id).1 = .ok e) ↔ r.columnType.isNumeric = true) ∧
      ∀ e, (s.resolve columnOf id).1 = .ok e → d₀ ≠ 0 → scalar .log 1 = 0 →
        scalar .log (d₁ / d₀) ≠ 0 →
        e.WorthAt N r.field d₀ r₀ ∧ e.WorthAt N r.field d₁ r₁) := by
  intro N d₀ d₁ r₀ r₁
  obtain ⟨D₀, D₁, R₀, R₁, h⟩ : ∃ D₀ D₁ R₀ R₁, B.Resolved N D₀ D₁ R₀ R₁ := B.exists_resolved
  refine ⟨fun hs => ?_, fun hs => ?_⟩
  · have hok {e : Expr} := Store.resolve_ofReference_ok_iff (e := e) hb hs rfl h.attributes
      fun hnumeric => congrArg unplaced (mapped_linear B.float_or_vectorLike hnumeric)
    refine ⟨⟨fun ⟨e, he⟩ => (hok.1 he).1, fun hnumeric => ⟨_, hok.2 ⟨hnumeric, rfl⟩⟩⟩, ?_⟩
    intro e he hne
    obtain ⟨-, rfl⟩ := hok.1 he
    have hwidth : d₁ - d₀ ≠ 0 := sub_ne_zero.2 hne.symm
    refine ⟨fun v => ?_, h.worthAt_first fun σ hσ => ?_, h.worthAt_last fun σ hσ => ?_⟩
    · obtain ⟨q, hq⟩ := Quantity.exists_zip_eq (N.mix ((v - d₀) / (d₁ - d₀)))
        B.float_or_vectorLike (hasType_ofLiteral_of_standsFor (N := N) B.type_r0)
        (hasType_ofLiteral_of_standsFor B.type_r1)
      have hmix : N.mix ((v - d₀) / (d₁ - d₀)) =
          fun a b => a + (b - a) * (v - d₀) / (d₁ - d₀) := by
        funext a b
        exact congrArg (a + ·) (mul_div_assoc _ _ _).symm
      exact ⟨q, hmix ▸ hq, h.worthAt (fun σ hσ => h.eval_linearExpr hσ _) hq⟩
    · rw [h.eval_linearExpr hσ, sub_self, zero_div]
    · rw [h.eval_linearExpr hσ, div_self hwidth]
  · have hok {e : Expr} := Store.resolve_ofReference_ok_iff (e := e) hb hs rfl h.attributes
      fun hnumeric => congrArg unplaced (mapped_log B.float_or_vectorLike hnumeric)
    refine ⟨⟨fun ⟨e, he⟩ => (hok.1 he).1, fun hnumeric => ⟨_, hok.2 ⟨hnumeric, rfl⟩⟩⟩, ?_⟩
    intro e he hd₀ hlog hwidth
    obtain ⟨-, rfl⟩ := hok.1 he
    refine ⟨h.worthAt_first fun σ hσ => ?_, h.worthAt_last fun σ hσ => ?_⟩
    · rw [h.eval_logExpr hσ, div_self hd₀, hlog, zero_div]
    · rw [h.eval_logExpr hσ, div_self hwidth]

/-- A linear and a logarithmic scale of vectors, their domain from 1 to 3 and their range from
    (4, 10) to (0, 20), each invoked on a column. -/
theorem Scale.hits_bounds_vector :
    let B : ExactBounds :=
      { valueType := .vector2, d0 := .int 1, d1 := .int 3, r0 := .vector2 (.int 4) (.int 10)
        r1 := .vector2 (.float (.zero false)) (.int 20), float_or_vectorLike := .inr rfl
        exact_d0 := Scalar.isExact_int (by decide), exact_d1 := Scalar.isExact_int (by decide)
        exact_r0 := List.forall_mem_cons.2 ⟨Scalar.isExact_int (by decide),
          List.forall_mem_singleton.2 (Scalar.isExact_int (by decide))⟩
        exact_r1 := List.forall_mem_cons.2 ⟨rfl,
          List.forall_mem_singleton.2 (Scalar.isExact_int (by decide))⟩
        type_r0 := .inl rfl, type_r1 := .inl rfl }
    let x : DataRef := ⟨"x", none, by decide⟩
    let s : Store :=
      ⟨[.linear B.domainRange, .log B.domainRange],
        [.ofReference ⟨0⟩ .vector2 x, .ofReference ⟨1⟩ .vector2 x]⟩
    let N := NumberSystem.rational (fun _ v => v - 1) (fun v _ => v) fun _ => 0
    Store.bind ⟨0⟩ (.linear B.domainRange) [.reference x] = .ok (.ofReference ⟨0⟩ .vector2 x) ∧
    Store.bind ⟨1⟩ (.log B.domainRange) [.reference x] = .ok (.ofReference ⟨1⟩ .vector2 x) ∧
    (∃ e, (s.resolve columnOf ⟨0⟩).1 = .ok e ∧ e.WorthAt N "x" 1 (.tuple [4, 10]) ∧
      e.WorthAt N "x" 2 (.tuple [2, 15]) ∧ e.WorthAt N "x" 3 (.tuple [0, 20])) ∧
    ∃ e, (s.resolve columnOf ⟨1⟩).1 = .ok e ∧ e.WorthAt N "x" 1 (.tuple [4, 10]) ∧
      e.WorthAt N "x" 3 (.tuple [0, 20]) := by
  intro B x s N
  have hd₀ : N.ofScalar B.d0 = 1 := Int.cast_one
  have hd₁ : N.ofScalar B.d1 = 3 := Int.cast_ofNat 3
  have hr₀ : N.ofLiteral B.r0 = .tuple [4, 10] := by
    show Quantity.tuple [((4 : ℤ) : ℚ), ((10 : ℤ) : ℚ)] = _
    norm_num
  have hr₁ : N.ofLiteral B.r1 = .tuple [0, 20] := by
    show Quantity.tuple [(Double.zero false).toRat, ((20 : ℤ) : ℚ)] = _
    norm_num [Double.zero, Double.toRat]
  refine ⟨(Store.bind_reference ⟨0⟩ B.domainRange x).1,
    (Store.bind_reference ⟨1⟩ B.domainRange x).2, ?_, ?_⟩
  · obtain ⟨hok, hworth⟩ := (hits_bounds s ⟨0⟩ ⟨0⟩ .vector2 x B rfl (fun _ v => v - 1)
      (fun v _ => v) fun _ => 0).1 rfl
    obtain ⟨e, he⟩ := hok.2 rfl
    obtain ⟨hinside, hfirst, hlast⟩ := hworth e he (by rw [hd₀, hd₁]; norm_num)
    obtain ⟨q, hq, hmiddle⟩ := hinside 2
    rw [hr₀, hr₁, hd₀, hd₁] at hq
    rw [hd₀, hr₀] at hfirst
    rw [hd₁, hr₁] at hlast
    obtain rfl : q = .tuple [2, 15] := by
      refine (Option.some.inj hq).symm.trans (congrArg Quantity.tuple ?_)
      norm_num
    exact ⟨e, he, hfirst, hmiddle, hlast⟩
  · obtain ⟨hok, hworth⟩ := (hits_bounds s ⟨1⟩ ⟨1⟩ .vector2 x B rfl (fun _ v => v - 1)
      (fun v _ => v) fun _ => 0).2 rfl
    obtain ⟨e, he⟩ := hok.2 rfl
    obtain ⟨hfirst, hlast⟩ := hworth e he (by rw [hd₀]; norm_num) (by norm_num)
      (by rw [hd₀, hd₁]; norm_num)
    rw [hd₀, hr₀] at hfirst
    rw [hd₁, hr₁] at hlast
    exact ⟨e, he, hfirst, hlast⟩

end Exact

end VisualScale
