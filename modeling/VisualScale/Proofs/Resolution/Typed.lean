import VisualScale.Proofs.Announcement
import VisualScale.Proofs.Resolution.Built
import VisualScale.Proofs.Session
import VisualScale.Proofs.Typing

/-!
# The types of resolved expressions

A scale builds from expressions that fit its slots, and puts them together by the rules; only the
vector of two values asks no rule, and relies on the slots of its arguments. So what the rules keep,
a scale keeps (`Scale.build_keeps`), and a whole resolution (`Store.resolve_keeps`).

* `Store.wellTyped_of_resolve` -- where a store holds well-typed expressions alone, resolving gives
  a well-typed expression;
* `Store.standsFor_announced_iff` -- the type of what a binding of a prebuilt scale resolves to
  stands for the type that was announced, unless whole numbers were announced: nothing that a
  prebuilt scale builds is a whole number where it announced one.
-/

namespace VisualScale

open Parts Signature

/-! ## 1. What prebuilt scales build -/

namespace Scale

variable {P : Expr → Prop} {attributes : List Attribute} {attrs : Table Value}

/-- A resolved attribute fills the slot of the attribute of its name. -/
theorem exists_of_resolved (h : AttributesFilled P attributes attrs) {name : String} {v : Value}
    (hv : resolved attrs name = .ok v) :
    ∃ a ∈ attributes, a.name = name ∧ Fills P a.valueType a.acceptsNumeric v := by
  have hfound : attrs.find? name = some v := by
    unfold resolved at hv
    split at hv
    · next found hf => rw [hf, Except.ok.inj hv]
    · cases hv
  clear hv
  induction h with
  | nil => cases hfound
  | @cons a r attributes attrs har _ ih =>
    obtain ⟨m, u⟩ := r
    obtain ⟨hm, hu⟩ := har
    by_cases hname : m = name
    · have hvu : u = v := by simpa [Table.find?, hname] using hfound
      exact ⟨a, List.mem_cons_self, hm.symm.trans hname, hvu ▸ hu⟩
    · have hrest : Table.find? attrs name = some v := by simpa [Table.find?, hname] using hfound
      obtain ⟨b, hb, hbv⟩ := ih hrest
      exact ⟨b, List.mem_cons_of_mem _ hb, hbv⟩

/-- A resolved attribute of a linear or logarithmic scale that gives a bound of the range. -/
theorem exists_of_resolved_range {d : DomainRange}
    (h : AttributesFilled P (domainRangeAttributes d) attrs) {name : String}
    (hname : name = "r0" ∨ name = "r1") {v : Value} (hv : resolved attrs name = .ok v) :
    ∃ e, v = .expr e ∧ P e ∧ e.valueType.StandsFor d.valueType := by
  obtain ⟨a, ha, hn, e, he, hP, hfits⟩ := exists_of_resolved h hv
  have hslot : a.valueType = d.valueType ∧ a.acceptsNumeric = false := by
    unfold domainRangeAttributes at ha
    simp only [List.mem_cons, List.not_mem_nil, or_false] at ha
    rcases ha with rfl | rfl | rfl | rfl
    · simp [← hn] at hname
    · simp [← hn] at hname
    · exact ⟨rfl, rfl⟩
    · exact ⟨rfl, rfl⟩
  rw [hslot.1, hslot.2] at hfits
  exact ⟨e, he, hP, (fits_false_iff _ _).1 hfits⟩

/-- A resolved attribute is an expression of the kind. -/
theorem exists_expr_of_resolved (h : AttributesFilled P attributes attrs) {name : String}
    {v : Value} (hv : resolved attrs name = .ok v) : ∃ e, v = .expr e ∧ P e := by
  obtain ⟨a, -, -, e, he, hP, -⟩ := exists_of_resolved h hv
  exact ⟨e, he, hP⟩

/-- A position in a domain is put together by the rules. -/
theorem linearPosition_keeps (hP : KeptByRules P) (h : AttributesFilled P attributes attrs)
    {value p : Expr} (hvalue : P value) (hp : linearPosition attrs (.expr value) = .ok p) :
    P p := by
  obtain ⟨d0, hd0, hp⟩ := Outcome.of_bind hp
  obtain ⟨d1, hd1, hp⟩ := Outcome.of_bind hp
  obtain ⟨e0, rfl, he0⟩ := exists_expr_of_resolved h hd0
  obtain ⟨e1, rfl, he1⟩ := exists_expr_of_resolved h hd1
  obtain ⟨above, habove, hp⟩ := Outcome.of_bind hp
  obtain ⟨width, hwidth, hp⟩ := Outcome.of_bind hp
  have hPabove : P above := hP.binary .sub hvalue he0 habove
  have hPwidth : P width := hP.binary .sub he1 he0 hwidth
  exact hP.binary .div hPabove hPwidth hp

theorem logPosition_keeps (hP : KeptByRules P) (h : AttributesFilled P attributes attrs)
    {value p : Expr} (hvalue : P value) (hp : logPosition attrs (.expr value) = .ok p) : P p := by
  have hlog {x y : Expr} (hx : P x) (hy : Build.log (.expr x) = .ok y) : P y := by
    have hall : ∀ a ∈ [x], P a := List.forall_mem_singleton.2 hx
    exact hP.call hall hy
  obtain ⟨d0, hd0, hp⟩ := Outcome.of_bind hp
  obtain ⟨d1, hd1, hp⟩ := Outcome.of_bind hp
  obtain ⟨e0, rfl, he0⟩ := exists_expr_of_resolved h hd0
  obtain ⟨e1, rfl, he1⟩ := exists_expr_of_resolved h hd1
  obtain ⟨ratio, hratio, hp⟩ := Outcome.of_bind hp
  obtain ⟨above, habove, hp⟩ := Outcome.of_bind hp
  obtain ⟨whole, hwhole, hp⟩ := Outcome.of_bind hp
  obtain ⟨width, hwidth, hp⟩ := Outcome.of_bind hp
  have hPabove : P above := hlog (hP.binary .div hvalue he0 hratio) habove
  have hPwidth : P width := hlog (hP.binary .div he1 he0 hwhole) hwidth
  exact hP.binary .div hPabove hPwidth hp

/-- A value of a range is a mix of its bounds. -/
theorem mapped_ok {position : Table Value → Value → Except Fault Expr} {d : DomainRange}
    (h : AttributesFilled P (domainRangeAttributes d) attrs) {value : Value} {e : Expr}
    (he : mapped position attrs value = .ok e) :
    ∃ r0 r1 p : Expr, (P r0 ∧ r0.valueType.StandsFor d.valueType) ∧
      (P r1 ∧ r1.valueType.StandsFor d.valueType) ∧ position attrs value = .ok p ∧
      Build.callNode "mix" [r0, r1, p] = .ok e := by
  obtain ⟨v0, hv0, he⟩ := Outcome.of_bind he
  obtain ⟨v1, hv1, he⟩ := Outcome.of_bind he
  obtain ⟨p, hp, he⟩ := Outcome.of_bind he
  obtain ⟨r0, rfl, hr0⟩ := exists_of_resolved_range h (.inl rfl) hv0
  obtain ⟨r1, rfl, hr1⟩ := exists_of_resolved_range h (.inr rfl) hv1
  exact ⟨r0, r1, p, hr0, hr1, hp, he⟩

/-- What fills the place of one argument. -/
theorem exists_of_filled_one {t : ValueType} {values : List Value}
    (h : ArgumentsFilled P [t] values) :
    ∃ v : Expr, values = [.expr v] ∧ P v ∧ v.valueType.StandsFor t := by
  obtain ⟨_, rest, ⟨v, rfl, hP, hfits⟩, hrest, rfl⟩ := List.forall₂_cons_left_iff.1 h
  obtain rfl := List.forall₂_nil_left_iff.1 hrest
  exact ⟨v, rfl, hP, (fits_false_iff _ _).1 hfits⟩

/-- What fills the places of two arguments. -/
theorem exists_of_filled_two {t u : ValueType} {values : List Value}
    (h : ArgumentsFilled P [t, u] values) :
    ∃ v w : Expr, values = [.expr v, .expr w] ∧ (P v ∧ v.valueType.StandsFor t) ∧
      P w ∧ w.valueType.StandsFor u := by
  obtain ⟨_, rest, ⟨v, rfl, hP, hfits⟩, hrest, rfl⟩ := List.forall₂_cons_left_iff.1 h
  obtain ⟨w, rfl, hw⟩ := exists_of_filled_one hrest
  exact ⟨v, w, rfl, ⟨hP, (fits_false_iff _ _).1 hfits⟩, hw⟩

/-- An interpolating scale builds a mix of its arguments. -/
theorem interpolate_ok {t : ValueType} {position : Value} {values : List Value} {e : Expr}
    (h : (interpolate t position).Filled P [t, t] attrs values)
    (he : (interpolate t position).build attrs values = .ok e) :
    ∃ a b p : Expr, (P a ∧ a.valueType.StandsFor t) ∧ (P b ∧ b.valueType.StandsFor t) ∧ P p ∧
      Build.callNode "mix" [a, b, p] = .ok e := by
  obtain ⟨a, b, rfl, ha, hb⟩ := exists_of_filled_two h.arguments
  obtain ⟨v, hv, he⟩ := Outcome.of_bind (unplaced_ok he)
  obtain ⟨p, rfl, hp⟩ := exists_expr_of_resolved h.attributes hv
  exact ⟨a, b, p, ha, hb, hp, he⟩

/-! ## 2. The type of what they build -/

/-- A mix of values of a type has that type, but a mix of whole numbers is a float. -/
theorem valueType_mix {t : ValueType} {a b p e : Expr} (ha : a.valueType.StandsFor t)
    (h : Build.callNode "mix" [a, b, p] = .ok e) : e.valueType = t.widened := by
  obtain ⟨u, hu, rfl⟩ := Outcome.of_map h
  replace hu : (if p.valueType.isNumeric then
    Intrinsic.common "mix" [a.valueType, b.valueType] else _) = .ok u := hu
  split at hu
  · unfold Intrinsic.common at hu
    split at hu
    · next hn =>
      have hnumeric : t.isNumeric = true := by
        rw [List.all_cons, Bool.and_eq_true] at hn
        exact ha.isNumeric ▸ hn.1
      obtain rfl := Except.ok.inj hu
      exact (ValueType.widened_of_isNumeric hnumeric).symm
    · dsimp only at hu
      split at hu
      · next hv =>
        -- the first value has components, so its type is the one asked for
        have hvector : t.isVectorLike = true :=
          ha.isVectorLike ▸ (Bool.and_eq_true_iff.1 hv).1
        have hnumeric := ValueType.isNumeric_eq_false_of_isVectorLike hvector
        obtain rfl := Except.ok.inj hu
        obtain rfl := ha.eq_of_isNumeric_eq_false hnumeric
        exact (ValueType.widened_of_not_isNumeric hnumeric).symm
      · cases hu
  · cases hu

/-- An operation on numbers gives a number. -/
theorem standsFor_float_binaryNode {op : String} {l r e : Expr}
    (hl : l.valueType.StandsFor .float) (hr : r.valueType.StandsFor .float)
    (h : Build.binaryNode op l r = .ok e) : e.valueType.StandsFor .float := by
  obtain ⟨u, hu, rfl⟩ := Outcome.of_map h
  have hnumeric : (l.valueType.isNumeric && r.valueType.isNumeric) = true := by
    rw [hl.isNumeric, hr.isNumeric]
    rfl
  unfold operatorType at hu
  rw [if_pos hnumeric] at hu
  obtain rfl := Except.ok.inj hu
  show ValueType.StandsFor (if _ then _ else _) _
  split
  · exact .inr ⟨rfl, rfl⟩
  · exact .refl _

/-- **What a prebuilt scale builds has the scale's type,** save that a whole number may come where
    it is a float, and that a float comes where it is a whole number. -/
theorem valueType_of_build {s : Scale} {types : List ValueType} {values : List Value} {e : Expr}
    {t : ValueType} (hs : s.isPrebuilt = true) (ht : s.valueType = .ok t)
    (htypes : types = s.argumentTypes) (h : s.Filled P types attrs values)
    (he : s.build attrs values = .ok e) :
    e.valueType = t.widened ∨ e.valueType = .int ∧ t = .float := by
  subst htypes
  cases s with
  | linear d | log d =>
    obtain rfl := Except.ok.inj ht
    obtain ⟨v, rfl, -⟩ := exists_of_filled_one h.arguments
    obtain ⟨_, _, _, ⟨-, hr0⟩, -, -, hmix⟩ := mapped_ok h.attributes (unplaced_ok he)
    exact .inl (valueType_mix hr0 hmix)
  | interpolate u position =>
    obtain rfl := Except.ok.inj ht
    obtain ⟨_, _, _, ⟨-, ha⟩, -, -, hmix⟩ := interpolate_ok h he
    exact .inl (valueType_mix ha hmix)
  | arithmetic op =>
    obtain rfl := Except.ok.inj ht
    obtain ⟨v, w, rfl, ⟨-, hv⟩, -, hw⟩ := exists_of_filled_two h.arguments
    replace he := unplaced_ok he
    cases op with
    | vector2 =>
      obtain rfl := Except.ok.inj he
      exact .inl rfl
    | add | sub | mul | div =>
      rcases standsFor_float_binaryNode hv hw he with hfloat | ⟨hint, hfloat⟩
      · exact .inl hfloat
      · exact .inr ⟨hint, hfloat⟩
  | custom p attributes => cases hs

end Scale

namespace Store

variable {s after : Store} {refs : References} {id : BindingId} {e : Expr}

/-- **The type of what a binding of a prebuilt scale resolves to stands for the announced one, if
    and only if no whole number was announced.** However the scale was set and whatever stands below
    the binding: a mix is never a whole number. -/
theorem standsFor_announced_iff (hs : s.Recorded) {b : Binding} {scale : Scale}
    (hb : s.binding? id = some b) (hscale : s.scale? b.scale = some scale)
    (hprebuilt : scale.isPrebuilt = true) (h : s.resolve refs id = (.ok e, after)) :
    e.valueType.StandsFor b.valueType ↔ b.valueType ≠ .int := by
  obtain ⟨entered, henter⟩ := exists_enter_of_resolve h
  obtain ⟨room, b', scale', -, hb', -, -, hscale', hbody⟩ := Pass.enter_ok henter
  obtain rfl : b' = b := Option.some.inj (hb'.symm.trans hb)
  obtain rfl : scale' = scale := Option.some.inj (hscale'.symm.trans hscale)
  obtain ⟨found, hfound, harguments, htype⟩ := hs hb
  obtain rfl : found = scale' := Option.some.inj (hfound.symm.trans hscale)
  -- nothing is asked of the expressions that the scale builds from
  have hheld : s.Holds fun _ => True := ⟨fun _ _ _ _ _ _ => trivial, fun _ _ _ _ => trivial⟩
  have hrefs : Supplied refs fun _ => True := ⟨fun _ => trivial, fun _ => trivial⟩
  obtain ⟨attrs, values, hfilled, he⟩ :=
    gives_body hrefs (fun _ _ _ _ _ => trivial) hheld hb hscale hbody
  have hbuilt := Scale.valueType_of_build hprebuilt (htype hprebuilt) harguments hfilled he
  exact ValueType.standsFor_iff_ne_int hbuilt

/-- The sum of two whole numbers is a whole number where a float was announced. -/
theorem standsFor_announced_sum :
    ∃ (s after : Store) (b : Binding) (scale : Scale) (e : Expr), s.Recorded ∧
      s.binding? ⟨0⟩ = some b ∧ s.scale? b.scale = some scale ∧ scale.isPrebuilt = true ∧
      s.resolve columnOf ⟨0⟩ = (.ok e, after) ∧
      (e.valueType.StandsFor b.valueType ↔ b.valueType ≠ .int) := by
  let m : Expr := .column "m" .int
  let n : Expr := .column "n" .int
  let s : Store := ⟨[.arithmetic .add],
    [⟨⟨0⟩, .float, [.float, .float], [.expr m, .expr n], .created, rfl⟩]⟩
  have hcreated : Reachable ⟨[.arithmetic .add], []⟩ :=
    Reachable.empty.step (.create (.arithmetic .add))
  have hinvoke : invoke ⟨[.arithmetic .add], []⟩ ⟨0⟩ [.expr m, .expr n] = .ok (⟨0⟩, s) := rfl
  have hs := (hcreated.step (.invoke hinvoke)).recorded
  have hresolve : s.resolve columnOf ⟨0⟩ = (.ok (.binary "+" m n .int), s.mark ⟨0⟩) := rfl
  exact ⟨s, _, _, _, _, hs, rfl, rfl, rfl, hresolve,
    standsFor_announced_iff hs rfl rfl rfl hresolve⟩

/-- A mix of whole numbers is announced as a whole number, and is a float. -/
theorem exists_not_standsFor_announced :
    ∃ (s after : Store) (b : Binding) (scale : Scale) (e : Expr), s.Reachable ∧
      s.binding? ⟨0⟩ = some b ∧ s.scale? b.scale = some scale ∧ scale.isPrebuilt = true ∧
      s.resolve columnOf ⟨0⟩ = (.ok e, after) ∧ ¬ e.valueType.StandsFor b.valueType := by
  let values : List Value := [.literal (.scalar (.int 1)), .literal (.scalar (.int 3))]
  let scale : Scale := .interpolate .int (Scale.floatValue 1)
  have hcreated : Reachable ⟨[Scale.newInterpolate .int], []⟩ :=
    Reachable.empty.step (.create (.interpolate .int))
  have hset : changeScale ⟨[Scale.newInterpolate .int], []⟩ ⟨0⟩
    (·.setPosition (Scale.floatValue 1)) = .ok ⟨[scale], []⟩ := rfl
  have hinvoke : invoke ⟨[scale], []⟩ ⟨0⟩ values =
    .ok (⟨0⟩, ⟨[scale], [⟨⟨0⟩, .int, [.int, .int], values, .created, rfl⟩]⟩) := rfl
  have hs := (hcreated.step (.setPosition hset)).step (.invoke hinvoke)
  exact ⟨_, _, _, _, _, hs, rfl, rfl, rfl, rfl, by decide⟩

end Store

/-! ## 3. What the rules keep, scales keep -/

namespace ParsedFormula

/-- A table of values that are expressions, read as an environment, has the same entries. -/
theorem find?_environmentOf {table : Table Value} {env : Environment}
    (h : environmentOf table = .ok env) (n : String) :
    table.find? n = (env.find? n).map .expr := by
  induction table generalizing env with
  | nil =>
    obtain rfl := Except.ok.inj h
    rfl
  | cons entry rest ih =>
    obtain ⟨m, v⟩ := entry
    cases v with
    | expr e =>
      obtain ⟨env, henv, rfl⟩ := Outcome.of_map h
      have hrest := ih henv
      by_cases hm : m = n
      · simp [Table.find?, hm]
      · simpa [Table.find?, hm] using hrest
    | datum _ | reference _ | binding _ => cases h

end ParsedFormula

namespace Scale

variable {P : Expr → Prop} {attributes : List Attribute} {attrs : Table Value}

/-- What the attributes of a scale have become, and its argument, are an environment of expressions
    of the kind. -/
theorem compileWith_keeps (hP : KeptByRules P) {p : ParsedFormula} {value e : Expr}
    (h : AttributesFilled P attributes attrs) (hvalue : P value)
    (he : p.compileWith (attrs.set inputName (.expr value)) = .ok e) : P e := by
  obtain ⟨env, henv, he⟩ := Outcome.of_bind he
  refine Formula.compile_keeps hP (fun n a ha => ?_) he
  have hfound := ParsedFormula.find?_environmentOf henv n
  rw [ha, Table.find?_set] at hfound
  split at hfound
  · exact Value.expr.inj (Option.some.inj hfound) ▸ hvalue
  · have hresolved : resolved attrs n = .ok (.expr a) := by
      unfold resolved
      rw [hfound]
      rfl
    obtain ⟨_, heq, ha⟩ := exists_expr_of_resolved h hresolved
    exact Value.expr.inj heq ▸ ha

/-- The vector of two numbers asks no rule, and is the call that the rule gives. -/
theorem callNode_vector2 {v w : Expr} (hv : v.valueType.StandsFor .float)
    (hw : w.valueType.StandsFor .float) :
    Build.callNode "Vector2" [v, w] = .ok (.call "Vector2" [v, w] .vector2) := by
  have hnumbers : [v.valueType, w.valueType].all ValueType.isNumeric = true := by
    simp only [List.all_cons, List.all_nil, hv.isNumeric, hw.isNumeric]
    rfl
  have htype : callType "Vector2" [v.valueType, w.valueType] = .ok .vector2 := by
    show Intrinsic.ofNumbers _ _ _ = _
    unfold Intrinsic.ofNumbers
    rw [if_pos hnumbers]
  show (callType "Vector2" [v.valueType, w.valueType]).map _ = _
  rw [htype]
  rfl

/-- **What the rules keep, a scale keeps** when it builds from expressions that fit its slots. -/
theorem build_keeps (hP : KeptByRules P) {s : Scale} {types : List ValueType}
    {values : List Value} {e : Expr} (htypes : types = s.argumentTypes)
    (h : s.Filled P types attrs values) (he : s.build attrs values = .ok e) : P e := by
  subst htypes
  have hmix {a b p : Expr} (ha : P a) (hb : P b) (hp : P p)
      (h : Build.callNode "mix" [a, b, p] = .ok e) : P e := by
    have hall : ∀ x ∈ [a, b, p], P x := by simp [ha, hb, hp]
    exact hP.call hall h
  cases s with
  | linear d =>
    obtain ⟨v, rfl, hv, -⟩ := exists_of_filled_one h.arguments
    obtain ⟨r0, r1, p, ⟨hr0, -⟩, ⟨hr1, -⟩, hp, he⟩ := mapped_ok h.attributes (unplaced_ok he)
    exact hmix hr0 hr1 (linearPosition_keeps hP h.attributes hv hp) he
  | log d =>
    obtain ⟨v, rfl, hv, -⟩ := exists_of_filled_one h.arguments
    obtain ⟨r0, r1, p, ⟨hr0, -⟩, ⟨hr1, -⟩, hp, he⟩ := mapped_ok h.attributes (unplaced_ok he)
    exact hmix hr0 hr1 (logPosition_keeps hP h.attributes hv hp) he
  | interpolate u position =>
    obtain ⟨a, b, p, ⟨ha, -⟩, ⟨hb, -⟩, hp, he⟩ := interpolate_ok h he
    exact hmix ha hb hp he
  | arithmetic op =>
    obtain ⟨v, w, rfl, ⟨hv, hvt⟩, hw, hwt⟩ := exists_of_filled_two h.arguments
    replace he := unplaced_ok he
    cases op with
    | add => exact hP.binary .add hv hw he
    | sub => exact hP.binary .sub hv hw he
    | mul => exact hP.binary .mul hv hw he
    | div => exact hP.binary .div hv hw he
    | vector2 =>
      obtain rfl := Except.ok.inj he
      have hall : ∀ x ∈ [v, w], P x := by simp [hv, hw]
      exact hP.call hall (callNode_vector2 hvt hwt)
  | custom p attributes =>
    obtain ⟨v, rfl, hv, -⟩ := exists_of_filled_one h.arguments
    exact compileWith_keeps hP h.attributes hv he

end Scale

/-! ## 4. What a store resolves -/

namespace Store

variable {s after : Store} {id : BindingId} {e : Expr}

/-- **What the rules keep, resolution keeps**: a property of all expressions that the store holds,
    of constants and of columns is one of what a binding resolves to. -/
theorem resolve_keeps {P : Expr → Prop} (hP : KeptByRules P) {refs : References}
    (hrefs : Supplied refs P) (hs : s.Recorded) (hheld : s.Holds P)
    (h : s.resolve refs id = (.ok e, after)) : P e := by
  have hbuilds : s.Builds P := by
    intro id b scale attrs values e hb hscale hfilled he
    obtain ⟨found, hfound, harguments, -⟩ := hs hb
    obtain rfl : found = scale := Option.some.inj (hfound.symm.trans hscale)
    exact Scale.build_keeps hP harguments hfilled he
  obtain ⟨entered, henter⟩ := exists_enter_of_resolve h
  exact gives_enter hheld hbuilds hrefs _ id henter

/-- A literal becomes a well-typed constant in every slot, and so does a column that a reference
    becomes. -/
theorem supplied_columnOf : Supplied columnOf Expr.WellTyped where
  literal {slot d e} h := by
    have hdatum : ∀ e, Value.datum d = .expr e → e.WellTyped := nofun
    obtain ⟨t, -, h⟩ := Outcome.of_bind h
    split at h
    · exact wellTyped_ofValue hdatum h
    · exact wellTyped_ofValue hdatum h
  reference h := by
    obtain rfl := Except.ok.inj h
    exact .column _ _

/-- **Resolving gives well-typed expressions.** -/
theorem wellTyped_of_resolve (hs : s.Recorded) (hheld : s.Holds Expr.WellTyped)
    (h : s.resolve columnOf id = (.ok e, after)) : e.WellTyped :=
  resolve_keeps keptByRules_wellTyped supplied_columnOf hs hheld h

/-- The vector of a whole number and a reference. -/
theorem wellTyped_of_resolve_vector2 :
    ∃ (s after : Store) (e : Expr), s.Recorded ∧ s.Holds Expr.WellTyped ∧
      s.resolve columnOf ⟨0⟩ = (.ok e, after) ∧ e.WellTyped := by
  let m : Expr := .column "m" .int
  let values : List Value := [.expr m, .reference ⟨"n", none, by decide⟩]
  let s : Store :=
    ⟨[.arithmetic .vector2], [⟨⟨0⟩, .vector2, [.float, .float], values, .created, rfl⟩]⟩
  have hcreated : Reachable ⟨[.arithmetic .vector2], []⟩ :=
    Reachable.empty.step (.create (.arithmetic .vector2))
  have hinvoke : invoke ⟨[.arithmetic .vector2], []⟩ ⟨0⟩ values = .ok (⟨0⟩, s) := rfl
  have hs : s.Recorded := (hcreated.step (.invoke hinvoke)).recorded
  have hheld : s.Holds Expr.WellTyped := by
    refine ⟨fun scale hscale a ha => ?_, fun b hb e he => ?_⟩
    · obtain rfl := List.mem_singleton.1 hscale
      cases ha
    · obtain rfl := List.mem_singleton.1 hb
      obtain rfl : e = m := by simpa [s, values] using he
      exact .column _ _
  have hresolve : s.resolve columnOf ⟨0⟩ =
      (.ok (.call "Vector2" [m, .column "n" .float] .vector2), s.mark ⟨0⟩) := rfl
  exact ⟨s, _, _, hs, hheld, hresolve, wellTyped_of_resolve hs hheld hresolve⟩

end Store

end VisualScale
