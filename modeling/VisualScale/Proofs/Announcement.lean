import VisualScale.Proofs.Compile
import VisualScale.Proofs.Declaration
import VisualScale.Proofs.Table
import VisualScale.Resolve

/-!
# The announced type is kept

When a scale is invoked, its binding announces the type of the result. For a custom scale that type
is found by compiling the formula against variables of the declared types; the expression is built
later, against what the attributes and the argument have become, and a whole number may have come
where a float was declared. The main statement, `Scale.build_of_bind`: what could be bound can be
built, and the type of what is built stands for the announced one.
-/

namespace VisualScale

/-- What fits a slot that does not accept every number is what stands for its type. -/
theorem fits_false_iff (actual slot : ValueType) :
    fits actual slot false = true ↔ actual.StandsFor slot := by
  unfold fits ValueType.StandsFor
  rw [Bool.false_and, Bool.or_false, Bool.or_eq_true, Bool.and_eq_true, beq_iff_eq, beq_iff_eq,
    beq_iff_eq, and_comm]

namespace ParsedFormula

theorem environmentOf_map_expr (env : Environment) :
    environmentOf (env.map fun (n, e) => (n, .expr e)) = .ok env := by
  induction env with
  | nil => rfl
  | cons entry rest ih =>
    obtain ⟨n, e⟩ := entry
    show (environmentOf (rest.map _)).map ((n, e) :: ·) = _
    rw [ih]
    rfl

end ParsedFormula

namespace Scale

/-! ## 1. Attributes that have become expressions -/

/-- The attributes of a scale have become expressions that fit their slots, in order. -/
def Fitted (s : Scale) (attrs : Table Value) : Prop :=
  List.Forall₂ (fun (a : Attribute) (r : String × Value) => r.1 = a.name ∧
    ∃ e, r.2 = .expr e ∧ fits e.valueType a.valueType a.acceptsNumeric = true) s.attributes attrs

/-- The fitted attributes of a custom scale are an environment of expressions whose types stand for
    the declared ones. -/
theorem Fitted.exists_environment {p : ParsedFormula} {attributes : Table CustomAttribute}
    {attrs : Table Value} (h : (custom p attributes).Fitted attrs) :
    ∃ env : Environment, attrs = env.map (fun (n, e) => (n, .expr e)) ∧
      List.Forall₂ (fun a b => a.1 = b.1 ∧ a.2.valueType.StandsFor b.2.valueType) env
        attributes := by
  unfold Fitted Scale.attributes at h
  induction attributes generalizing attrs with
  | nil =>
    cases h
    exact ⟨[], rfl, .nil⟩
  | cons entry rest ih =>
    obtain ⟨n, a⟩ := entry
    obtain _ | ⟨⟨hn, e, he, hfit⟩, hrest⟩ := h
    next r attrs =>
    obtain ⟨env, rfl, henv⟩ := ih hrest
    obtain ⟨m, v⟩ := r
    obtain rfl : m = n := hn
    obtain rfl : v = .expr e := he
    exact ⟨(m, e) :: env, rfl, .cons ⟨rfl, (fits_false_iff _ _).1 hfit⟩ henv⟩

/-- No attribute of the first scale has another type in the second one. -/
def SameTypes (before after : Scale) : Prop :=
  ∀ a ∈ before.attributes, ∀ a' ∈ after.attributes, a'.name = a.name → a'.valueType = a.valueType

theorem SameTypes.eq {p q : ParsedFormula} {before after : Table CustomAttribute}
    (h : (custom p before).SameTypes (custom q after)) {n : String} {a a' : CustomAttribute}
    (ha : before.find? n = some a) (ha' : after.find? n = some a') : a'.valueType = a.valueType :=
  h _ (List.mem_map_of_mem (Table.mem_of_find? ha)) _ (List.mem_map_of_mem (Table.mem_of_find? ha'))
    rfl

/-! ## 2. From the declared types to the types that came -/

theorem find?_typeEnvironment (attributes : Table CustomAttribute) (n : String) :
    (typeEnvironment attributes).find? n =
      if n = inputName then some (.var inputName .float)
      else (attributes.find? n).map fun a => .var n a.valueType := by
  unfold typeEnvironment
  rw [Table.find?_set, Table.find?_map fun n (a : CustomAttribute) => Expr.var n a.valueType]

/-- For names that were declared or are the input, the types of the expressions stand for those of
    the variables by which the type was announced. -/
theorem related_typeEnvironment {p : ParsedFormula} {before now : Table CustomAttribute}
    {env : Environment} {value : Expr} {names : List String}
    (hkept : (custom p before).SameTypes (custom p now))
    (hstays : ∀ n, (before.find? n).isSome = true → (now.find? n).isSome = true)
    (henv : List.Forall₂ (fun a b => a.1 = b.1 ∧ a.2.valueType.StandsFor b.2.valueType) env now)
    (hvalue : value.valueType.StandsFor .float)
    (hnames : ∀ n ∈ names, ((typeEnvironment before).find? n).isSome = true) :
    Formula.Related Expr.TypeStandsFor names (env.set inputName value)
      (typeEnvironment before) := by
  intro n hn
  have hsome := hnames n hn
  rw [find?_typeEnvironment] at hsome ⊢
  rw [Table.find?_set]
  by_cases hi : n = inputName
  · rw [if_pos hi, if_pos hi]
    exact .some hvalue
  · rw [if_neg hi] at hsome ⊢
    rw [if_neg hi]
    rw [Option.isSome_map] at hsome
    obtain ⟨a, ha⟩ := Option.isSome_iff_exists.1 hsome
    obtain ⟨a', ha'⟩ := Option.isSome_iff_exists.1 (hstays n hsome)
    have hfound := Table.find?_rel
      (R := fun (e : Expr) (a : CustomAttribute) => e.valueType.StandsFor a.valueType) henv n
    rw [ha'] at hfound
    rw [ha]
    generalize Table.find? env n = x at hfound ⊢
    obtain ⟨he⟩ | _ := hfound
    refine .some ?_
    show ValueType.StandsFor _ a.valueType
    rw [← hkept.eq ha ha']
    exact he

/-! ## 3. What could be bound can be built -/

/-- A binding of a custom scale announces the type that the formula has in the type environment. -/
theorem exists_of_bind {id : ScaleId} {p : ParsedFormula} {attributes : Table CustomAttribute}
    {arguments : List Value} {b : Binding}
    (h : Store.bind id (custom p attributes) arguments = .ok b) :
    ∃ g, p.compile (typeEnvironment attributes) = .ok g ∧ g.valueType = b.valueType := by
  unfold Store.bind at h
  split at h
  · obtain ⟨t, ht, rfl⟩ := Outcome.of_map h
    obtain ⟨g, hg, rfl⟩ := Outcome.of_map ht
    exact ⟨g, hg, rfl⟩
  · cases h

/-- **What could be bound can be built, at the announced type.** A custom scale is declared by any
    calls `before` the invocation and any calls `later`. As long as no attribute that existed at the
    invocation has got another type, expressions that fit the slots of the attributes and of the
    argument always make an expression, and its type stands for the announced one. -/
theorem build_of_bind (p : ParsedFormula) (before later : List Declaration) {id : ScaleId}
    {arguments : List Value} {b : Binding}
    (hbind : Store.bind id ((custom p []).afterAll before) arguments = .ok b)
    (hkept : ((custom p []).afterAll before).SameTypes ((custom p []).afterAll (before ++ later)))
    {attrs : Table Value} {value : Expr}
    (hattrs : ((custom p []).afterAll (before ++ later)).Fitted attrs)
    (hvalue : fits value.valueType .float false = true) :
    ∃ e, ((custom p []).afterAll (before ++ later)).build attrs [.expr value] = .ok e ∧
      e.valueType.StandsFor b.valueType := by
  rw [afterAll_append] at hkept hattrs ⊢
  rw [afterAll_custom] at hbind hkept hattrs ⊢
  generalize attributesAfterAll [] before = declared at hbind hkept hattrs ⊢
  rw [afterAll_custom] at hkept hattrs ⊢
  obtain ⟨g, hg, hgt⟩ := exists_of_bind hbind
  obtain ⟨env, rfl, henv⟩ := hattrs.exists_environment
  -- the names that the formula reads were all known when the type was announced
  have hrelated := related_typeEnvironment hkept (fun n => find?_isSome_afterAll later) henv
    ((fits_false_iff _ _).1 hvalue) (Formula.isSome_of_compile p.formula hg)
  have halike : Alike _ Expr.TypeStandsFor (p.compile (env.set inputName value))
      (p.compile (typeEnvironment declared)) :=
    Formula.compile_alike respected_typeStandsFor p.source p.formula hrelated
  rw [hg] at halike
  obtain ⟨e, he, het⟩ := halike.exists_of_right
  refine ⟨e, ?_, hgt ▸ het⟩
  show p.compileWith (Table.set (env.map fun (n, e) => (n, .expr e)) inputName (.expr value)) = .ok e
  rw [← Table.map_set]
  unfold ParsedFormula.compileWith
  rw [ParsedFormula.environmentOf_map_expr]
  exact he

/-- A gain announced over floats, that is a whole number by the time it is built. -/
theorem build_of_bind_gain :
    let p : ParsedFormula :=
      ⟨"gain * value", .binary .mul (.name "gain" default) (.name "value" default) default⟩
    let before : List Declaration := [⟨"gain", floatValue 2, some "float"⟩]
    let later : List Declaration := [⟨"gain", .literal (.scalar (.int 3)), none⟩]
    let three : Expr := .const (.literal (.scalar (.int 3))) .int
    ∃ b e, Store.bind ⟨0⟩ ((custom p []).afterAll before) [.expr (.column "n" .int)] = .ok b ∧
      ((custom p []).afterAll (before ++ later)).build [("gain", .expr three)]
        [.expr (.column "n" .int)] = .ok e ∧ e.valueType.StandsFor b.valueType := by
  intro p before later three
  have hbind : Store.bind ⟨0⟩ ((custom p []).afterAll before) [.expr (.column "n" .int)] =
      .ok ⟨⟨0⟩, .float, [.float], [.expr (.column "n" .int)], .created, rfl⟩ := rfl
  have hkept : ((custom p []).afterAll before).SameTypes
      ((custom p []).afterAll (before ++ later)) := by
    intro a ha a' ha' _
    obtain rfl := List.mem_singleton.mp ha
    obtain rfl := List.mem_singleton.mp ha'
    rfl
  have hattrs : ((custom p []).afterAll (before ++ later)).Fitted [("gain", .expr three)] :=
    .cons ⟨rfl, three, rfl, rfl⟩ .nil
  have hvalue : fits (Expr.column "n" .int).valueType .float false = true := rfl
  obtain ⟨e, he, het⟩ := build_of_bind p before later hbind hkept hattrs hvalue
  exact ⟨_, e, hbind, he, het⟩

end Scale

end VisualScale
