import VisualScale.Proofs.Contents
import VisualScale.Proofs.Stored

/-!
# What the payload of a binding determines

Of a scale, the payload of a binding says what it is called and what its attributes are bound to. It
does not say which operation an arithmetic scale has, nor the formula of a custom one. And where a
constant was given its type by hand and holds a reference or an expression, the payload has the
fields of what is held but not its kind: a reference with a type and a column are stored alike. So
two bindings may have one payload and resolve to different expressions, for each of these reasons
(`Store.exists_same_payload_resolved_otherwise`).

Two bindings whose payloads are the same resolve to the same expressions, if the arithmetic scales
at the same places of their trees have the same operation, the custom ones the same formula, however
it is laid out, and the constants hold nothing, texts or literals
(`Resolver.resolve_eq_of_same_payloads`).

* `Formula.toOption_compile_shape` -- the places in a formula do not matter to what it compiles to;
* `Scale.toOption_build_eq` -- what a scale builds depends on its name and its rule alone;
* `Payload.Stored.matches_of_same` -- values that are stored alike are equal, or bindings that are
  stored alike;
* `Store.build?_eq_of_same` -- so the folds of two trees agree, from the leaves on.
-/

namespace VisualScale

/-! ## 1. Formulas without places -/

theorem toOption_bind {ε α β : Type} (x : Except ε α) (k : α → Except ε β) :
    (x >>= k).toOption = x.toOption.bind fun a => (k a).toOption := by
  cases x <;> rfl

namespace Formula

mutual

/-- The formula with all its places left out. -/
def shape : Formula → Formula
  | whole n _ => .whole n default
  | real d _ => .real d default
  | name id _ => .name id default
  | binary op left right _ => .binary op left.shape right.shape default
  | signed sign operand _ => .signed sign operand.shape default
  | call function args _ => .call function (shapeOfAll args) default
  | component value field _ => .component value.shape field default

/-- The same of formulas side by side. -/
def shapeOfAll : List Formula → List Formula
  | [] => []
  | f :: rest => f.shape :: shapeOfAll rest

end

theorem toOption_placed {α : Type} (source : String) (span : Span) (r : Except Fault α) :
    (placed source span r).toOption = r.toOption := by
  cases r <;> rfl

mutual

/-- **What a formula compiles to, if to anything, does not depend on its places.** -/
theorem toOption_compile_shape (source source' : String) (env : Environment) : (f : Formula) →
    (f.compile source env).toOption = (f.shape.compile source' env).toOption
  | whole n _ => by
    rw [shape, compile, compile, toOption_placed, toOption_placed]
  | real d _ => rfl
  | name id _ => by
    rw [shape, compile, compile]
    cases env.find? id <;> rfl
  | binary op left right _ => by
    rw [shape, compile, compile, toOption_bind, toOption_bind,
      toOption_compile_shape source source' env left]
    simp only [toOption_bind, toOption_placed,
      toOption_compile_shape source source' env right]
  | signed sign operand _ => by
    rw [shape, compile, compile, toOption_bind, toOption_bind,
      toOption_compile_shape source source' env operand]
    simp only [toOption_placed]
  | call function args _ => by
    rw [shape, compile, compile]
    split
    · rw [toOption_bind, toOption_bind, toOption_compileAll_shape source source' env args]
      simp only [toOption_placed]
    · rfl
  | component value field _ => by
    rw [shape, compile, compile, toOption_bind, toOption_bind,
      toOption_compile_shape source source' env value]
    simp only [toOption_placed]

/-- The same of formulas side by side. -/
theorem toOption_compileAll_shape (source source' : String) (env : Environment) :
    (fs : List Formula) →
    (compileAll source env fs).toOption = (compileAll source' env (shapeOfAll fs)).toOption
  | [] => rfl
  | f :: rest => by
    rw [shapeOfAll, compileAll, compileAll, toOption_bind, toOption_bind,
      toOption_compile_shape source source' env f]
    simp only [toOption_bind, toOption_compileAll_shape source source' env rest]

end

end Formula

/-! ## 2. The rule of a scale -/

namespace Scale

/-- Two arithmetic scales have the same operation, two custom ones the same formula, however it is
    laid out. Other scales have no rule of their own. -/
def SameRule : Scale → Scale → Prop
  | arithmetic op, arithmetic op' => op = op'
  | custom p _, custom p' _ => p.formula.shape = p'.formula.shape
  | _, _ => True

theorem toOption_compileWith_eq {p p' : ParsedFormula} (h : p.formula.shape = p'.formula.shape)
    (env : Table Value) : (p.compileWith env).toOption = (p'.compileWith env).toOption := by
  unfold ParsedFormula.compileWith ParsedFormula.compile
  rw [toOption_bind, toOption_bind]
  refine congrArg _ (funext fun env => ?_)
  rw [p.formula.toOption_compile_shape p.source "" env, h,
    ← p'.formula.toOption_compile_shape p'.source "" env]

/-- **What a scale builds depends on its name and its rule**, and on what its attributes and
    arguments have become. -/
theorem toOption_build_eq {s s' : Scale} (hname : s.name = s'.name) (h : s.SameRule s')
    (attrs : Table Value) (values : List Value) :
    (s.build attrs values).toOption = (s'.build attrs values).toOption := by
  cases s with
  | linear d =>
    cases s' with
    | linear d' => rcases values with _ | ⟨v, _ | ⟨w, more⟩⟩ <;> rfl
    | _ => simp [name] at hname
  | log d =>
    cases s' with
    | log d' => rcases values with _ | ⟨v, _ | ⟨w, more⟩⟩ <;> rfl
    | _ => simp [name] at hname
  | interpolate t v =>
    cases s' with
    | interpolate t' v' => rcases values with _ | ⟨v, _ | ⟨w, _ | ⟨x, more⟩⟩⟩ <;> rfl
    | _ => simp [name] at hname
  | arithmetic op =>
    cases s' with
    | arithmetic op' =>
      obtain rfl : op = op' := h
      rfl
    | _ => simp [name] at hname
  | custom p attributes =>
    cases s' with
    | custom p' attributes' =>
      rcases values with _ | ⟨v, _ | ⟨w, more⟩⟩
      · rfl
      · exact toOption_compileWith_eq h _
      · rfl
    | _ => simp [name] at hname

/-- The slots of scales of a name that accept numbers. -/
def takesNumbers (scale slot : String) : Bool :=
  (scale == "LinearScale" || scale == "LogScale") && (slot == "d0" || slot == "d1")

/-- Which slots accept numbers can be told from the names of the scale and of the attribute. -/
theorem acceptsNumeric_eq {s : Scale} {a : Attribute} (h : a ∈ s.attributes) :
    a.acceptsNumeric = takesNumbers s.name a.name := by
  cases s with
  | linear d | log d =>
    simp only [attributes, domainRangeAttributes, List.mem_cons, List.not_mem_nil, or_false] at h
    rcases h with rfl | rfl | rfl | rfl
    all_goals rfl
  | interpolate t v =>
    obtain rfl := List.mem_singleton.1 h
    rfl
  | arithmetic op => cases h
  | custom p attributes =>
    obtain ⟨entry, -, rfl⟩ := List.mem_map.1 h
    rfl

end Scale

/-! ## 3. Values that are stored alike -/

/-- The same value, or bindings that stand in a relation. -/
inductive Value.Matches (R : BindingId → BindingId → Prop) : Value → Value → Prop where
  | datum (d : Datum) : Matches R (.datum d) (.datum d)
  | reference (r : DataRef) : Matches R (.reference r) (.reference r)
  | expr (e : Expr) : Matches R (.expr e) (.expr e)
  | binding {c c' : BindingId} (h : R c c') : Matches R (.binding c) (.binding c')

/-- Bindings that match have a relation, from where they stand. -/
theorem Value.forall₂_matches_of_index {R S : BindingId → BindingId → Prop} {vs vs' : List Value}
    (h : List.Forall₂ (Value.Matches R) vs vs')
    (hindex : ∀ (i : Nat) (c c' : BindingId), vs[i]? = some (.binding c) →
      vs'[i]? = some (.binding c') → R c c' → S c c') :
    List.Forall₂ (Value.Matches S) vs vs' := by
  induction h with
  | nil => exact .nil
  | cons hv _ ih =>
    refine .cons ?_ (ih fun i => hindex (i + 1))
    cases hv with
    | datum d => exact .datum d
    | reference r => exact .reference r
    | expr e => exact .expr e
    | binding h => exact .binding (hindex 0 _ _ rfl rfl h)

namespace Payload

theorem Same.text_inj {a b : String} (h : (Payload.text a).Same (.text b)) : a = b := by
  cases h
  rfl

/-- What stands under one name in records that are the same is the same. -/
theorem Same.of_find? {fields fields' : Table Payload} {p q : Payload} (name : String)
    (h : (Payload.record fields).Same (.record fields')) (hp : fields.find? name = some p)
    (hq : fields'.find? name = some q) : p.Same q := by
  cases h with
  | record h =>
    have hrel := h name
    rw [hp, hq] at hrel
    cases hrel with
    | some h => exact h

theorem Same.forall₂ {ps qs : List Payload} (h : (Payload.list ps).Same (.list qs)) :
    List.Forall₂ Same ps qs := by
  cases h with
  | list h => exact h

/-- The literal is read from its payload. -/
theorem Same.literal_inj {l l' : Literal} (h : (ofLiteral l).Same (ofLiteral l')) : l = l' := by
  have hread := h.toDatum_eq
  have hl : (ofLiteral l).toDatum = some (.literal l) := toDatum_ofDatum (.literal l)
  have hl' : (ofLiteral l').toDatum = some (.literal l') := toDatum_ofDatum (.literal l')
  rw [hl, hl'] at hread
  exact (Datum.literal.inj (Option.some.inj hread)).symm

theorem toValueType_ofType? (t : Option ValueType) : (ofType? t).toValueType = t := by
  cases t with
  | none => rfl
  | some t => exact ValueType.ofName?_name t

theorem Same.type_inj {t t' : Option ValueType} (h : (ofType? t).Same (ofType? t')) : t = t' := by
  have hread := h.toValueType_eq
  rw [toValueType_ofType?, toValueType_ofType?] at hread
  exact hread.symm

mutual

/-- An expression that has a payload has no stray leaf, so it is whole if its constants hold
    data. -/
theorem whole_of_ofExpr : (e : Expr) → {p : Payload} → ofExpr e = .ok p → e.HoldsData → e.Whole
  | .const v _, _, _, hdata => by
    obtain ⟨d, rfl⟩ := hdata v List.mem_cons_self
    exact .const _ _
  | .var _ _, _, _, _ => .var _ _
  | .column _ _, _, _, _ => .column _ _
  | .unary _ operand _, _, h, hdata => by
    obtain ⟨p, hp, -⟩ := Outcome.of_bind h
    exact .unary _ _ (whole_of_ofExpr operand hp hdata)
  | .binary _ left right _, _, h, hdata => by
    obtain ⟨l, hl, h⟩ := Outcome.of_bind h
    obtain ⟨r, hr, -⟩ := Outcome.of_bind h
    obtain ⟨hleft, hright⟩ := List.forall_mem_append.1 hdata
    exact .binary _ _ (whole_of_ofExpr left hl hleft) (whole_of_ofExpr right hr hright)
  | .call _ args _, _, h, hdata => by
    obtain ⟨ps, hps, -⟩ := Outcome.of_bind h
    exact .call _ _ (whole_of_ofExprs args hps hdata)
  | .component value _ _, _, h, hdata => by
    obtain ⟨p, hp, -⟩ := Outcome.of_bind h
    exact .component _ _ (whole_of_ofExpr value hp hdata)
  | .stray _, _, h, _ => nomatch h

/-- The same of expressions side by side. -/
theorem whole_of_ofExprs : (es : List Expr) → {ps : List Payload} → ofExprs es = .ok ps →
    (∀ v ∈ Expr.heldByAll es, ∃ d, v = .datum d) → ∀ e ∈ es, e.Whole
  | [], _, _, _ => List.forall_mem_nil _
  | e :: rest, _, h, hdata => by
    obtain ⟨p, hp, h⟩ := Outcome.of_bind h
    obtain ⟨ps, hps, -⟩ := Outcome.of_bind h
    obtain ⟨hfirst, hrest⟩ := List.forall_mem_append.1 hdata
    exact List.forall_mem_cons.2 ⟨whole_of_ofExpr e hp hfirst, whole_of_ofExprs rest hps hrest⟩

end

/-- Expressions that are stored alike are equal, if their constants hold data. -/
theorem Same.expr_inj {e e' : Expr} {p p' : Payload} (h : ofExpr e = .ok p)
    (h' : ofExpr e' = .ok p') (hdata : e.HoldsData) (hdata' : e'.HoldsData)
    (hsame : p.Same p') : e = e' := by
  obtain ⟨q, hq, hread⟩ := (whole_of_ofExpr e h hdata).isStored
  obtain ⟨q', hq', hread'⟩ := (whole_of_ofExpr e' h' hdata').isStored
  obtain rfl := Except.ok.inj (h.symm.trans hq)
  obtain rfl := Except.ok.inj (h'.symm.trans hq')
  exact Option.some.inj ((hread p' hsame).symm.trans (hread' p' (.refl p')))

section

variable {f f' : BindingId → Except Failure Payload}

/-- The bindings have payloads that are the same. -/
def StoredAlike (f f' : BindingId → Except Failure Payload) (c c' : BindingId) : Prop :=
  ∃ p p', f c = .ok p ∧ f' c' = .ok p' ∧ p.Same p'

/-- **Values that are stored alike are equal, or bindings that are stored alike.** -/
theorem Stored.matches_of_same {v v' : Value} {p p' : Payload} (h : Stored f v p)
    (h' : Stored f' v' p') (hdata : v.HoldsData) (hdata' : v'.HoldsData) (hsame : p.Same p') :
    v.Matches (StoredAlike f f') v' := by
  cases h with
  | unbound =>
    cases h' with
    | unbound => exact .datum _
    | _ => exact absurd (hsame.of_find? "kind" rfl rfl).text_inj (by decide)
  | literal l =>
    cases h' with
    | literal l' =>
      obtain rfl := (hsame.of_find? "value" rfl rfl).literal_inj
      exact .datum _
    | _ => exact absurd (hsame.of_find? "kind" rfl rfl).text_inj (by decide)
  | reference r =>
    cases h' with
    | reference r' =>
      have hfield := (hsame.of_find? "field" rfl rfl).text_inj
      have htype := (hsame.of_find? "value_type" rfl rfl).type_inj
      obtain ⟨field, t, hne⟩ := r
      obtain ⟨field', t', hne'⟩ := r'
      obtain rfl : field = field' := hfield
      obtain rfl : t = t' := htype
      exact .reference _
    | _ => exact absurd (hsame.of_find? "kind" rfl rfl).text_inj (by decide)
  | expr he =>
    cases h' with
    | expr he' =>
      obtain rfl := Same.expr_inj he he' (hdata _ rfl) (hdata' _ rfl)
        (hsame.of_find? "expression" rfl rfl)
      exact .expr _
    | _ => exact absurd (hsame.of_find? "kind" rfl rfl).text_inj (by decide)
  | binding hc =>
    cases h' with
    | binding hc' => exact .binding ⟨_, _, hc, hc', hsame.of_find? "binding" rfl rfl⟩
    | _ => exact absurd (hsame.of_find? "kind" rfl rfl).text_inj (by decide)

theorem Stored.forall₂_matches {vs vs' : List Value} {ps ps' : List Payload}
    (h : List.Forall₂ (Stored f) vs ps) (h' : List.Forall₂ (Stored f') vs' ps')
    (hdata : ∀ v ∈ vs, v.HoldsData) (hdata' : ∀ v ∈ vs', v.HoldsData)
    (hsame : List.Forall₂ Same ps ps') :
    List.Forall₂ (Value.Matches (StoredAlike f f')) vs vs' := by
  induction hsame generalizing vs vs' with
  | nil =>
    obtain rfl := List.forall₂_nil_right_iff.1 h
    obtain rfl := List.forall₂_nil_right_iff.1 h'
    exact .nil
  | cons hp _ ih =>
    obtain ⟨v, rest, hv, hrest, rfl⟩ := List.forall₂_cons_right_iff.1 h
    obtain ⟨v', rest', hv', hrest', rfl⟩ := List.forall₂_cons_right_iff.1 h'
    obtain ⟨hfirst, hdata⟩ := List.forall_mem_cons.1 hdata
    obtain ⟨hfirst', hdata'⟩ := List.forall_mem_cons.1 hdata'
    exact .cons (hv.matches_of_same hv' hfirst hfirst' hp) (ih hrest hrest' hdata hdata')

end

/-! ## 4. Bindings that are stored alike -/

/-- Two attributes have the same name and the same type. -/
def SameDeclared (a a' : Attribute) : Prop := a.name = a'.name ∧ a.valueType = a'.valueType

/-- Attributes that are stored alike are declared alike, and what they are bound to is stored
    alike. -/
theorem same_of_same_attributes {as as' : List Attribute} {ps ps' : List Payload}
    (h : as.length = ps.length) (h' : as'.length = ps'.length)
    (hsame : List.Forall₂ Same (List.zipWith attributeField as ps)
      (List.zipWith attributeField as' ps')) :
    List.Forall₂ SameDeclared as as' ∧ List.Forall₂ Same ps ps' := by
  rw [← List.map_uncurry_zip_eq_zipWith, ← List.map_uncurry_zip_eq_zipWith,
    List.forall₂_map_left_iff, List.forall₂_map_right_iff] at hsame
  have hentries : List.Forall₂ (fun x y => SameDeclared x.1 y.1 ∧ x.2.Same y.2)
      (as.zip ps) (as'.zip ps') := by
    refine hsame.imp fun x y hxy => ?_
    have hname : x.1.name = y.1.name := (hxy.of_find? "name" rfl rfl).text_inj
    have htype : some x.1.valueType = some y.1.valueType :=
      Same.type_inj (hxy.of_find? "value_type" rfl rfl)
    exact ⟨⟨hname, Option.some.inj htype⟩, hxy.of_find? "binding" rfl rfl⟩
  constructor
  · rw [← List.map_fst_zip (Nat.le_of_eq h), ← List.map_fst_zip (Nat.le_of_eq h')]
    exact List.forall₂_map_left_iff.2
      (List.forall₂_map_right_iff.2 (hentries.imp fun _ _ h => h.1))
  · rw [← List.map_snd_zip (Nat.le_of_eq h.symm), ← List.map_snd_zip (Nat.le_of_eq h'.symm)]
    exact List.forall₂_map_left_iff.2
      (List.forall₂_map_right_iff.2 (hentries.imp fun _ _ h => h.2))

theorem eq_of_same_types {ts ts' : List ValueType}
    (h : List.Forall₂ Same (ts.map fun t => .text t.name) (ts'.map fun t => .text t.name)) :
    ts = ts' := by
  rw [List.forall₂_map_left_iff, List.forall₂_map_right_iff] at h
  rw [← List.forall₂_eq_eq_eq]
  refine h.imp fun t t' ht => ?_
  have htype : some t = some t' := Same.type_inj ht
  exact Option.some.inj htype

/-- The scales and bindings of two payloads that are the same: the scales have one name and declare
    the same attributes, the arguments have the same types, and what is bound matches. -/
structure Corresponds (R : BindingId → BindingId → Prop) (scale scale' : Scale)
    (b b' : Binding) : Prop where
  name : scale.name = scale'.name
  argumentTypes : b.argumentTypes = b'.argumentTypes
  declared : List.Forall₂ SameDeclared scale.attributes scale'.attributes
  attributes : List.Forall₂ (Value.Matches R) (scale.attributes.map Attribute.value)
    (scale'.attributes.map Attribute.value)
  arguments : List.Forall₂ (Value.Matches R) b.arguments b'.arguments

/-- The relation of what is bound may depend on where it is bound: the slots are those of the
    attributes and then those of the arguments. -/
theorem Corresponds.of_slots {R S : BindingId → BindingId → Prop} {scale scale' : Scale}
    {b b' : Binding} (h : Corresponds R scale scale' b b')
    (hslot : ∀ (i : Nat) (x x' : BindingId),
      (scale.attributes.map Attribute.value ++ b.arguments)[i]? = some (.binding x) →
      (scale'.attributes.map Attribute.value ++ b'.arguments)[i]? = some (.binding x') →
      R x x' → S x x') : Corresponds S scale scale' b b' where
  name := h.name
  argumentTypes := h.argumentTypes
  declared := h.declared
  attributes := by
    refine Value.forall₂_matches_of_index h.attributes fun i x x' hx hx' => hslot i x x' ?_ ?_
    · rw [List.getElem?_append_left (List.getElem?_eq_some_iff.1 hx).1]
      exact hx
    · rw [List.getElem?_append_left (List.getElem?_eq_some_iff.1 hx').1]
      exact hx'
  arguments := by
    have hlength := h.attributes.length_eq
    refine Value.forall₂_matches_of_index h.arguments fun i x x' hx hx' =>
      hslot ((scale.attributes.map Attribute.value).length + i) x x' ?_ ?_
    · rw [List.getElem?_append_right (Nat.le_add_right _ _), Nat.add_sub_cancel_left]
      exact hx
    · rw [hlength, List.getElem?_append_right (Nat.le_add_right _ _), Nat.add_sub_cancel_left]
      exact hx'

/-- **Bindings that are stored alike correspond**, part by part. -/
theorem corresponds_of_same {s s' : Store} {depth depth' : Nat} {id id' : BindingId}
    {p p' : Payload} (h : ofBindingWithin s depth id = .ok p)
    (h' : ofBindingWithin s' depth' id' = .ok p') (hdata : ∀ v ∈ s.slotValues id, v.HoldsData)
    (hdata' : ∀ v ∈ s'.slotValues id', v.HoldsData) (hsame : p.Same p') :
    ∃ less less' b b' scale scale', s.binding? id = some b ∧ s'.binding? id' = some b' ∧
      s.scale? b.scale = some scale ∧ s'.scale? b'.scale = some scale' ∧
      Corresponds (StoredAlike (ofBindingWithin s less) (ofBindingWithin s' less'))
        scale scale' b b' := by
  obtain ⟨less, b, scale, arguments, attributes, -, hb, hs, harguments, hattributes, rfl⟩ :=
    exists_of_ofBindingWithin h
  obtain ⟨less', b', scale', arguments', attributes', -, hb', hs', harguments', hattributes',
    rfl⟩ := exists_of_ofBindingWithin h'
  have hlength : scale.attributes.length = attributes.length := by
    rw [← hattributes.length_eq, List.length_map]
  have hlength' : scale'.attributes.length = attributes'.length := by
    rw [← hattributes'.length_eq, List.length_map]
  obtain ⟨hdeclared, hpayloads⟩ := same_of_same_attributes hlength hlength'
    (hsame.of_find? "attributes" rfl rfl).forall₂
  rw [Store.slotValues_of hb hs] at hdata
  rw [Store.slotValues_of hb' hs'] at hdata'
  obtain ⟨hbound, hgiven⟩ := List.forall_mem_append.1 hdata
  obtain ⟨hbound', hgiven'⟩ := List.forall_mem_append.1 hdata'
  refine ⟨less, less', b, b', scale, scale', hb, hb', hs, hs', ?_, ?_, hdeclared, ?_, ?_⟩
  · exact (hsame.of_find? "scale" rfl rfl).text_inj
  · exact eq_of_same_types (hsame.of_find? "argument_types" rfl rfl).forall₂
  · exact Stored.forall₂_matches hattributes hattributes' hbound hbound' hpayloads
  · exact Stored.forall₂_matches harguments harguments' hgiven hgiven'
      (hsame.of_find? "arguments" rfl rfl).forall₂

end Payload

/-! ## 5. The folds of two trees -/

section

variable {known known' : BindingId → Option Expr}

/-- What is known of two bindings is the same. -/
def KnownAlike (known known' : BindingId → Option Expr) (c c' : BindingId) : Prop :=
  known c = known' c'

theorem fill?_eq_of_matches {v v' : Value} (h : v.Matches (KnownAlike known known') v')
    (t : ValueType) (acceptsNumeric : Bool) :
    v.fill? known t acceptsNumeric = v'.fill? known' t acceptsNumeric := by
  cases h with
  | datum d | reference r | expr e => rfl
  | @binding c c' h =>
    show (known c >>= _) = (known' c' >>= _)
    rw [show known c = known' c' from h]

theorem attributes?_eq_of_matches {as as' : List Attribute}
    (hdeclared : List.Forall₂ Payload.SameDeclared as as')
    (hnumbers : ∀ a ∈ as, ∀ a' ∈ as', a.name = a'.name → a.acceptsNumeric = a'.acceptsNumeric)
    (h : List.Forall₂ (Value.Matches (KnownAlike known known')) (as.map Attribute.value)
      (as'.map Attribute.value)) : attributes? known as = attributes? known' as' := by
  induction hdeclared with
  | nil => rfl
  | @cons a a' as as' hfirst _ ih =>
    obtain ⟨hname, htype⟩ := hfirst
    rw [List.map_cons, List.map_cons, List.forall₂_cons] at h
    have haccepts := hnumbers a List.mem_cons_self a' List.mem_cons_self hname
    have hrest := ih (fun b hb b' hb' =>
      hnumbers b (List.mem_cons_of_mem _ hb) b' (List.mem_cons_of_mem _ hb')) h.2
    unfold attributes? at hrest ⊢
    rw [List.mapM_cons, List.mapM_cons, hrest, hname, htype, haccepts, fill?_eq_of_matches h.1]

theorem arguments?_eq_of_matches {vs vs' : List Value}
    (h : List.Forall₂ (Value.Matches (KnownAlike known known')) vs vs') (ts : List ValueType) :
    arguments? known (vs.zip ts) = arguments? known' (vs'.zip ts) := by
  induction h generalizing ts with
  | nil => rfl
  | cons hv _ ih =>
    cases ts with
    | nil => rfl
    | cons t ts =>
      have hrest := ih ts
      unfold arguments? at hrest ⊢
      rw [List.zip_cons_cons, List.zip_cons_cons, List.mapM_cons, List.mapM_cons, hrest]
      dsimp only
      rw [fill?_eq_of_matches hv]

end

namespace Store

open Payload

variable {s s' : Store} {id id' : BindingId}

/-- Two bindings stand at the same place behind two others: the same attributes and arguments lead
    to them. -/
inductive SamePlace (s s' : Store) (id id' : BindingId) : BindingId → BindingId → Prop where
  | root : SamePlace s s' id id' id id'
  | child {c c' x x' : BindingId} {i : Nat} (h : SamePlace s s' id id' c c')
      (hx : (s.slotValues c)[i]? = some (.binding x))
      (hx' : (s'.slotValues c')[i]? = some (.binding x')) : SamePlace s s' id id' x x'

/-- Places stand behind the bindings that they begin at. -/
theorem SamePlace.reaches {c c' : BindingId} (h : SamePlace s s' id id' c c') :
    s.Reaches id c ∧ s'.Reaches id' c' := by
  induction h with
  | root => exact ⟨.refl, .refl⟩
  | child _ hx hx' ih =>
    exact ⟨ih.1.tail (mem_children_iff.2 (List.mem_of_getElem? hx)),
      ih.2.tail (mem_children_iff.2 (List.mem_of_getElem? hx'))⟩

/-- The scales of two bindings have the same rule. -/
def SameRule (s s' : Store) (c c' : BindingId) : Prop :=
  ∀ b b' scale scale', s.binding? c = some b → s'.binding? c' = some b' →
    s.scale? b.scale = some scale → s'.scale? b'.scale = some scale' → scale.SameRule scale'

theorem build?_succ_of {c : BindingId} {b : Binding} {scale : Scale} (hb : s.binding? c = some b)
    (hs : s.scale? b.scale = some scale) (n : Nat) : s.build? (n + 1) c =
      (attributes? (s.build? n) scale.attributes).bind fun attrs =>
        (arguments? (s.build? n) (b.arguments.zip b.argumentTypes)).bind fun values =>
          (scale.build attrs values).toOption := by
  show ((s.binding? c).bind fun b => (s.scale? b.scale).bind fun scale => _) = _
  rw [hb]
  show ((s.scale? b.scale).bind fun scale => _) = _
  rw [hs]
  rfl

/-- Where bindings correspond, and scales have the same rule, the folds agree if they do on what is
    bound. -/
theorem build?_succ_eq_of_corresponds {n : Nat} {c c' : BindingId} {b b' : Binding}
    {scale scale' : Scale} (hb : s.binding? c = some b) (hb' : s'.binding? c' = some b')
    (hs : s.scale? b.scale = some scale) (hs' : s'.scale? b'.scale = some scale')
    (hrule : scale.SameRule scale')
    (h : Corresponds (KnownAlike (s.build? n) (s'.build? n)) scale scale' b b') :
    s.build? (n + 1) c = s'.build? (n + 1) c' := by
  have hnumbers : ∀ a ∈ scale.attributes, ∀ a' ∈ scale'.attributes, a.name = a'.name →
      a.acceptsNumeric = a'.acceptsNumeric := by
    intro a ha a' ha' hname
    rw [Scale.acceptsNumeric_eq ha, Scale.acceptsNumeric_eq ha', h.name, hname]
  have hattrs := attributes?_eq_of_matches h.declared hnumbers h.attributes
  have hvalues := arguments?_eq_of_matches h.arguments b.argumentTypes
  rw [build?_succ_of hb hs, build?_succ_of hb' hs', hattrs, hvalues, h.argumentTypes]
  simp only [Scale.toOption_build_eq h.name hrule]

/-- **Where bindings are stored alike, the scales at the same places have the same rules and the
    constants hold data, the folds of their trees agree.** -/
theorem build?_eq_of_same
    (hrules : ∀ c c', SamePlace s s' id id' c c' → s.SameRule s' c c') (hdata : s.HoldsData id)
    (hdata' : s'.HoldsData id') (n : Nat) {c c' : BindingId}
    (hplace : SamePlace s s' id id' c c') {depth depth' : Nat} {p p' : Payload}
    (h : ofBindingWithin s depth c = .ok p) (h' : ofBindingWithin s' depth' c' = .ok p')
    (hsame : p.Same p') : s.build? n c = s'.build? n c' := by
  induction n generalizing c c' depth depth' p p' with
  | zero => rfl
  | succ n ih =>
    obtain ⟨hreaches, hreaches'⟩ := hplace.reaches
    obtain ⟨less, less', b, b', scale, scale', hb, hb', hs, hs', hparts⟩ :=
      corresponds_of_same h h' (hdata c hreaches) (hdata' c' hreaches') hsame
    have hrule := hrules c c' hplace b b' scale scale' hb hb' hs hs'
    refine build?_succ_eq_of_corresponds hb hb' hs hs' hrule (hparts.of_slots ?_)
    rintro i x x' hx hx' ⟨q, q', hq, hq', hsame⟩
    rw [← slotValues_of hb hs] at hx
    rw [← slotValues_of hb' hs'] at hx'
    exact ih (hplace.child hx hx') hq hq' hsame

/-! ## 6. Bindings of one value -/

/-- A new binding in which no binding is bound has a fresh tree. -/
theorem fresh_of_children_nil (h : s.children id = []) (hnew : s.state? id = some .created) :
    s.Fresh id := by
  have hbehind : s.Unfolds (s.children id) [] := by
    rw [h]
    exact .nil
  exact ⟨[id], .cons hbehind .nil, List.nodup_singleton id, List.forall_mem_singleton.2 hnew⟩

/-- Where no binding is bound, nothing else stands behind a binding. -/
theorem SamePlace.eq_of_children_nil (h : s.children id = []) {c c' : BindingId}
    (hplace : SamePlace s s' id id' c c') : c = id ∧ c' = id' := by
  induction hplace with
  | root => exact ⟨rfl, rfl⟩
  | child _ hx _ ih =>
    obtain ⟨rfl, -⟩ := ih
    have hchild := mem_children_iff.2 (List.mem_of_getElem? hx)
    rw [h] at hchild
    cases hchild

/-- Where no binding is bound, the constants to look at are those in the binding itself. -/
theorem holdsData_of_children_nil (h : s.children id = [])
    (hdata : ∀ v ∈ s.slotValues id, v.HoldsData) : s.HoldsData id := by
  intro c hc
  rcases hc.cases_head with rfl | ⟨child, hchild, -⟩
  · exact hdata
  · rw [h] at hchild
    cases hchild

/-- A scale's binding of a value, for all of its arguments. -/
def bindingOf (i : Nat) (scale : Scale) (v : Value) : Binding where
  scale := ⟨i⟩
  valueType := .float
  argumentTypes := scale.argumentTypes
  arguments := scale.argumentTypes.map fun _ => v
  state := .created
  length_arguments := List.length_map _

/-- Two scales, each invoked once. -/
def invokedWith (first second : Scale) (v w : Value) : Store :=
  ⟨[first, second], [bindingOf 0 first v, bindingOf 1 second w]⟩

theorem bind_eq {scale : Scale} (ht : scale.valueType = .ok .float) (i : Nat) (v : Value) :
    bind ⟨i⟩ scale (bindingOf i scale v).arguments = .ok (bindingOf i scale v) := by
  have hlength : (bindingOf i scale v).arguments.length = scale.arity :=
    (bindingOf i scale v).length_arguments
  unfold bind
  rw [dif_pos hlength, ht]
  rfl

theorem reachable_invokedWith {first second : Scale} (h : first.New) (h' : second.New)
    (ht : first.valueType = .ok .float) (ht' : second.valueType = .ok .float) (v w : Value) :
    (invokedWith first second v w).Reachable := by
  have hcreated : Reachable ⟨[first, second], []⟩ :=
    (Reachable.empty.step (.create h)).step (.create h')
  have hfirst : invoke ⟨[first, second], []⟩ ⟨0⟩ (bindingOf 0 first v).arguments =
      .ok (⟨0⟩, ⟨[first, second], [bindingOf 0 first v]⟩) := by
    show (bind ⟨0⟩ first (bindingOf 0 first v).arguments >>= _) = _
    rw [bind_eq ht]
    rfl
  have hsecond : invoke ⟨[first, second], [bindingOf 0 first v]⟩ ⟨1⟩
      (bindingOf 1 second w).arguments = .ok (⟨1⟩, invokedWith first second v w) := by
    show (bind ⟨1⟩ second (bindingOf 1 second w).arguments >>= _) = _
    rw [bind_eq ht']
    rfl
  exact (hcreated.step (.invoke hfirst)).step (.invoke hsecond)

/-- The scale of the formula `value`, which gives its argument back. -/
def echo : Scale := .custom ⟨"value", .name "value" ⟨⟨1, 0⟩, ⟨1, 5⟩⟩⟩ []

/-- The scale of the same formula in brackets. -/
def bracketedEcho : Scale := .custom ⟨"(value)", .name "value" ⟨⟨1, 1⟩, ⟨1, 6⟩⟩⟩ []

/-- The scale of the formula `-value`. -/
def opposite : Scale :=
  .custom ⟨"-value", .signed .minus (.name "value" ⟨⟨1, 1⟩, ⟨1, 6⟩⟩) ⟨⟨1, 0⟩, ⟨1, 6⟩⟩⟩ []

/-- A constant that holds a value, given its type by hand. -/
def floatOf (v : Value) : Value := .expr (.const v .float)

/-- The constant zero. -/
def zero : Value := floatOf (.literal (.scalar (.float (.zero false))))

end Store

/-! ## 7. Resolving bindings of the same payload -/

/-- **The payload of a binding determines what the binding resolves to**, up to what it does not say
    of the scales and of constants. Two bindings with fresh trees and payloads that are the same
    resolve to the same expression or both fail, whatever the resolvers did before, if the
    arithmetic scales at the same places of their trees have the same operation, and the custom ones
    the same formula, and if the constants of what is bound hold nothing, texts and literals. -/
theorem Resolver.resolve_eq_of_same_payloads {s s' : Store} {id id' : BindingId} {p p' : Payload}
    (hfresh : s.Fresh id) (hfresh' : s'.Fresh id') (h : s.Exports id (.ok p))
    (h' : s'.Exports id' (.ok p')) (hsame : p.Same p')
    (hrules : ∀ c c', Store.SamePlace s s' id id' c c' → s.SameRule s' c c')
    (hdata : s.HoldsData id) (hdata' : s'.HoldsData id') (calls calls' : List Resolver.Call) :
    (((Resolver.new columnOf).after calls).resolve s id).1.toOption =
      (((Resolver.new columnOf).after calls').resolve s' id').1.toOption := by
  have hidle (calls : List Resolver.Call) : ((Resolver.new columnOf).after calls).Idle :=
    Resolver.idle_after calls (r := Resolver.new columnOf) rfl
  obtain ⟨-, depth, h⟩ := h
  obtain ⟨-, depth', h'⟩ := h'
  have hbuild (n : Nat) : s.build? n id = s'.build? n id' :=
    Store.build?_eq_of_same hrules hdata hdata' n .root h h' hsame
  ext e
  rw [toOption_eq_some_iff, toOption_eq_some_iff,
    Resolver.resolve_ok_iff_of_idle (hidle calls) (Resolver.references_after _ calls),
    Resolver.resolve_ok_iff_of_idle (hidle calls') (Resolver.references_after _ calls')]
  unfold Store.Means
  simp only [hfresh, hfresh', hbuild]

/-- A formula of the constant zero, and the same formula in brackets. -/
theorem Resolver.resolve_eq_of_same_payloads_echo :
    let s := Store.invokedWith Store.echo Store.bracketedEcho Store.zero Store.zero
    s.Reachable ∧ ∃ p, s.Fresh ⟨0⟩ ∧ s.Fresh ⟨1⟩ ∧ s.Exports ⟨0⟩ (.ok p) ∧ s.Exports ⟨1⟩ (.ok p) ∧
      p.Same p ∧
      (∀ c c', Store.SamePlace s s ⟨0⟩ ⟨1⟩ c c' → s.SameRule s c c') ∧
      s.HoldsData ⟨0⟩ ∧ s.HoldsData ⟨1⟩ ∧
      ∀ calls calls' : List Resolver.Call,
        (((Resolver.new columnOf).after calls).resolve s ⟨0⟩).1.toOption =
          (((Resolver.new columnOf).after calls').resolve s ⟨1⟩).1.toOption := by
  intro s
  have hecho : Scale.newCustom "value" = .ok Store.echo := rfl
  have hbracketed : Scale.newCustom "(value)" = .ok Store.bracketedEcho := rfl
  have hfresh : s.Fresh ⟨0⟩ := Store.fresh_of_children_nil rfl rfl
  have hfresh' : s.Fresh ⟨1⟩ := Store.fresh_of_children_nil rfl rfl
  obtain ⟨p, h, h'⟩ : ∃ p, s.Exports ⟨0⟩ (.ok p) ∧ s.Exports ⟨1⟩ (.ok p) :=
    ⟨_, ⟨nofun, 1, rfl⟩, nofun, 1, rfl⟩
  have hrules : ∀ c c', Store.SamePlace s s ⟨0⟩ ⟨1⟩ c c' → s.SameRule s c c' := by
    intro c c' hplace b b' scale scale' hb hb' hs hs'
    obtain ⟨rfl, rfl⟩ := hplace.eq_of_children_nil rfl
    obtain rfl := Option.some.inj hb
    obtain rfl := Option.some.inj hb'
    obtain rfl := Option.some.inj hs
    obtain rfl := Option.some.inj hs'
    rfl
  have hzero : ∀ v ∈ [Store.zero], v.HoldsData := by
    refine List.forall_mem_singleton.2 fun e he => ?_
    obtain rfl := Value.expr.inj he
    exact List.forall_mem_singleton.2 ⟨_, rfl⟩
  have hdata : s.HoldsData ⟨0⟩ := Store.holdsData_of_children_nil rfl hzero
  have hdata' : s.HoldsData ⟨1⟩ := Store.holdsData_of_children_nil rfl hzero
  exact ⟨Store.reachable_invokedWith (.custom hecho) (.custom hbracketed) rfl rfl _ _, p, hfresh,
    hfresh', h, h', .refl p, hrules, hdata, hdata',
    Resolver.resolve_eq_of_same_payloads hfresh hfresh' h h' (.refl p) hrules hdata hdata'⟩

namespace Store

/-- Two new bindings have one payload, and resolve to different expressions. -/
def ResolveOtherwise (s : Store) (id id' : BindingId) : Prop :=
  s.Fresh id ∧ s.Fresh id' ∧ (∃ p, s.Exports id (.ok p) ∧ s.Exports id' (.ok p)) ∧
    ∃ e e', (s.resolve columnOf id).1 = .ok e ∧ (s.resolve columnOf id').1 = .ok e' ∧ e ≠ e'

/-- **A session can come to two bindings that have one payload and resolve to different
    expressions**: of two arithmetic scales with operations of their own; of two custom ones with
    formulas of their own; and of two scales alike, where a constant of the one holds a reference
    with a type and a constant of the other holds a column. -/
theorem exists_same_payload_resolved_otherwise :
    (∃ (s : Store) (op op' : Arithmetic), s.scales = [.arithmetic op, .arithmetic op'] ∧
      s.Reachable ∧ s.ResolveOtherwise ⟨0⟩ ⟨1⟩) ∧
    (∃ (s : Store) (p p' : ParsedFormula), s.scales = [.custom p [], .custom p' []] ∧
      s.Reachable ∧ s.ResolveOtherwise ⟨0⟩ ⟨1⟩) ∧
    ∃ (s : Store) (op : Arithmetic), s.scales = [.arithmetic op, .arithmetic op] ∧
      s.Reachable ∧ s.ResolveOtherwise ⟨0⟩ ⟨1⟩ := by
  have hecho : Scale.newCustom "value" = .ok echo := rfl
  have hopposite : Scale.newCustom "-value" = .ok opposite := rfl
  refine ⟨?_, ?_, ?_⟩
  · refine ⟨invokedWith (.arithmetic .add) (.arithmetic .sub) zero zero, _, _, rfl,
      reachable_invokedWith (.arithmetic _) (.arithmetic _) rfl rfl _ _,
      fresh_of_children_nil rfl rfl, fresh_of_children_nil rfl rfl,
      ⟨_, ⟨nofun, 1, rfl⟩, nofun, 1, rfl⟩, _, _, rfl, rfl, ?_⟩
    exact fun h => absurd (Expr.binary.inj h).1 (by decide)
  · refine ⟨invokedWith echo opposite zero zero, _, _, rfl,
      reachable_invokedWith (.custom hecho) (.custom hopposite) rfl rfl _ _,
      fresh_of_children_nil rfl rfl, fresh_of_children_nil rfl rfl,
      ⟨_, ⟨nofun, 1, rfl⟩, nofun, 1, rfl⟩, _, _, rfl, rfl, nofun⟩
  · refine ⟨invokedWith (.arithmetic .add) (.arithmetic .add)
        (floatOf (.reference ⟨"x", some .float, by decide⟩)) (floatOf (.expr (.column "x" .float))),
      _, rfl, reachable_invokedWith (.arithmetic _) (.arithmetic _) rfl rfl _ _,
      fresh_of_children_nil rfl rfl, fresh_of_children_nil rfl rfl,
      ⟨_, ⟨nofun, 1, rfl⟩, nofun, 1, rfl⟩, _, _, rfl, rfl, ?_⟩
    exact fun h => nomatch (Expr.const.inj (Expr.binary.inj h).2.1).1

end Store

end VisualScale
