import Mathlib.Data.List.Nodup
import Mathlib.Data.List.Perm.Subperm
import VisualScale.Proofs.Resolution.Built

/-!
# Resolution is a fold of the tree

What a binding means is a fold of its tree: its scale builds from what its attributes and arguments
mean (`Store.build?`). Nothing is remembered on the way and nothing is marked, and no state is
looked at. The fold goes as deep as the tree does; around a cycle no depth suffices, and the binding
means nothing (`Store.Means`).

The main statement, `Resolver.resolve_ok_iff`: resolving a binding gives an expression if and only
if the binding means it, unfolds into a finite tree in which no binding occurs twice, and all
bindings of the tree are new.

* `gives_build` -- what a pass gives is what the fold gives;
* `completes_enter` -- where the fold gives something, over a fresh tree, so does a pass that has
  room for as many bindings;
* `Store.Means.unique`, `Store.Means.of_sameInputs` -- what a binding means is one expression, and
  depends on what scales and bindings hold, but not on the states of the bindings.
-/

namespace VisualScale

open Parts

/-! ## 1. The fold -/

/-- The constant of a literal in a slot of a type: a whole number becomes a float if the slot asks
    for a float, or accepts any number. -/
def Literal.constantFor? (t : ValueType) (acceptsNumeric : Bool) : Literal → Option Expr
  | .scalar (.int n) =>
    if t = .float ∨ acceptsNumeric = true then
      (Double.ofInt? n).map fun d => .const (.literal (.scalar (.float d))) .float
    else some (.const (.literal (.scalar (.int n))) .int)
  | l => some (.const (.literal l) l.valueType)

namespace Value

/-- What a value means in a slot of a type if it is no binding. A reference is a column, typed by
    itself, else by the slot. -/
def leaf? (t : ValueType) (acceptsNumeric : Bool) : Value → Option Expr
  | .datum (.literal l) => l.constantFor? t acceptsNumeric
  | .reference r => some (.column r.field (r.valueType.getD t))
  | .expr e => some e
  | _ => none

/-- What a value means in a slot of a type, whether it fits the slot or not. Of bindings it is known
    what they mean. -/
def raw? (known : BindingId → Option Expr) (t : ValueType) (acceptsNumeric : Bool) :
    Value → Option Expr
  | .binding id => known id
  | v => v.leaf? t acceptsNumeric

/-- What a value means in a slot of a type, if that fits the slot. -/
def fill? (known : BindingId → Option Expr) (t : ValueType) (acceptsNumeric : Bool) (v : Value) :
    Option Expr := do
  let e ← v.raw? known t acceptsNumeric
  if fits e.valueType t acceptsNumeric then some e else none

end Value

/-- What the attributes of a scale mean, in order. -/
def attributes? (known : BindingId → Option Expr) (attributes : List Attribute) :
    Option (Table Value) :=
  attributes.mapM fun a => do
    let e ← a.value.fill? known a.valueType a.acceptsNumeric
    return (a.name, .expr e)

/-- What arguments with their types mean, in order. -/
def arguments? (known : BindingId → Option Expr) (arguments : List (Value × ValueType)) :
    Option (List Value) :=
  arguments.mapM fun (v, t) => do
    let e ← v.fill? known t false
    return .expr e

namespace Store

/-- What a binding means, if its tree is at most so deep: what its scale builds from what its
    attributes and its arguments mean. -/
def build? (s : Store) : (depth : Nat) → BindingId → Option Expr
  | 0, _ => none
  | depth + 1, id => do
    let b ← s.binding? id
    let scale ← s.scale? b.scale
    let attrs ← attributes? (s.build? depth) scale.attributes
    let values ← arguments? (s.build? depth) (b.arguments.zip b.argumentTypes)
    (scale.build attrs values).toOption

/-- The binding means the expression. -/
def Means (s : Store) (id : BindingId) (e : Expr) : Prop := ∃ depth, s.build? depth id = some e

/-- The binding unfolds into a finite tree in which no binding occurs twice and all are new. -/
def Fresh (s : Store) (id : BindingId) : Prop :=
  ∃ listed, s.Unfolds [id] listed ∧ listed.Nodup ∧ ∀ x ∈ listed, s.state? x = some .created

/-- Two stores hold the same scales and the same bindings, whose states may differ. -/
structure SameInputs (s s' : Store) : Prop where
  scales : s'.scales = s.scales
  bindings : ∀ id, (s'.binding? id).map resolvedBinding = (s.binding? id).map resolvedBinding

end Store

theorem toOption_eq_some_iff {ε α : Type} {r : Except ε α} {a : α} :
    r.toOption = some a ↔ r = .ok a := by
  cases r <;> simp [Except.toOption]

section Parts

variable {known : BindingId → Option Expr}

theorem Value.fill?_eq_some_iff {t : ValueType} {acceptsNumeric : Bool} {v : Value} {e : Expr} :
    v.fill? known t acceptsNumeric = some e ↔
      v.raw? known t acceptsNumeric = some e ∧ fits e.valueType t acceptsNumeric = true := by
  unfold Value.fill?
  simp only [bind, Option.bind_eq_some_iff, Option.ite_none_right_eq_some, Option.some.injEq]
  constructor
  · rintro ⟨e', he', hfits, rfl⟩
    exact ⟨he', hfits⟩
  · rintro ⟨he, hfits⟩
    exact ⟨e, he, hfits, rfl⟩

theorem attributes?_cons_eq_some_iff {a : Attribute} {rest : List Attribute}
    {attrs : Table Value} :
    attributes? known (a :: rest) = some attrs ↔
      ∃ e es, a.value.fill? known a.valueType a.acceptsNumeric = some e ∧
        attributes? known rest = some es ∧ (a.name, Value.expr e) :: es = attrs := by
  unfold attributes?
  rw [List.mapM_cons]
  simp [Option.bind_eq_some_iff]

theorem arguments?_cons_eq_some_iff {v : Value} {t : ValueType} {rest : List (Value × ValueType)}
    {values : List Value} :
    arguments? known ((v, t) :: rest) = some values ↔
      ∃ e es, v.fill? known t false = some e ∧ arguments? known rest = some es ∧
        Value.expr e :: es = values := by
  unfold arguments?
  rw [List.mapM_cons]
  simp [Option.bind_eq_some_iff]

/-- Attributes and what they mean stand in a relation, if each one does. -/
theorem forall₂_of_attributes? {R : Attribute → String × Value → Prop} {attributes : List Attribute}
    {attrs : Table Value}
    (hR : ∀ a ∈ attributes, ∀ e, a.value.fill? known a.valueType a.acceptsNumeric = some e →
      R a (a.name, .expr e))
    (h : attributes? known attributes = some attrs) : List.Forall₂ R attributes attrs := by
  induction attributes generalizing attrs with
  | nil =>
    obtain rfl := Option.some.inj h
    exact .nil
  | cons a rest ih =>
    obtain ⟨hfirst, hrest⟩ := List.forall_mem_cons.1 hR
    obtain ⟨e, es, he, hes, rfl⟩ := attributes?_cons_eq_some_iff.1 h
    exact .cons (hfirst e he) (ih hrest hes)

/-- Arguments and what they mean stand in a relation, if each one does. -/
theorem forall₂_of_arguments? {R : Value × ValueType → Value → Prop}
    {arguments : List (Value × ValueType)} {values : List Value}
    (hR : ∀ a ∈ arguments, ∀ e, a.1.fill? known a.2 false = some e → R a (.expr e))
    (h : arguments? known arguments = some values) : List.Forall₂ R arguments values := by
  induction arguments generalizing values with
  | nil =>
    obtain rfl := Option.some.inj h
    exact .nil
  | cons a rest ih =>
    obtain ⟨hfirst, hrest⟩ := List.forall_mem_cons.1 hR
    obtain ⟨e, es, he, hes, rfl⟩ := arguments?_cons_eq_some_iff.1 h
    exact .cons (hfirst e he) (ih hrest hes)

/-- A literal means a constant with the type of what it holds. -/
theorem Literal.exists_of_constantFor? {l : Literal} {t : ValueType} {acceptsNumeric : Bool}
    {e : Expr} (h : l.constantFor? t acceptsNumeric = some e) :
    ∃ m : Literal, e = .const (.literal m) m.valueType := by
  unfold Literal.constantFor? at h
  split at h
  · split at h
    · obtain ⟨d, -, rfl⟩ := Option.map_eq_some_iff.1 h
      exact ⟨.scalar (.float d), rfl⟩
    · obtain rfl := Option.some.inj h
      exact ⟨.scalar (.int _), rfl⟩
  · obtain rfl := Option.some.inj h
    exact ⟨l, rfl⟩

/-- What means something in a slot is not left unbound. -/
theorem Value.isUnbound_of_fill? {t : ValueType} {acceptsNumeric : Bool} {v : Value} {e : Expr}
    (h : v.fill? known t acceptsNumeric = some e) : v.isUnbound = false := by
  obtain ⟨hraw, -⟩ := Value.fill?_eq_some_iff.1 h
  match v with
  | .datum .absent => cases hraw
  | .datum (.text _) | .datum (.literal _) | .reference _ | .expr _ | .binding _ => rfl

end Parts

variable {s : Store}

theorem Store.build?_succ_eq_some_iff {depth : Nat} {id : BindingId} {e : Expr} :
    s.build? (depth + 1) id = some e ↔ ∃ b scale attrs values, s.binding? id = some b ∧
      s.scale? b.scale = some scale ∧ attributes? (s.build? depth) scale.attributes = some attrs ∧
      arguments? (s.build? depth) (b.arguments.zip b.argumentTypes) = some values ∧
      scale.build attrs values = .ok e := by
  have heq : s.build? (depth + 1) id = (s.binding? id).bind fun b => (s.scale? b.scale).bind
      fun scale => (attributes? (s.build? depth) scale.attributes).bind fun attrs =>
        (arguments? (s.build? depth) (b.arguments.zip b.argumentTypes)).bind fun values =>
          (scale.build attrs values).toOption := rfl
  simp only [heq, Option.bind_eq_some_iff, toOption_eq_some_iff]
  constructor
  · rintro ⟨b, hb, scale, hs, attrs, hattrs, values, hvalues, he⟩
    exact ⟨b, scale, attrs, values, hb, hs, hattrs, hvalues, he⟩
  · rintro ⟨b, scale, attrs, values, hb, hs, hattrs, hvalues, he⟩
    exact ⟨b, hb, scale, hs, attrs, hattrs, values, hvalues, he⟩

/-! ## 2. A meaning is one expression, and depends on no state -/

section Mono

variable {known known' : BindingId → Option Expr}
variable (hmore : ∀ {id e}, known id = some e → known' id = some e)

include hmore

theorem Value.fill?_mono {t : ValueType} {acceptsNumeric : Bool} {v : Value} {e : Expr}
    (h : v.fill? known t acceptsNumeric = some e) : v.fill? known' t acceptsNumeric = some e := by
  rw [Value.fill?_eq_some_iff] at h ⊢
  refine ⟨?_, h.2⟩
  cases v with
  | binding id => exact hmore h.1
  | datum d | reference r | expr e => exact h.1

theorem attributes?_mono {attributes : List Attribute} {attrs : Table Value}
    (h : attributes? known attributes = some attrs) :
    attributes? known' attributes = some attrs := by
  induction attributes generalizing attrs with
  | nil => exact h
  | cons a rest ih =>
    obtain ⟨e, es, he, hes, rfl⟩ := attributes?_cons_eq_some_iff.1 h
    exact attributes?_cons_eq_some_iff.2 ⟨e, es, Value.fill?_mono hmore he, ih hes, rfl⟩

theorem arguments?_mono {arguments : List (Value × ValueType)} {values : List Value}
    (h : arguments? known arguments = some values) : arguments? known' arguments = some values := by
  induction arguments generalizing values with
  | nil => exact h
  | cons a rest ih =>
    obtain ⟨v, t⟩ := a
    obtain ⟨e, es, he, hes, rfl⟩ := arguments?_cons_eq_some_iff.1 h
    exact arguments?_cons_eq_some_iff.2 ⟨e, es, Value.fill?_mono hmore he, ih hes, rfl⟩

end Mono

namespace Store

/-- What is known at a depth is known at every greater one. -/
theorem build?_mono {depth more : Nat} (hle : depth ≤ more) {id : BindingId} {e : Expr}
    (h : s.build? depth id = some e) : s.build? more id = some e := by
  induction depth generalizing more id e with
  | zero => cases h
  | succ depth ih =>
    obtain ⟨more, rfl⟩ : ∃ k, more = k + 1 := ⟨more - 1, by omega⟩
    obtain ⟨b, scale, attrs, values, hb, hs, hattrs, hvalues, he⟩ := build?_succ_eq_some_iff.1 h
    have hmore {id : BindingId} {e : Expr} (h : s.build? depth id = some e) :
        s.build? more id = some e := ih (by omega) h
    exact build?_succ_eq_some_iff.2
      ⟨b, scale, attrs, values, hb, hs, attributes?_mono hmore hattrs,
        arguments?_mono hmore hvalues, he⟩

/-- **A binding means one expression.** -/
theorem Means.unique {id : BindingId} {e e' : Expr} (h : s.Means id e) (h' : s.Means id e') :
    e = e' := by
  obtain ⟨depth, h⟩ := h
  obtain ⟨depth', h'⟩ := h'
  have hmax := build?_mono (Nat.le_max_left depth depth') h
  have hmax' := build?_mono (Nat.le_max_right depth depth') h'
  exact Option.some.inj (hmax.symm.trans hmax')

/-- **What a binding means depends on no state.** -/
theorem Means.of_sameInputs {s' : Store} (hsame : s.SameInputs s') {id : BindingId} {e : Expr}
    (h : s.Means id e) : s'.Means id e := by
  obtain ⟨depth, h⟩ := h
  refine ⟨depth, ?_⟩
  induction depth generalizing id e with
  | zero => cases h
  | succ depth ih =>
    obtain ⟨b, scale, attrs, values, hb, hs, hattrs, hvalues, he⟩ := build?_succ_eq_some_iff.1 h
    have hrecord := hsame.bindings id
    rw [hb, Option.map_some, Option.map_eq_some_iff] at hrecord
    obtain ⟨b', hb', hrest⟩ := hrecord
    obtain ⟨hscale, -, htypes, harguments⟩ := Binding.mk.inj hrest
    have hs' : s'.scale? b'.scale = some scale := by
      unfold Store.scale?
      rw [hsame.scales, hscale]
      exact hs
    have hvalues' : arguments? (s'.build? depth) (b'.arguments.zip b'.argumentTypes) =
        some values := by
      rw [harguments.1, htypes]
      exact arguments?_mono ih hvalues
    exact build?_succ_eq_some_iff.2
      ⟨b', scale, attrs, values, hb', hs', attributes?_mono ih hattrs, hvalues', he⟩

end Store

/-! ## 3. Leaves -/

/-- A number in a place that asks for a float becomes one, if it is not too large. -/
theorem numberFor_int_toOption (n : Int) (t : ValueType) :
    (Build.numberFor (.int n) (some (.known t))).toOption =
      if t = .float then (Double.ofInt? n).map fun d => .const (.literal (.scalar (.float d))) .float
      else some (.const (.literal (.scalar (.int n))) .int) := by
  have hdouble : Build.toDouble (.int n) = Build.finiteDouble (Double.ofInt? n) := rfl
  by_cases ht : t = .float
  · subst ht
    unfold Build.numberFor
    rw [hdouble]
    cases Double.ofInt? n <;> rfl
  · rw [if_neg ht]
    show (ite (t = .float) _ _ : Except Fault Expr).toOption = _
    rw [if_neg ht]
    rfl

theorem literalFor_int (slot : Slot) (n : Int) :
    literalFor slot (.datum (.literal (.scalar (.int n)))) =
      if slot.acceptsNumeric then Build.numberFor (.int n) (some (.known .float))
      else Build.numberFor (.int n) (slot.type.map .known) := by
  have htype : Value.literalType (.datum (.literal (.scalar (.int n)))) = .ok .int := rfl
  unfold literalFor
  rw [htype]
  simp only [bind, Except.bind, Build.ofValue]
  cases slot.acceptsNumeric <;> simp [ValueType.isNumeric]

/-- A literal in a slot is the constant that the slot asks for. -/
theorem literalFor_toOption {slot : Slot} {t : ValueType} (ht : slot.type = some t) (d : Datum) :
    (literalFor slot (.datum d)).toOption = (Value.datum d).leaf? t slot.acceptsNumeric := by
  match d with
  | .literal (.scalar (.int n)) =>
    rw [literalFor_int, ht]
    unfold Value.leaf? Literal.constantFor?
    cases slot.acceptsNumeric with
    | false => simpa using numberFor_int_toOption n t
    | true => simpa using numberFor_int_toOption n .float
  | .absent | .text _ => rfl
  | .literal (.vector2 ..) | .literal (.vector3 ..) | .literal (.vector4 ..)
  | .literal (.color ..) | .literal (.scalar (.bool _)) =>
    unfold literalFor
    rw [ht]
    cases slot.acceptsNumeric <;> rfl
  | .literal (.scalar (.float x)) =>
    unfold literalFor
    rw [ht]
    cases slot.acceptsNumeric <;> cases t <;> rfl

/-- What is no binding becomes what it means. -/
theorem exists_rawValue_eq (enter : BindingId → Pass Expr) {slot : Slot} {t : ValueType}
    (ht : slot.type = some t) {v : Value} (hv : v.binding? = none) :
    ∃ r : Except Fault Expr, rawValue columnOf enter slot v = ofOutcome (Scale.unplaced r) ∧
      r.toOption = v.leaf? t slot.acceptsNumeric := by
  cases v with
  | binding id => cases hv
  | expr e => exact ⟨.ok e, rfl, rfl⟩
  | datum d => exact ⟨_, rfl, literalFor_toOption ht d⟩
  | reference r =>
    refine ⟨columnOf r slot.type, rfl, ?_⟩
    rw [ht]
    cases hr : r.valueType <;> simp [columnOf, Value.leaf?, Except.toOption, hr]

/-! ## 4. What a pass gives is what the fold gives -/

section Gives

variable {enter : BindingId → Pass Expr} {known : BindingId → Option Expr}
variable (henter : ∀ id, Gives (enter id) fun e => known id = some e)

include henter

theorem gives_fill {slot : Slot} {t : ValueType} (ht : slot.type = some t) (v : Value) :
    Gives (value columnOf enter slot v) fun e => v.fill? known t slot.acceptsNumeric = some e := by
  have hraw : Gives (rawValue columnOf enter slot v) fun e =>
      v.raw? known t slot.acceptsNumeric = some e := by
    have hleaf := exists_rawValue_eq enter ht (v := v)
    cases v with
    | binding id => exact henter id
    | datum d | reference d | expr d =>
      obtain ⟨r, hr, hleaf⟩ := hleaf rfl
      rw [hr]
      refine gives_ofOutcome fun e he => ?_
      rw [Scale.unplaced_ok he] at hleaf
      exact hleaf.symm
  refine gives_bind hraw fun e he => gives_ofOutcome fun e' he' => ?_
  obtain ⟨rfl, hfits⟩ := Slot.check_ok ht (Scale.unplaced_ok he')
  exact Value.fill?_eq_some_iff.2 ⟨he, hfits⟩

theorem gives_attributes (owner : String) (attributes : List Attribute) :
    Gives (attributeValues columnOf enter owner attributes) fun attrs =>
      attributes? known attributes = some attrs := by
  induction attributes with
  | nil => exact gives_pure rfl
  | cons a rest ih =>
    unfold attributeValues
    refine gives_unless _ (gives_bind (gives_fill henter rfl _) fun e he => ?_)
    exact gives_bind ih fun es hes =>
      gives_pure (attributes?_cons_eq_some_iff.2 ⟨e, es, he, hes, rfl⟩)

theorem gives_arguments (owner : String) (index : Nat) (arguments : List (Value × ValueType)) :
    Gives (argumentValues columnOf enter owner index arguments) fun values =>
      arguments? known arguments = some values := by
  induction arguments generalizing index with
  | nil => exact gives_pure rfl
  | cons a rest ih =>
    obtain ⟨v, t⟩ := a
    unfold argumentValues
    refine gives_bind (gives_fill henter rfl _) fun e he => ?_
    exact gives_bind (ih _) fun es hes =>
      gives_pure (arguments?_cons_eq_some_iff.2 ⟨e, es, he, hes, rfl⟩)

end Gives

/-- **What a pass gives is what the fold gives.** -/
theorem gives_build (room : Nat) (id : BindingId) :
    Gives (Pass.enter s columnOf room id) fun e => s.build? room id = some e := by
  induction room generalizing id with
  | zero =>
    intro entered e entered' h
    obtain ⟨_, _, _, hroom, -⟩ := Pass.enter_ok h
    cases hroom
  | succ room ih =>
    intro entered e entered' h
    obtain ⟨_, b, scale, hroom, hb, -, -, hs, hbody⟩ := Pass.enter_ok h
    obtain rfl := Nat.succ.inj hroom
    have hgives : Gives (body columnOf (Pass.enter s columnOf room) scale b) fun e =>
        s.build? (room + 1) id = some e := by
      unfold body
      refine gives_bind (gives_attributes ih _ _) fun attrs hattrs => ?_
      refine gives_bind (gives_arguments ih _ _ _) fun values hvalues => ?_
      exact gives_ofOutcome fun e he => Store.build?_succ_eq_some_iff.2
        ⟨b, scale, attrs, values, hb, hs, hattrs, hvalues, he⟩
    exact hgives hbody

/-! ## 5. Over a fresh tree a pass gives something -/

theorem Store.Unfolds.split {as bs listed : List BindingId} (h : s.Unfolds (as ++ bs) listed) :
    ∃ first second, listed = first ++ second ∧ s.Unfolds as first ∧ s.Unfolds bs second := by
  induction as generalizing listed with
  | nil => exact ⟨[], listed, rfl, .nil, h⟩
  | cons id rest ih =>
    obtain _ | ⟨hbehind, hafter⟩ := h
    next behind after =>
    obtain ⟨first, second, rfl, hfirst, hsecond⟩ := ih hafter
    refine ⟨id :: (behind ++ first), second, ?_, .cons hbehind hfirst, hsecond⟩
    simp

/-- What was entered for bindings side by side was entered for the first of them, and then for the
    others. -/
theorem Visited.split {as bs before listed : List BindingId} (hn : before.Nodup)
    (h : Visited s (as ++ bs) before listed) :
    ∃ first second, listed = first ++ second ∧ Visited s as before first ∧
      (before ++ first).Nodup ∧ Visited s bs (before ++ first) second := by
  obtain ⟨first, second, rfl, hfirst, hsecond⟩ := h.unfolds.split
  have hall : ((before ++ first) ++ second).Nodup := by
    rw [List.append_assoc]
    exact h.distinct hn
  have hleft : (before ++ first).Nodup := (List.nodup_append.mp hall).1
  refine ⟨first, second, rfl, ⟨hfirst, fun x hx => ?_, fun _ => hleft⟩, hleft, hsecond,
    fun x hx => ?_, fun _ => hall⟩
  · exact h.created x (List.mem_append_left _ hx)
  · exact h.created x (List.mem_append_right _ hx)

/-- What was entered for a binding is the binding, and then what was entered for those that stand
    in it. -/
theorem Visited.of_single {id : BindingId} {before listed : List BindingId} (hn : before.Nodup)
    (h : Visited s [id] before listed) :
    ∃ behind, listed = id :: behind ∧ id ∉ before ∧ s.state? id = some .created ∧
      (before ++ [id]).Nodup ∧ Visited s (s.children id) (before ++ [id]) behind := by
  obtain ⟨hunfolds, hcreated, hdistinct⟩ := h
  obtain _ | ⟨hbehind, hafter⟩ := hunfolds
  next behind after =>
  cases hafter
  rw [List.append_nil] at hcreated hdistinct
  have hall : ((before ++ [id]) ++ behind).Nodup := by
    simpa using hdistinct hn
  have hfirst : (before ++ [id]).Nodup := (List.nodup_append.mp hall).1
  have hfresh : id ∉ before := fun hmem =>
    (List.nodup_append.mp hfirst).2.2 id hmem id (List.mem_singleton_self id) rfl
  refine ⟨behind, by rw [List.append_nil], hfresh, hcreated id List.mem_cons_self, hfirst,
    hbehind, fun x hx => hcreated x (List.mem_cons_of_mem _ hx), fun _ => hall⟩

/-- Where bindings have a fresh tree, and there is room for all of it, the computation gives the
    value and enters the tree. -/
def Completes {α : Type} (s : Store) (room : Nat) (p : Pass α) (roots : List BindingId) (a : α) :
    Prop :=
  ∀ ⦃entered listed⦄, entered.Nodup → Visited s roots entered listed → listed.length ≤ room →
    p entered = .ok (a, entered ++ listed)

section Completes

variable {α β : Type} {room : Nat}

theorem completes_pure (a : α) : Completes s room (pure a) [] a := by
  intro entered listed _ h _
  have hnil : listed = [] := by
    cases h.unfolds
    rfl
  rw [hnil, List.append_nil]
  rfl

theorem completes_bind {p : Pass α} {k : α → Pass β} {as bs : List BindingId} {a : α} {b : β}
    (h : Completes s room p as a) (hk : Completes s room (k a) bs b) :
    Completes s room (p >>= k) (as ++ bs) b := by
  intro entered listed hn hvisited hroom
  obtain ⟨first, second, rfl, hfirst, hn', hsecond⟩ := hvisited.split hn
  rw [List.length_append] at hroom
  have hp : p entered = .ok (a, entered ++ first) := h hn hfirst (by omega)
  have hka : k a (entered ++ first) = .ok (b, (entered ++ first) ++ second) :=
    hk hn' hsecond (by omega)
  show (p entered >>= fun r => k r.1 r.2) = _
  rw [hp, ← List.append_assoc]
  exact hka

/-- A step that enters nothing, at the end. -/
theorem completes_before {p : Pass α} {k : α → Pass β} {roots : List BindingId} {a : α} {b : β}
    (h : Completes s room p roots a) (hk : Completes s room (k a) [] b) :
    Completes s room (p >>= k) roots b := by
  have := completes_bind h hk
  rwa [List.append_nil] at this

variable {enter : BindingId → Pass Expr} {known : BindingId → Option Expr}
variable (henter : ∀ {id e}, known id = some e → Completes s room (enter id) [id] e)

include henter

theorem completes_value {slot : Slot} {t : ValueType} (ht : slot.type = some t) {v : Value}
    {e : Expr} (h : v.fill? known t slot.acceptsNumeric = some e) :
    Completes s room (value columnOf enter slot v) v.binding?.toList e := by
  obtain ⟨hraw, hfits⟩ := Value.fill?_eq_some_iff.1 h
  have hcheck : slot.check e = .ok e := by
    unfold Slot.check
    rw [ht]
    exact if_pos hfits
  have hchecked : Completes s room (ofOutcome (Scale.unplaced (slot.check e))) [] e := by
    rw [hcheck]
    exact completes_pure e
  refine completes_before ?_ hchecked
  have hleaf := exists_rawValue_eq enter ht (v := v)
  cases v with
  | binding id => exact henter hraw
  | datum d | reference d | expr d =>
    obtain ⟨r, hr, hleaf⟩ := hleaf rfl
    have hok : r = .ok e := toOption_eq_some_iff.1 (hleaf.trans hraw)
    rw [hr, hok]
    exact completes_pure e

theorem completes_attributes (owner : String) {attributes : List Attribute} {attrs : Table Value}
    (h : attributes? known attributes = some attrs) :
    Completes s room (attributeValues columnOf enter owner attributes)
      ((attributes.map Attribute.value).filterMap Value.binding?) attrs := by
  induction attributes generalizing attrs with
  | nil =>
    obtain rfl := Option.some.inj h
    exact completes_pure _
  | cons a rest ih =>
    obtain ⟨e, es, he, hes, rfl⟩ := attributes?_cons_eq_some_iff.1 h
    have hbound : ¬ a.value.isUnbound = true := by simp [Value.isUnbound_of_fill? he]
    have hfirst : Completes s room (value columnOf enter (.ofAttribute owner a) a.value)
        a.value.binding?.toList e := completes_value henter rfl he
    rw [List.map_cons, filterMap_binding?_cons]
    unfold attributeValues
    rw [if_neg hbound]
    exact completes_bind hfirst (completes_before (ih hes) (completes_pure _))

theorem completes_arguments (owner : String) (index : Nat) {arguments : List (Value × ValueType)}
    {values : List Value} (h : arguments? known arguments = some values) :
    Completes s room (argumentValues columnOf enter owner index arguments)
      ((arguments.map Prod.fst).filterMap Value.binding?) values := by
  induction arguments generalizing index values with
  | nil =>
    obtain rfl := Option.some.inj h
    exact completes_pure _
  | cons a rest ih =>
    obtain ⟨v, t⟩ := a
    obtain ⟨e, es, he, hes, rfl⟩ := arguments?_cons_eq_some_iff.1 h
    have hfirst : Completes s room (value columnOf enter (.ofArgument owner index t) v)
        v.binding?.toList e := completes_value henter rfl he
    rw [List.map_cons, filterMap_binding?_cons]
    unfold argumentValues
    exact completes_bind hfirst (completes_before (ih _ hes) (completes_pure _))

theorem completes_body {id : BindingId} {b : Binding} {scale : Scale} {attrs : Table Value}
    {values : List Value} {e : Expr} (hb : s.binding? id = some b)
    (hs : s.scale? b.scale = some scale) (hattrs : attributes? known scale.attributes = some attrs)
    (hvalues : arguments? known (b.arguments.zip b.argumentTypes) = some values)
    (he : scale.build attrs values = .ok e) :
    Completes s room (body columnOf enter scale b) (s.children id) e := by
  have hbuilt : Completes s room (ofOutcome (scale.build attrs values)) [] e := by
    rw [he]
    exact completes_pure e
  have harguments := completes_arguments henter scale.name 0 hvalues
  rw [List.map_fst_zip (Nat.le_of_eq b.length_arguments)] at harguments
  rw [Store.children_of hb hs, List.filterMap_append]
  unfold body
  exact completes_bind (completes_attributes henter _ hattrs) (completes_before harguments hbuilt)

end Completes

/-- Entering a binding that is new, and that the pass has not entered yet. -/
theorem Pass.enter_eq {refs : References} {room : Nat} {id : BindingId} {b : Binding}
    {scale : Scale} {entered : List BindingId} (hb : s.binding? id = some b)
    (hnew : b.state = .created) (hfresh : id ∉ entered) (hs : s.scale? b.scale = some scale) :
    Pass.enter s refs (room + 1) id entered =
      body refs (Pass.enter s refs room) scale b (entered ++ [id]) := by
  have hstate : ¬ b.state = .resolved := by simp [hnew]
  unfold Pass.enter Store.binding
  rw [hb]
  show (ite (b.state = .resolved) _ _ : Pass Expr) entered = _
  rw [if_neg hstate]
  show (ite (id ∈ entered) _ _ : Pass Expr) entered = _
  rw [if_neg hfresh]
  unfold Store.scale
  rw [hs]
  rfl

/-- **Where the fold gives something, over a fresh tree, so does a pass.** The room need not be the
    depth of the fold: every binding that a pass enters on its way down is another one. -/
theorem completes_enter (room depth : Nat) {id : BindingId} {e : Expr}
    (h : s.build? depth id = some e) :
    Completes s room (Pass.enter s columnOf room id) [id] e := by
  induction room generalizing depth id e with
  | zero =>
    intro entered listed hn hvisited hroom
    obtain ⟨behind, rfl, -⟩ := hvisited.of_single hn
    simp at hroom
  | succ room ih =>
    intro entered listed hn hvisited hroom
    obtain ⟨behind, rfl, hfresh, hstate, hn', hbehind⟩ := hvisited.of_single hn
    cases depth with
    | zero => cases h
    | succ depth =>
      obtain ⟨b, scale, attrs, values, hb, hs, hattrs, hvalues, he⟩ :=
        Store.build?_succ_eq_some_iff.1 h
      have hnew : b.state = .created := by
        unfold Store.state? at hstate
        rw [hb] at hstate
        exact Option.some.inj hstate
      have hbody := completes_body (ih depth) hb hs hattrs hvalues he
      have hlength : behind.length ≤ room := by simpa using hroom
      rw [Pass.enter_eq hb hnew hfresh hs, hbody hn' hbehind hlength]
      simp

/-! ## 6. Resolving -/

/-- Bindings of a store, none of them listed twice, are no more than the store has. -/
theorem Store.length_le_of_index_lt {listed : List BindingId} (hn : listed.Nodup)
    (hin : ∀ x ∈ listed, x.index < s.bindings.length) : listed.length ≤ s.bindings.length := by
  have hindices : (listed.map BindingId.index).Nodup :=
    List.Nodup.map (fun _ _ h => congrArg BindingId.mk h) hn
  have hrange : listed.map BindingId.index ⊆ List.range s.bindings.length := by
    intro i hi
    obtain ⟨x, hx, rfl⟩ := List.mem_map.mp hi
    exact List.mem_range.mpr (hin x hx)
  have := (List.subperm_of_subset hindices hrange).length_le
  simpa using this

/-- A tree in which nothing occurs twice has no more bindings than the store. -/
theorem Store.length_le_of_created {listed : List BindingId} (hn : listed.Nodup)
    (hcreated : ∀ x ∈ listed, s.state? x = some .created) : listed.length ≤ s.bindings.length := by
  refine Store.length_le_of_index_lt hn fun x hx => ?_
  obtain ⟨b, hb, -⟩ := Option.map_eq_some_iff.1 (hcreated x hx)
  exact (List.getElem?_eq_some_iff.1 hb).1

/-- A resolver that is idle gives an expression if and only if the binding has a fresh tree and
    means that expression. -/
theorem Resolver.resolve_ok_iff_of_idle {r : Resolver} (h : r.Idle) (hr : r.references = columnOf)
    (s : Store) (id : BindingId) (e : Expr) :
    (r.resolve s id).1 = .ok e ↔ s.Fresh id ∧ s.Means id e := by
  rw [Resolver.resolve_eq h, hr]
  show (Pass.closed s (Pass.enter s columnOf s.bindings.length id [])).1 = .ok e ↔ _
  constructor
  · intro h
    cases hp : Pass.enter s columnOf s.bindings.length id [] with
    | error f =>
      rw [hp] at h
      cases h
    | ok p =>
      obtain ⟨e', entered⟩ := p
      rw [hp] at h
      obtain rfl : e' = e := Except.ok.inj h
      obtain ⟨listed, -, hvisited⟩ := visits_enter columnOf _ id hp
      have hfresh : s.Fresh id :=
        ⟨listed, hvisited.unfolds, hvisited.distinct .nil, hvisited.created⟩
      exact ⟨hfresh, _, gives_build _ id hp⟩
  · rintro ⟨⟨listed, hunfolds, hn, hcreated⟩, depth, h⟩
    have hvisited : Visited s [id] [] listed := ⟨hunfolds, hcreated, fun _ => hn⟩
    rw [completes_enter _ depth h .nil hvisited (Store.length_le_of_created hn hcreated)]
    rfl

theorem Resolver.references_after (r : Resolver) (calls : List Resolver.Call) :
    (r.after calls).references = r.references := by
  induction calls generalizing r with
  | nil => rfl
  | cons call rest ih =>
    refine (ih (r.served call)).trans ?_
    cases call <;> rfl

/-- **Resolution is a fold of the tree.** Whatever calls a resolver has served, resolving a binding
    gives an expression if and only if the binding unfolds into a finite tree of new bindings, none
    of which occurs twice, and means that expression. So two resolvers that give expressions give
    the same one, whatever they did before and whatever else is resolved in the stores, if these
    hold the same scales and bindings. -/
theorem Resolver.resolve_ok_iff (calls : List Resolver.Call) (s : Store) (id : BindingId)
    (e : Expr) :
    ((((Resolver.new columnOf).after calls).resolve s id).1 = .ok e ↔
      s.Fresh id ∧ s.Means id e) ∧
    ∀ (calls' : List Resolver.Call) (s' : Store) (e' : Expr), s.SameInputs s' →
      (((Resolver.new columnOf).after calls).resolve s id).1 = .ok e →
      (((Resolver.new columnOf).after calls').resolve s' id).1 = .ok e' → e = e' := by
  have hiff (calls : List Resolver.Call) (s : Store) (e : Expr) :
      (((Resolver.new columnOf).after calls).resolve s id).1 = .ok e ↔
        s.Fresh id ∧ s.Means id e :=
    Resolver.resolve_ok_iff_of_idle (Resolver.idle_after calls (r := Resolver.new columnOf) rfl)
      (Resolver.references_after _ calls) s id e
  refine ⟨hiff calls s e, fun calls' s' e' hsame h h' => ?_⟩
  have hmeans : s'.Means id e := ((hiff calls s e).1 h).2.of_sameInputs hsame
  exact hmeans.unique ((hiff calls' s' e').1 h').2

end VisualScale
