import Mathlib.Data.List.Forall2
import VisualScale.Proofs.Outcome
import VisualScale.Signature

/-!
# Whole numbers in the place of floats

A whole number fits wherever a float is asked for. This file says what that does to the type rules:

* `ValueType.StandsFor` -- a type stands for itself, and `int` stands for `float`;
* `Fault.widened` -- a fault with `float` in the place of `int`, so that two faults with the same
  widened form have the same reason;
* `Typings` -- two results of a type rule go together: both are types and the first stands for the
  second, or both are faults with the same reason.

The main statements are `operatorType_typings`, `signType_typings` and `callType_typings`: a rule
asked about types that stand for others gives results that go together. So no rule looks for `float`
where it should look for a number.
-/

namespace VisualScale

namespace ValueType

/-! ## 1. Types that stand for others -/

/-- A value of the first type may stand where one of the second is asked for. -/
def StandsFor (a b : ValueType) : Prop := a = b ∨ a = .int ∧ b = .float

instance (a b : ValueType) : Decidable (a.StandsFor b) :=
  inferInstanceAs (Decidable (a = b ∨ a = .int ∧ b = .float))

theorem StandsFor.refl (a : ValueType) : a.StandsFor a := Or.inl rfl

theorem StandsFor.isNumeric {a b : ValueType} (h : a.StandsFor b) : a.isNumeric = b.isNumeric := by
  rcases h with rfl | ⟨rfl, rfl⟩ <;> rfl

theorem StandsFor.components {a b : ValueType} (h : a.StandsFor b) :
    a.components = b.components := by
  rcases h with rfl | ⟨rfl, rfl⟩ <;> rfl

theorem StandsFor.isVectorLike {a b : ValueType} (h : a.StandsFor b) :
    a.isVectorLike = b.isVectorLike := by
  unfold ValueType.isVectorLike
  rw [h.components]

theorem StandsFor.isVector {a b : ValueType} (h : a.StandsFor b) : a.isVector = b.isVector := by
  rcases h with rfl | ⟨rfl, rfl⟩ <;> rfl

/-- Outside the numbers a type stands for itself alone. -/
theorem StandsFor.eq_of_isNumeric_eq_false {a b : ValueType} (h : a.StandsFor b)
    (hb : b.isNumeric = false) : a = b := by
  rcases h with rfl | ⟨rfl, rfl⟩
  · rfl
  · cases hb

theorem isNumeric_eq_false_of_isVectorLike {a : ValueType} (h : a.isVectorLike = true) :
    a.isNumeric = false := by
  cases a <;> first | rfl | exact absurd h (by decide)

theorem isVectorLike_of_isVector {a : ValueType} (h : a.isVector = true) :
    a.isVectorLike = true := (isVectorLike_iff a).2 (Or.inl h)

/-- Two types equal to vectors or colors do not become equal, or different, by standing for
    others. -/
theorem StandsFor.beq_eq {a a' b b' : ValueType} (ha : a.StandsFor a') (hb : b.StandsFor b')
    (h : a'.isNumeric = false) : (a == b) = (a' == b') := by
  obtain rfl := ha.eq_of_isNumeric_eq_false h
  rcases hb with rfl | ⟨rfl, rfl⟩
  · rfl
  · cases a with
    | float | int => cases h
    | _ => rfl

/-- The same for a test that asks for equal types only where these are no numbers. -/
theorem StandsFor.and_beq_eq {a a' b b' : ValueType} (ha : a.StandsFor a') (hb : b.StandsFor b')
    {p : Bool} (hp : p = true → a'.isNumeric = false) : (p && a == b) = (p && a' == b') := by
  cases p with
  | false => rfl
  | true => rw [ha.beq_eq hb (hp rfl)]

/-- A type with `float` in the place of `int`. -/
def widened : ValueType → ValueType
  | int => float
  | t => t

theorem widened_of_isNumeric {t : ValueType} (h : t.isNumeric = true) : t.widened = .float := by
  cases t <;> first | rfl | cases h

theorem widened_of_not_isNumeric {t : ValueType} (h : t.isNumeric = false) : t.widened = t := by
  cases t <;> first | rfl | cases h

/-- A type that is the widened one of another, or a whole number in the place of a float, stands for
    the other, unless that is a whole number itself. -/
theorem standsFor_iff_ne_int {a t : ValueType} (h : a = t.widened ∨ a = .int ∧ t = .float) :
    a.StandsFor t ↔ t ≠ .int := by
  rcases h with rfl | ⟨rfl, rfl⟩
  · cases t <;> decide
  · exact ⟨fun _ => ValueType.noConfusion, fun _ => .inr ⟨rfl, rfl⟩⟩

theorem StandsFor.widened_eq {a b : ValueType} (h : a.StandsFor b) : a.widened = b.widened := by
  rcases h with rfl | ⟨rfl, rfl⟩ <;> rfl

/-- Lists of types that stand for one another, place by place. -/
abbrev AllStandFor : List ValueType → List ValueType → Prop := List.Forall₂ StandsFor

theorem AllStandFor.all_isNumeric {as bs : List ValueType} (h : AllStandFor as bs) :
    as.all isNumeric = bs.all isNumeric := by
  induction h with
  | nil => rfl
  | cons hab _ ih => rw [List.all_cons, List.all_cons, hab.isNumeric, ih]

theorem AllStandFor.map_widened {as bs : List ValueType} (h : AllStandFor as bs) :
    as.map widened = bs.map widened := by
  induction h with
  | nil => rfl
  | cons hab _ ih => rw [List.map_cons, List.map_cons, hab.widened_eq, ih]

theorem AllStandFor.all_beq {as bs : List ValueType} (h : AllStandFor as bs) {a b : ValueType}
    (hab : a.StandsFor b) (hb : b.isNumeric = false) :
    as.all (· == a) = bs.all (· == b) := by
  induction h with
  | nil => rfl
  | @cons x y _ _ hxy _ ih =>
    rw [List.all_cons, List.all_cons, ih, Bool.beq_comm (a := x), Bool.beq_comm (a := y),
      hab.beq_eq hxy hb]

end ValueType

/-! ## 2. Faults with the same reason -/

/-- A fault with `float` in the place of `int` wherever it speaks of types. -/
def Fault.widened : Fault → Fault
  | operatorUndefined op left right => operatorUndefined op left.widened right.widened
  | signUndefined op operand => signUndefined op operand.widened
  | functionUndefined function types => functionUndefined function (types.map ValueType.widened)
  | noComponent type field => noComponent type.widened field
  | slotMismatch label expected given => slotMismatch label expected.widened given.widened
  | f => f

/-- Two faults have the same reason. -/
def Fault.SameReason (f g : Fault) : Prop := f.widened = g.widened

theorem Fault.SameReason.refl (f : Fault) : f.SameReason f := rfl

@[simp] theorem Fault.kind_widened (f : Fault) : f.widened.kind = f.kind := by
  cases f <;> rfl

theorem Fault.SameReason.kind_eq {f g : Fault} (h : f.SameReason g) : f.kind = g.kind := by
  rw [← f.kind_widened, h, g.kind_widened]

/-- Two results of a type rule go together: both are types and the first stands for the second, or
    both are faults with the same reason. -/
abbrev Typings : Except Fault ValueType → Except Fault ValueType → Prop :=
  Alike Fault.SameReason ValueType.StandsFor

namespace Signature

open ValueType

/-! ## 3. The rules -/

theorem operatorType_typings (op : String) {a a' b b' : ValueType} (ha : a.StandsFor a')
    (hb : b.StandsFor b') : Typings (operatorType op a b) (operatorType op a' b') := by
  unfold operatorType
  rw [ha.isNumeric, hb.isNumeric, ha.isVectorLike, hb.isVectorLike]
  by_cases hn : (a'.isNumeric && b'.isNumeric) = true
  · rw [if_pos hn, if_pos hn]
    refine .ok ?_
    rcases ha with rfl | ⟨rfl, rfl⟩
    · rcases hb with rfl | ⟨rfl, rfl⟩
      · exact .refl _
      · -- the second operand is whole on one side only
        simp only [show (ValueType.float == .int) = false from rfl, Bool.and_false, Bool.false_and]
        split
        · exact Or.inr ⟨rfl, rfl⟩
        · exact .refl _
    · simp only [show (ValueType.float == .int) = false from rfl, Bool.false_and]
      split
      · exact Or.inr ⟨rfl, rfl⟩
      · exact .refl _
  · rw [if_neg hn, if_neg hn]
    rw [ha.and_beq_eq hb isNumeric_eq_false_of_isVectorLike]
    split
    · exact .ok ha
    · split
      · exact .ok ha
      · split
        · exact .ok hb
        · refine .error ?_
          simp only [Fault.SameReason, Fault.widened, ha.widened_eq, hb.widened_eq]

theorem signType_typings (op : String) {a a' : ValueType} (ha : a.StandsFor a') :
    Typings (signType op a) (signType op a') := by
  unfold signType
  rw [ha.isNumeric, ha.isVectorLike]
  split
  · exact .ok ha
  · exact .error (by simp only [Fault.SameReason, Fault.widened, ha.widened_eq])

namespace Intrinsic

/-- What a function is not defined for, it is not defined for by the same reason. -/
theorem functionUndefined_typings (function : String) {as bs : List ValueType}
    (h : AllStandFor as bs) :
    Typings (.error (.functionUndefined function as)) (.error (.functionUndefined function bs)) :=
  .error (by simp only [Fault.SameReason, Fault.widened, h.map_widened])

theorem common_typings (function : String) {as bs : List ValueType} (h : AllStandFor as bs) :
    Typings (common function as) (common function bs) := by
  unfold common
  rw [h.all_isNumeric]
  split
  · exact .ok (.refl _)
  · cases h with
    | nil => exact functionUndefined_typings function .nil
    | @cons a b as bs hab hrest =>
      have hv : (a.isVectorLike && as.all (· == a)) = (b.isVectorLike && bs.all (· == b)) := by
        rw [hab.isVectorLike]
        cases hb : b.isVectorLike with
        | false => rfl
        | true => rw [AllStandFor.all_beq hrest hab (isNumeric_eq_false_of_isVectorLike hb)]
      simp only [hv]
      split
      · exact .ok hab
      · exact functionUndefined_typings function (.cons hab hrest)

theorem ofNumbers_typings (function : String) (result : ValueType) {as bs : List ValueType}
    (h : AllStandFor as bs) :
    Typings (ofNumbers function result as) (ofNumbers function result bs) := by
  unfold ofNumbers
  rw [h.all_isNumeric]
  split
  · exact .ok (.refl _)
  · exact functionUndefined_typings function h

/-- A rule that gives a type for arguments that pass a test. -/
theorem guarded_typings {c c' : Bool} (hc : c = c') {r r' : Except Fault ValueType}
    (hr : Typings r r') (function : String) {as bs : List ValueType} (h : AllStandFor as bs) :
    Typings (if c then r else .error (.functionUndefined function as))
      (if c' then r' else .error (.functionUndefined function bs)) := by
  subst hc
  split
  · exact hr
  · exact functionUndefined_typings function h

/-! ## 4. The functions -/

theorem clamp_typings {as bs : List ValueType} (h : AllStandFor as bs) :
    Typings (clamp.rule as) (clamp.rule bs) := by
  cases h with
  | nil => exact ofNumbers_typings _ .float .nil
  | @cons a b as bs hab hrest =>
    refine Alike.bind (common_typings clamp.name (.cons hab .nil)) fun t t' ht => ?_
    exact guarded_typings (AllStandFor.all_isNumeric hrest) (.ok ht) _ (.cons hab hrest)

theorem mix_typings {as bs : List ValueType} (h : AllStandFor as bs) :
    Typings (mix.rule as) (mix.rule bs) := by
  match as, bs, h with
  | [_, _, t], [_, _, t'], .cons ha (.cons hb (.cons ht .nil)) =>
    have hvalues := common_typings mix.name (.cons ha (.cons hb .nil))
    exact guarded_typings ht.isNumeric hvalues _ (.cons ha (.cons hb (.cons ht .nil)))
  | [], [], h | [_], [_], h | [_, _], [_, _], h | _ :: _ :: _ :: _ :: _, _ :: _ :: _ :: _ :: _, h =>
    exact ofNumbers_typings _ .float h

theorem length_typings {as bs : List ValueType} (h : AllStandFor as bs) :
    Typings (length.rule as) (length.rule bs) := by
  match as, bs, h with
  | [a], [a'], .cons ha .nil =>
    exact guarded_typings ha.isVector (.ok (.refl _)) _ (.cons ha .nil)
  | [], [], h | _ :: _ :: _, _ :: _ :: _, h => exact ofNumbers_typings _ .float h

theorem normalize_typings {as bs : List ValueType} (h : AllStandFor as bs) :
    Typings (normalize.rule as) (normalize.rule bs) := by
  match as, bs, h with
  | [a], [a'], .cons ha .nil => exact guarded_typings ha.isVector (.ok ha) _ (.cons ha .nil)
  | [], [], h | _ :: _ :: _, _ :: _ :: _, h => exact ofNumbers_typings _ .float h

theorem dot_typings {as bs : List ValueType} (h : AllStandFor as bs) :
    Typings (dot.rule as) (dot.rule bs) := by
  match as, bs, h with
  | [a, b], [a', b'], .cons ha (.cons hb .nil) =>
    have hsame : (a.isVector && a == b) = (a'.isVector && a' == b') := by
      rw [ha.isVector]
      refine ha.and_beq_eq hb fun hv => ?_
      exact isNumeric_eq_false_of_isVectorLike (isVectorLike_of_isVector hv)
    exact guarded_typings hsame (.ok (.refl _)) _ (.cons ha (.cons hb .nil))
  | [], [], h | [_], [_], h | _ :: _ :: _ :: _, _ :: _ :: _ :: _, h =>
    exact ofNumbers_typings _ .float h

/-- The rule of a function asked about as many arguments as it takes. -/
theorem rule_typings (f : Intrinsic) {as bs : List ValueType} (h : AllStandFor as bs) :
    Typings (f.rule as) (f.rule bs) := by
  cases f with
  | abs | min | max => exact common_typings _ h
  | log | exp | sqrt | sin | cos | tan | floor | ceil | pow => exact ofNumbers_typings _ .float h
  | vector2 => exact ofNumbers_typings _ .vector2 h
  | vector3 => exact ofNumbers_typings _ .vector3 h
  | vector4 => exact ofNumbers_typings _ .vector4 h
  | color => exact ofNumbers_typings _ .color h
  | clamp => exact clamp_typings h
  | mix => exact mix_typings h
  | length => exact length_typings h
  | dot => exact dot_typings h
  | normalize => exact normalize_typings h

theorem resultType_typings (f : Intrinsic) {as bs : List ValueType} (h : AllStandFor as bs) :
    Typings (f.resultType as) (f.resultType bs) := by
  unfold resultType
  rw [h.length_eq]
  split
  · exact rule_typings f h
  · exact .error (.refl _)

end Intrinsic

theorem callType_typings (name : String) {as bs : List ValueType} (h : AllStandFor as bs) :
    Typings (callType name as) (callType name bs) := by
  unfold callType
  cases Intrinsic.ofName? name with
  | none => exact .error (.refl _)
  | some f => exact Intrinsic.resultType_typings f h

end Signature

end VisualScale
