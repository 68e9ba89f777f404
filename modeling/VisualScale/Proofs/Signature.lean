import VisualScale.Proofs.Outcome
import VisualScale.Signature

/-!
# What the rules are defined for

Where a rule gives a type, the operands have types of one of a few sorts, and the sort tells the
type:

* `OperatorSort` -- the sorts of operands that an operator is defined for;
* `CommonSort` -- the sorts of arguments that share a type;
* `callType_ok` -- a call that has a type is one of a known function, with as many arguments as it
  takes.
-/

namespace VisualScale

namespace Signature

open ValueType

/-! ## 1. Operators -/

/-- The types of two operands that an operator is defined for, and the type of the result. -/
inductive OperatorSort (op : String) : ValueType → ValueType → ValueType → Prop where
  | whole (h : op ≠ "/") : OperatorSort op .int .int .int
  | numbers {a b : ValueType} (ha : a.isNumeric = true) (hb : b.isNumeric = true) :
      OperatorSort op a b .float
  | alike {a : ValueType} (ha : a.isVectorLike = true) : OperatorSort op a a a
  | scaled {a b : ValueType} (h : op = "*" ∨ op = "/") (ha : a.isVectorLike = true)
      (hb : b.isNumeric = true) : OperatorSort op a b a
  | scaling {a b : ValueType} (h : op = "*") (ha : a.isNumeric = true)
      (hb : b.isVectorLike = true) : OperatorSort op a b b

/-- An operation that has a type is of one of the sorts. -/
theorem operatorSort_of_ok {op : String} {a b t : ValueType} (h : operatorType op a b = .ok t) :
    OperatorSort op a b t := by
  unfold operatorType at h
  split at h
  · next hn =>
    obtain ⟨ha, hb⟩ := Bool.and_eq_true_iff.1 hn
    obtain rfl := Except.ok.inj h
    split
    · next hwhole =>
      simp only [Bool.and_eq_true, beq_iff_eq, bne_iff_ne] at hwhole
      obtain ⟨⟨rfl, rfl⟩, hop⟩ := hwhole
      exact .whole hop
    · exact .numbers ha hb
  · split at h
    · next hv =>
      obtain ⟨ha, hab⟩ := Bool.and_eq_true_iff.1 hv
      obtain rfl := eq_of_beq hab
      obtain rfl := Except.ok.inj h
      exact .alike ha
    · split at h
      · next hs =>
        simp only [Bool.and_eq_true, Bool.or_eq_true, beq_iff_eq] at hs
        obtain rfl := Except.ok.inj h
        exact .scaled hs.1.1 hs.1.2 hs.2
      · split at h
        · next hs =>
          simp only [Bool.and_eq_true, beq_iff_eq] at hs
          obtain rfl := Except.ok.inj h
          exact .scaling hs.1.1 hs.1.2 hs.2
        · cases h

/-- A sign is for numbers, vectors and colors, and keeps their type. -/
theorem signType_ok {op : String} {a t : ValueType} (h : signType op a = .ok t) :
    t = a ∧ (a.isNumeric = true ∨ a.isVectorLike = true) := by
  unfold signType at h
  split at h
  · next ha => exact ⟨(Except.ok.inj h).symm, (Bool.or_eq_true _ _).mp ha⟩
  · cases h

/-! ## 2. Functions -/

/-- The types of arguments that share a type, and the shared type. -/
inductive CommonSort : List ValueType → ValueType → Prop where
  | numbers {types : List ValueType} (h : ∀ t ∈ types, t.isNumeric = true) :
      CommonSort types .float
  | alike {t : ValueType} {rest : List ValueType} (h : t.isVectorLike = true)
      (hrest : ∀ u ∈ rest, u = t) : CommonSort (t :: rest) t

namespace Intrinsic

theorem commonSort_of_ok {function : String} {types : List ValueType} {t : ValueType}
    (h : common function types = .ok t) : CommonSort types t := by
  unfold common at h
  split at h
  · next hn =>
    obtain rfl := Except.ok.inj h
    exact .numbers (List.all_eq_true.mp hn)
  · split at h
    · next first rest _ =>
      split at h
      · next hv =>
        obtain ⟨hfirst, hrest⟩ := Bool.and_eq_true_iff.1 hv
        obtain rfl := Except.ok.inj h
        exact .alike hfirst fun u hu => eq_of_beq (List.all_eq_true.mp hrest u hu)
      · cases h
    · cases h

theorem ofNumbers_ok {function : String} {result t : ValueType} {types : List ValueType}
    (h : ofNumbers function result types = .ok t) :
    t = result ∧ ∀ a ∈ types, a.isNumeric = true := by
  unfold ofNumbers at h
  split at h
  · next hn => exact ⟨(Except.ok.inj h).symm, List.all_eq_true.mp hn⟩
  · cases h

end Intrinsic

/-- A call that has a type is one of a known function, with as many arguments as it takes. -/
theorem callType_ok {name : String} {types : List ValueType} {t : ValueType}
    (h : callType name types = .ok t) :
    ∃ f, Intrinsic.ofName? name = some f ∧ types.length ∈ f.arities ∧ f.rule types = .ok t := by
  unfold callType at h
  split at h
  · next f hf =>
    unfold Intrinsic.resultType at h
    split at h
    · next harity => exact ⟨f, hf, harity, h⟩
    · cases h
  · cases h

end Signature

end VisualScale
