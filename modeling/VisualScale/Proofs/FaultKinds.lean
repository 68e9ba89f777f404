import VisualScale.Proofs.Failing
import VisualScale.Proofs.Language.Accepted
import VisualScale.Proofs.Source.RoundTrip

/-!
# Of which kind failures are

Reading a text fails because of its wording, and compiling a formula and writing an expression fail
because of types. There are exceptions to each: a null character in a text; a whole number that is
larger than every double, where a formula or a constant holds one; and a constant with a part that
is no number, where the constant was given its type by hand and holds a reference, an expression or
a binding. Nothing looks for these before something else stumbles over them, and so the failures are
of other kinds (`fails_otherwise_iff`).

A text is a sequence of characters here. A surrogate is none, so strings with one, which cannot be
read either, are not spoken about; nor are texts that are nested too deep for the room there is.

* `Formula.Rule.kind` -- the rules of nodes fail because of types, but for that of whole numbers;
* `FailsFirst`, `Expr.failsFirst_sourceChars` -- writing an expression fails with the first of its
  obstacles, from left to right (`Expr.obstacles`), and with nothing else;
* `Expr.kind_of_mem_obstacles` -- of which kind an obstacle is;
* `ParsedFormula.exists_ofText_digits` -- a whole number is a formula, however large it is.
-/

namespace VisualScale

/-! ## 1. The kind of a rule's faults -/

/-- The outcome is a value, or a fault of one kind. -/
def FailsBy {α : Type} (k : FaultKind) (r : Except Fault α) : Prop :=
  ∀ ⦃f⦄, r = .error f → f.kind = k

section FailsBy

variable {α β : Type} {k : FaultKind} {x y : Except Fault α}

theorem failsBy_ok (a : α) : FailsBy k (.ok a) := fun _ h => nomatch h

theorem failsBy_error {f : Fault} (h : f.kind = k) : FailsBy k (.error f : Except Fault α) :=
  fun _ heq => Except.error.inj heq ▸ h

theorem FailsBy.ite {c : Prop} [Decidable c] (h : FailsBy k x) (h' : FailsBy k y) :
    FailsBy k (if c then x else y) := by
  split
  · exact h
  · exact h'

theorem FailsBy.bind (h : FailsBy k x) {l : α → Except Fault β} (hl : ∀ a, FailsBy k (l a)) :
    FailsBy k (x >>= l) := by
  intro f hf
  obtain hf | ⟨a, -, hf⟩ := Outcome.bind_eq_error_iff.1 hf
  · exact h hf
  · exact hl a hf

theorem FailsBy.map (h : FailsBy k x) (l : α → β) : FailsBy k (x.map l) :=
  fun _ hf => h (Outcome.map_eq_error_iff.1 hf)

end FailsBy

namespace Signature

theorem failsBy_operatorType (op : String) (left right : ValueType) :
    FailsBy .typing (operatorType op left right) :=
  (failsBy_ok _).ite <| (failsBy_ok _).ite <| (failsBy_ok _).ite <| (failsBy_ok _).ite <|
    failsBy_error rfl

theorem failsBy_signType (op : String) (operand : ValueType) :
    FailsBy .typing (signType op operand) := (failsBy_ok _).ite (failsBy_error rfl)

namespace Intrinsic

theorem failsBy_common (function : String) (types : List ValueType) :
    FailsBy .typing (common function types) := by
  refine (failsBy_ok _).ite ?_
  cases types with
  | nil => exact failsBy_error rfl
  | cons first rest => exact (failsBy_ok _).ite (failsBy_error rfl)

theorem failsBy_ofNumbers (function : String) (result : ValueType) (types : List ValueType) :
    FailsBy .typing (ofNumbers function result types) := (failsBy_ok _).ite (failsBy_error rfl)

theorem failsBy_rule (f : Intrinsic) (types : List ValueType) : FailsBy .typing (f.rule types) := by
  unfold rule
  dsimp only
  split
  case h_1 | h_2 | h_3 => exact failsBy_common _ _
  case h_4 => exact (failsBy_common _ _).bind fun _ => (failsBy_ok _).ite (failsBy_error rfl)
  case h_5 => exact (failsBy_common _ _).ite (failsBy_error rfl)
  case h_6 | h_7 | h_8 => exact (failsBy_ok _).ite (failsBy_error rfl)
  all_goals exact failsBy_ofNumbers _ _ _

end Intrinsic

theorem failsBy_callType (name : String) (types : List ValueType) :
    FailsBy .typing (callType name types) := by
  unfold callType
  split
  · exact (Intrinsic.failsBy_rule _ _).ite (failsBy_error rfl)
  · exact failsBy_error rfl

end Signature

open Signature

namespace Formula

variable {source : String} {env : Environment}

/-- A whole number has no double. -/
theorem wholeConstant_eq_error_iff {n : Nat} {fault : Fault} :
    wholeConstant n = .error fault ↔ Double.ofInt? n = none ∧ fault = .integerTooLarge := by
  have heq : wholeConstant n = (Build.finiteDouble (Double.ofInt? n)).map
      fun d => .const (.literal (.scalar (.float d))) .float := rfl
  rw [heq, Outcome.map_eq_error_iff]
  cases Double.ofInt? n with
  | none => exact ⟨fun h => ⟨rfl, (Except.error.inj h).symm⟩, fun h => h.2 ▸ rfl⟩
  | some d => exact ⟨nofun, nofun⟩

/-- **The rule of a node fails because of types, unless it is that of a whole number, which is too
    large.** -/
theorem Rule.kind {f : Formula} {es : List Expr} {fault : Fault}
    (h : Rule env f es (.error fault)) :
    fault.kind = .typing ∨
      ∃ n s, f = .whole n s ∧ Double.ofInt? n = none ∧ fault = .integerTooLarge := by
  generalize hr : (.error fault : Except Fault Expr) = r at h
  cases h with
  | whole n s =>
    obtain ⟨hn, rfl⟩ := wholeConstant_eq_error_iff.1 hr.symm
    exact .inr ⟨n, s, rfl, hn, rfl⟩
  | real d s => cases hr
  | bound s h => cases hr
  | unbound s h =>
    obtain rfl := Except.error.inj hr
    exact .inl rfl
  | binary op left right s l r => exact .inl ((failsBy_operatorType _ _ _).map _ hr.symm)
  | signed sign operand s e =>
    cases sign with
    | plus => exact .inl ((failsBy_signType _ _).map _ hr.symm)
    | minus => exact .inl ((failsBy_signType _ _).map _ hr.symm)
  | call function args s => exact .inl ((failsBy_callType _ _).map _ hr.symm)
  | component value field s e =>
    have hc : FailsBy .typing (componentNode e field) := (failsBy_ok _).ite (failsBy_error rfl)
    exact .inl (hc hr.symm)

/-- So a formula fails because of types, unless it fails at a whole number that is too large. -/
theorem FailsAt.kind {f : Formula} {path : List Nat} {fault : Fault}
    (h : FailsAt source env f path fault) :
    fault.kind = .typing ∨ ∃ n s, f.node? path = some (.whole n s) ∧ Double.ofInt? n = none ∧
      fault = .integerTooLarge := by
  induction h with
  | function h => exact .inl rfl
  | @inside f child i es path fault hf hi hbefore _ ih =>
    rw [node?_cons hi path]
    exact ih
  | @own f es fault hf hes hr =>
    obtain hkind | ⟨n, s, rfl, hn, rfl⟩ := hr.kind
    · exact .inl hkind
    · exact .inr ⟨n, s, rfl, hn, rfl⟩

end Formula

/-! ## 2. Reading and compiling -/

namespace Text

/-- Only white space is lost from the ends of a text. -/
theorem mem_trim_of_not_isBlank {cs : List Char} {c : Char} (h : c ∈ cs) (hc : isBlank c = false) :
    c ∈ trim cs := by
  have hdrop {l : List Char} (hl : c ∈ l) : c ∈ l.dropWhile isBlank := by
    rw [← List.takeWhile_append_dropWhile (p := isBlank) (l := l)] at hl
    rcases List.mem_append.1 hl with hl | hl
    · have hblank := List.all_eq_true.1 List.all_takeWhile c hl
      rw [hc] at hblank
      cases hblank
    · exact hl
  exact List.mem_reverse.2 (hdrop (List.mem_reverse.2 (hdrop h)))

end Text

namespace ParsedFormula

theorem ofText_of_nul {text : String} (h : '\x00' ∈ text.toList) :
    ofText text = .error (.plain .nulCharacter) := by
  have hmem : '\x00' ∈ Text.trim text.toList := Text.mem_trim_of_not_isBlank h (by decide)
  unfold ofText
  dsimp only
  rw [if_neg (List.ne_nil_of_mem hmem)]
  unfold ofTrimmed
  dsimp only
  rw [if_pos (List.contains_iff_mem.2 hmem)]

/-- **A text is refused because of its wording, unless it has a null character.** -/
theorem ofText_fails_otherwise_iff (text : String) :
    (∃ f, ofText text = .error f ∧ f.fault.kind ≠ .wording) ↔ '\x00' ∈ text.toList := by
  constructor
  · rintro ⟨f, hf, hkind⟩
    by_contra hnul
    rcases ofText_cases hnul with ⟨_, hok, -⟩ | ⟨g, hg, hwording, -⟩
    · cases hok.symm.trans hf
    · obtain rfl := Except.error.inj (hg.symm.trans hf)
      exact hkind hwording
  · exact fun h => ⟨_, ofText_of_nul h, nofun⟩

/-- **A formula fails to compile because of types, unless it fails at a whole number that is larger
    than every double.** -/
theorem compile_fails_otherwise_iff (p : ParsedFormula) (env : Environment) :
    (∃ f, p.compile env = .error f ∧ f.fault.kind ≠ .typing) ↔
      ∃ path n span, p.formula.node? path = some (.whole n span) ∧ Double.ofInt? n = none ∧
        Formula.FailsAt p.source env p.formula path .integerTooLarge := by
  constructor
  · rintro ⟨f, hf, hkind⟩
    obtain ⟨path, node, fault, -, hfails, rfl⟩ := Formula.compile_eq_error_iff.1 hf
    rw [Failure.fault_at] at hkind
    obtain htyping | ⟨n, span, hnode, hn, rfl⟩ := hfails.kind
    · exact absurd htyping hkind
    · exact ⟨path, n, span, hnode, hn, hfails⟩
  · rintro ⟨path, n, span, hnode, -, hfails⟩
    refine ⟨_, Formula.compile_eq_error_iff.2 ⟨path, _, _, hnode, hfails, rfl⟩, ?_⟩
    rw [Failure.fault_at]
    exact nofun

end ParsedFormula

/-! ## 3. Writing -/

/-- The outcome is a value where there are no faults to be found, and else the first of them. -/
def FailsFirst {α : Type} (r : Except Fault α) (faults : List Fault) : Prop :=
  ∀ f, r = .error f ↔ faults.head? = some f

section FailsFirst

variable {α β : Type} {x : Except Fault α} {fs gs : List Fault}

theorem failsFirst_ok (a : α) : FailsFirst (.ok a) [] := fun _ => ⟨nofun, nofun⟩

theorem failsFirst_error (f : Fault) : FailsFirst (.error f : Except Fault α) [f] :=
  fun _ => ⟨fun h => congrArg some (Except.error.inj h), fun h => congrArg _ (Option.some.inj h)⟩

theorem FailsFirst.bind (h : FailsFirst x fs) {k : α → Except Fault β}
    (hk : ∀ a, x = .ok a → FailsFirst (k a) gs) : FailsFirst (x >>= k) (fs ++ gs) := by
  intro f
  rw [Outcome.bind_eq_error_iff, h f, List.head?_append, Option.or_eq_some_iff]
  refine or_congr Iff.rfl ?_
  cases x with
  | ok a =>
    have hnone : fs.head? = none := by
      rw [Option.eq_none_iff_forall_ne_some]
      exact fun g hg => nomatch (h g).2 hg
    constructor
    · rintro ⟨a', ha, hf⟩
      exact ⟨hnone, (hk a' ha f).1 hf⟩
    · exact fun hf => ⟨a, rfl, (hk a rfl f).2 hf.2⟩
  | error g =>
    have hsome : fs.head? = some g := (h g).1 rfl
    constructor
    · rintro ⟨_, ha, -⟩
      cases ha
    · rintro ⟨hnone, -⟩
      cases hsome.symm.trans hnone

theorem FailsFirst.map (h : FailsFirst x fs) (k : α → β) : FailsFirst (x.map k) fs :=
  fun f => Outcome.map_eq_error_iff.trans (h f)

end FailsFirst

/-- What keeps a number from being written. -/
def Scalar.obstacles : Scalar → List Fault
  | .bool _ => []
  | .int n => if (Double.ofInt? n).isSome then [] else [.integerTooLarge]
  | .float d => if d.isFinite then [] else [.nonFiniteSource d.text]

/-- What keeps a part of a constant from being written. -/
def Part.obstacles : Part → List Fault
  | .number s => s.obstacles
  | .other noun => [.notReal noun]

/-- What keeps a constant from being written. -/
def Value.obstacles : Value → List Fault
  | .literal (.scalar (.bool _)) => [.booleanSource]
  | .literal (.scalar s) => s.obstacles
  | v@(.datum .absent) | v@(.datum (.text _)) => [.notLiteral v.shown]
  | v => v.parts.flatMap Part.obstacles

namespace Expr

mutual

/-- What keeps an expression from being written, at its leaves from left to right. -/
def obstacles : Expr → List Fault
  | const value _ => value.obstacles
  | var _ _ | column _ _ => []
  | unary _ operand _ => operand.obstacles
  | binary _ left right _ => left.obstacles ++ right.obstacles
  | call _ args _ => obstaclesOfAll args
  | component value _ _ => value.obstacles
  | stray v => [.notNode v.noun]

/-- The obstacles of expressions side by side. -/
def obstaclesOfAll : List Expr → List Fault
  | [] => []
  | e :: rest => e.obstacles ++ obstaclesOfAll rest

end

end Expr

theorem failsFirst_doubleSource (d : Double) :
    FailsFirst (doubleSource d) (if d.isFinite then [] else [.nonFiniteSource d.text]) := by
  unfold doubleSource
  split
  · exact failsFirst_ok _
  · exact failsFirst_error _

theorem failsFirst_doubleSource_of_isFinite {d : Double} (h : d.isFinite = true) :
    FailsFirst (doubleSource d) [] := by
  have hfirst := failsFirst_doubleSource d
  rwa [if_pos h] at hfirst

theorem Double.isFinite_of_ofInt? {n : Int} {d : Double} (h : Double.ofInt? n = some d) :
    d.isFinite = true := by
  obtain ⟨hfinite, heq⟩ := Option.ite_none_right_eq_some.1 h
  exact Option.some.inj heq ▸ hfinite

theorem exists_toDouble_bool (b : Bool) :
    ∃ d, Build.toDouble (.bool b) = .ok d ∧ d.isFinite = true := by
  cases b with
  | false => exact ⟨.ofInt 0, rfl, by decide +kernel⟩
  | true => exact ⟨.ofInt 1, rfl, by decide +kernel⟩

theorem failsFirst_numberSource (asFloat : Bool) (s : Scalar) :
    FailsFirst (numberSource asFloat s) s.obstacles := by
  cases s with
  | bool b =>
    obtain ⟨d, hd, hfinite⟩ := exists_toDouble_bool b
    show FailsFirst (Build.toDouble (.bool b) >>= fun d => doubleSource d) []
    rw [hd]
    exact failsFirst_doubleSource_of_isFinite hfinite
  | float d => exact failsFirst_doubleSource d
  | int n =>
    have heq : numberSource asFloat (.int n) = Build.finiteDouble (Double.ofInt? n) >>= fun d =>
      if asFloat then doubleSource d else .ok (intText n) := rfl
    have hobstacles : (Scalar.int n).obstacles =
      if (Double.ofInt? n).isSome then [] else [.integerTooLarge] := rfl
    rw [heq, hobstacles]
    cases hn : Double.ofInt? n with
    | none => exact failsFirst_error _
    | some d =>
      show FailsFirst (if asFloat then doubleSource d else .ok (intText n)) []
      split
      · exact failsFirst_doubleSource_of_isFinite (Double.isFinite_of_ofInt? hn)
      · exact failsFirst_ok _

theorem failsFirst_partSource (part : Part) : FailsFirst (partSource part) part.obstacles := by
  cases part with
  | number s => exact failsFirst_numberSource true s
  | other noun => exact failsFirst_error _

theorem failsFirst_partSources (parts : List Part) :
    FailsFirst (partSources parts) (parts.flatMap Part.obstacles) := by
  induction parts with
  | nil => exact failsFirst_ok _
  | cons part rest ih =>
    refine (failsFirst_partSource part).bind fun text _ => ?_
    exact ih.map (text :: ·)

theorem failsFirst_constantSource (t : ValueType) (v : Value) :
    FailsFirst (constantSource t v) v.obstacles := by
  have hparts : FailsFirst ((partSources v.parts).map fun texts =>
      t.name.toList ++ '(' :: (joined texts ++ [')'])) (v.parts.flatMap Part.obstacles) :=
    (failsFirst_partSources v.parts).map _
  match v with
  | .datum .absent | .datum (.text _) | .literal (.scalar (.bool _)) => exact failsFirst_error _
  | .literal (.scalar (.int _)) | .literal (.scalar (.float _)) =>
    exact (failsFirst_numberSource _ _).map _
  | .literal (.vector2 ..) | .literal (.vector3 ..) | .literal (.vector4 ..)
  | .literal (.color ..) | .reference _ | .expr _ | .binding _ => exact hparts

namespace Expr

mutual

/-- **Writing an expression fails with the first of its obstacles.** -/
theorem failsFirst_sourceChars : (e : Expr) → FailsFirst e.sourceChars e.obstacles
  | const value t => failsFirst_constantSource t value
  | var _ _ | column _ _ => failsFirst_ok _
  | unary op operand _ =>
    (failsFirst_sourceChars operand).map fun text => '(' :: (op.toList ++ (text ++ [')']))
  | binary op left right _ => (failsFirst_sourceChars left).bind fun l _ =>
    (failsFirst_sourceChars right).map
      fun r => '(' :: (l ++ ' ' :: (op.toList ++ ' ' :: (r ++ [')'])))
  | call name args _ =>
    (failsFirst_sourcesOfAll args).map fun texts => name.toList ++ '(' :: (joined texts ++ [')'])
  | component value field _ =>
    (failsFirst_sourceChars value).map fun text => text ++ '.' :: field.toList
  | stray _ => failsFirst_error _

/-- The same of expressions side by side. -/
theorem failsFirst_sourcesOfAll : (es : List Expr) →
    FailsFirst (sourcesOfAll es) (obstaclesOfAll es)
  | [] => failsFirst_ok _
  | e :: rest => (failsFirst_sourceChars e).bind fun text _ =>
    (failsFirst_sourcesOfAll rest).map (text :: ·)

end

end Expr

/-! ## 4. The kinds of obstacles -/

/-- The faults that are none of types: a whole number that is larger than every double, and
    something in the place of a number that is none. -/
def Unforeseen (f : Fault) : Prop := f = .integerTooLarge ∨ ∃ noun, f = .notReal noun

theorem Unforeseen.kind_ne {f : Fault} (h : Unforeseen f) : f.kind ≠ .typing := by
  obtain rfl | ⟨noun, rfl⟩ := h
  · exact nofun
  · exact nofun

theorem Scalar.kind_of_mem_obstacles {s : Scalar} {f : Fault} (h : f ∈ s.obstacles) :
    f.kind = .typing ∨ Unforeseen f := by
  cases s with
  | bool b => cases h
  | int n =>
    obtain ⟨-, hf⟩ := List.mem_ite_nil_left.1 h
    exact .inr (.inl (List.mem_singleton.1 hf))
  | float d =>
    obtain ⟨-, hf⟩ := List.mem_ite_nil_left.1 h
    obtain rfl := List.mem_singleton.1 hf
    exact .inl rfl

theorem Part.kind_of_mem_obstacles {part : Part} {f : Fault} (h : f ∈ part.obstacles) :
    f.kind = .typing ∨ Unforeseen f := by
  cases part with
  | number s => exact Scalar.kind_of_mem_obstacles h
  | other noun => exact .inr (.inr ⟨noun, List.mem_singleton.1 h⟩)

theorem Value.kind_of_mem_obstacles {v : Value} {f : Fault} (h : f ∈ v.obstacles) :
    f.kind = .typing ∨ Unforeseen f := by
  match v, h with
  | .datum .absent, h | .datum (.text _), h | .literal (.scalar (.bool _)), h =>
    obtain rfl := List.mem_singleton.1 h
    exact .inl rfl
  | .literal (.scalar (.int n)), h => exact Scalar.kind_of_mem_obstacles (s := .int n) h
  | .literal (.scalar (.float x)), h => exact Scalar.kind_of_mem_obstacles (s := .float x) h
  | .literal (.vector2 ..), h | .literal (.vector3 ..), h | .literal (.vector4 ..), h
  | .literal (.color ..), h | .reference _, h | .expr _, h | .binding _, h =>
    obtain ⟨part, -, hpart⟩ := List.mem_flatMap.1 h
    exact Part.kind_of_mem_obstacles hpart

namespace Expr

mutual

/-- **An obstacle is one of types, unless it is a whole number that is larger than every double, or
    no number where a number is needed.** -/
theorem kind_of_mem_obstacles {f : Fault} :
    (e : Expr) → f ∈ e.obstacles → f.kind = .typing ∨ Unforeseen f
  | const _ _, h => Value.kind_of_mem_obstacles h
  | var _ _, h | column _ _, h => nomatch h
  | unary _ operand _, h => kind_of_mem_obstacles operand h
  | binary _ left right _, h => (List.mem_append.1 h).elim
    (kind_of_mem_obstacles left) (kind_of_mem_obstacles right)
  | call _ args _, h => kind_of_mem_obstaclesOfAll args h
  | component value _ _, h => kind_of_mem_obstacles value h
  | stray _, h => .inl (List.mem_singleton.1 h ▸ rfl)

/-- The same of expressions side by side. -/
theorem kind_of_mem_obstaclesOfAll {f : Fault} :
    (es : List Expr) → f ∈ obstaclesOfAll es → f.kind = .typing ∨ Unforeseen f
  | [], h => nomatch h
  | e :: rest, h => (List.mem_append.1 h).elim
    (kind_of_mem_obstacles e) (kind_of_mem_obstaclesOfAll rest)

end

/-- Writing an expression fails with the first of its obstacles. -/
theorem source_eq_error_iff {e : Expr} {f : Fault} :
    e.source = .error f ↔ e.obstacles.head? = some f :=
  Outcome.map_eq_error_iff.trans (e.failsFirst_sourceChars f)

/-- **An expression fails to be written because of types, unless the first of its obstacles is a
    whole number that is larger than every double, or no number where a number is needed.** -/
theorem source_fails_otherwise_iff (e : Expr) :
    (∃ f, e.source = .error f ∧ f.kind ≠ .typing) ↔
      ∃ f, e.obstacles.head? = some f ∧ Unforeseen f := by
  constructor
  · rintro ⟨f, hf, hkind⟩
    have hfirst := source_eq_error_iff.1 hf
    exact ⟨f, hfirst, (e.kind_of_mem_obstacles (List.mem_of_head? hfirst)).resolve_left hkind⟩
  · rintro ⟨f, hfirst, hf⟩
    exact ⟨f, source_eq_error_iff.2 hfirst, hf.kind_ne⟩

end Expr

/-! ## 5. Failures of other kinds -/

/-- **When reading, compiling and writing fail by another kind of fault than their own.** A text is
    refused because of its wording, unless it has a null character. A formula fails to compile
    because of types, unless the node that it fails at is a whole number that is larger than every
    double. And an expression fails to be written because of types, unless the first of its
    obstacles is such a number, or no number where a number is needed. -/
theorem fails_otherwise_iff (text : String) (p : ParsedFormula) (env : Environment) (e : Expr) :
    ((∃ f, ParsedFormula.ofText text = .error f ∧ f.fault.kind ≠ .wording) ↔
      '\x00' ∈ text.toList) ∧
    ((∃ f, p.compile env = .error f ∧ f.fault.kind ≠ .typing) ↔
      ∃ path n span, p.formula.node? path = some (.whole n span) ∧ Double.ofInt? n = none ∧
        Formula.FailsAt p.source env p.formula path .integerTooLarge) ∧
    ((∃ f, e.source = .error f ∧ f.kind ≠ .typing) ↔
      ∃ f, e.obstacles.head? = some f ∧ (f = .integerTooLarge ∨ ∃ noun, f = .notReal noun)) :=
  ⟨ParsedFormula.ofText_fails_otherwise_iff text, p.compile_fails_otherwise_iff env,
    e.source_fails_otherwise_iff⟩

/-- **A whole number is a formula**, if it has no more digits than are read at all. -/
theorem ParsedFormula.exists_ofText_digits {n : Nat} (hn : n < 10 ^ Numeral.maxWholeDigits) :
    ∃ p span, ofText (.ofList (Nat.toDigits 10 n)) = .ok p ∧ p.formula = .whole n span := by
  have hdigits := Decimal.allDigits_toDigits n
  have hlength : (Nat.toDigits 10 n).length ≤ Numeral.maxWholeDigits :=
    (Nat.length_toDigits_le_iff (by decide) (by decide)).2 hn
  have htext : OperandText .float (Nat.toDigits 10 n) [.whole n] :=
    operandText_numeral (.of_digits hdigits Nat.toDigits_ne_nil) (Lexer.spells_whole hlength) rfl
  have hbracket : '(' ∉ Nat.toDigits 10 n := fun hm => absurd (hdigits _ hm) (by decide)
  obtain ⟨tokens, hlex, htokens⟩ :=
    htext.exists_lex (Lexer.room_of_notMem hbracket (Nat.zero_le _))
  obtain ⟨t, rfl, ht⟩ := List.map_eq_singleton_iff.1 htokens
  have hwrites : Writes (.ofList (Nat.toDigits 10 n)) (.whole n t.span) := by
    refine ⟨[t], .word (.whole n t.span), ?_, ?_, rfl⟩
    · rw [String.toList_ofList, htext.trim_eq, hlex]
    · exact .term (.factor (.primary (.atom (.whole ht))))
  have hnul : '\x00' ∉ (String.ofList (Nat.toDigits 10 n)).toList := by
    rw [String.toList_ofList]
    exact htext.nul_notMem
  obtain ⟨p, hp, hformula⟩ := exists_ofText_of_writes hnul hwrites
  exact ⟨p, t.span, hp, hformula⟩

/-- A whole number past the largest double has none. -/
theorem Double.ofInt?_eq_none {n : Nat} (hn : 2 ^ 1024 ≤ n) : Double.ofInt? n = none := by
  have hnonneg : ¬ (n : Int) < 0 := Int.not_lt.2 (Int.natCast_nonneg n)
  have hinfinite : ofInt n = .infinity false := by
    unfold ofInt
    rw [decide_eq_false hnonneg, Int.natAbs_natCast]
    exact nearest_of_le false Nat.one_pos (Nat.le_refl _) (by rwa [Nat.one_mul])
  exact if_neg (by rw [hinfinite]; exact Bool.false_ne_true)

theorem two_pow_lt_ten_pow {k m : Nat} (hk : k ≠ 0) (h : k ≤ m) : 2 ^ k < 10 ^ m :=
  Nat.lt_of_lt_of_le (Nat.pow_lt_pow_left (by decide) hk) (Nat.pow_le_pow_right (by decide) h)

/-- **Each of the three fails otherwise as well**: a text with a null character is no formula; a
    whole number of 309 digits is one, which does not compile; and its constant, which can be built
    like any other, cannot be written. Nor can a reference that was made a constant. -/
theorem exists_fails_otherwise :
    (∃ f, ParsedFormula.ofText "a\x00b" = .error f ∧ f.fault.kind ≠ .wording) ∧
    (∃ text p f, ParsedFormula.ofText text = .ok p ∧ p.compile [] = .error f ∧
      f.fault.kind ≠ .typing) ∧
    (∃ (l : Literal) (e : Expr) (f : Fault), Build.constant (.literal l) = .ok e ∧
      e.source = .error f ∧ f.kind ≠ .typing) ∧
    ∃ (r : DataRef) (e : Expr) (f : Fault), Build.constantOfType (.reference r) "float" = .ok e ∧
      e.source = .error f ∧ f.kind ≠ .typing := by
  obtain ⟨n, hlarge, hread⟩ : ∃ n : Nat, 2 ^ 1024 ≤ n ∧ n < 10 ^ Numeral.maxWholeDigits :=
    ⟨_, Nat.le_refl _, two_pow_lt_ten_pow (by decide) (by decide)⟩
  have hnone := Double.ofInt?_eq_none hlarge
  refine ⟨⟨_, ParsedFormula.ofText_of_nul (by decide), nofun⟩, ?_, ?_, ?_⟩
  · obtain ⟨p, span, hp, hformula⟩ := ParsedFormula.exists_ofText_digits hread
    refine ⟨_, p, .at p.source span .integerTooLarge, hp, ?_, ?_⟩
    · unfold ParsedFormula.compile
      rw [hformula]
      show Formula.placed p.source span (Formula.wholeConstant n) = _
      rw [Formula.wholeConstant_eq_error_iff.2 ⟨hnone, rfl⟩]
      rfl
    · rw [Failure.fault_at]
      exact nofun
  · refine ⟨.scalar (.int n), _, .integerTooLarge, rfl, Expr.source_eq_error_iff.2 ?_, nofun⟩
    show (if (Double.ofInt? n).isSome then [] else [Fault.integerTooLarge]).head? = _
    rw [hnone]
    rfl
  · exact ⟨⟨"x", none, by decide⟩, _, .notReal "str", rfl, rfl, nofun⟩

end VisualScale
