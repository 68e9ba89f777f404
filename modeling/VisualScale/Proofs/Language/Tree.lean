import VisualScale.Formula.Phrase
import VisualScale.Proofs.Nodes

/-!
# Phrases that are formulas

A phrase of the wider language is a formula if each of its nodes is one that formulas have, and then
it is the formula with the same nodes at the same places (`Phrase.formula?`). The function of a call
loses its place: it is no node of a formula.
-/

namespace VisualScale

namespace Phrase

mutual

/-- The formula that a phrase is, if it is one. -/
def formula? : Phrase → Option Formula
  | whole n s => some (.whole n s)
  | real d s => some (.real d s)
  | name id s => some (.name id s)
  | binary op _ left right s => do
    let op ← Operator.ofKind? op
    let l ← left.formula?
    let r ← right.formula?
    some (.binary op l r s)
  | unary op _ operand s => do
    let sign ← Sign.ofKind? op
    let o ← operand.formula?
    some (.signed sign o s)
  | call callee args keywords s =>
    match callee with
    | name function _ => if keywords then none else (formulas? args).map (.call function · s)
    | _ => none
  | member value field s => value.formula?.map (.component · field s)
  | constant _ | unpacked _ | form _ _ => none

/-- The formulas that phrases side by side are, if each of them is one. -/
def formulas? : List Phrase → Option (List Formula)
  | [] => some []
  | ph :: rest => do
    let f ← ph.formula?
    let fs ← formulas? rest
    some (f :: fs)

end

theorem formulas?_eq_some_iff {phs : List Phrase} {fs : List Formula} :
    formulas? phs = some fs ↔ phs.map formula? = fs.map some := by
  induction phs generalizing fs with
  | nil => cases fs <;> simp [formulas?]
  | cons ph rest ih =>
    cases fs with
    | nil => simp [formulas?, Option.bind_eq_some_iff]
    | cons f fs => simp [formulas?, Option.bind_eq_some_iff, ← ih]

theorem formula?_binary {op : String} {operation : Operator} {left right : Phrase} {l r : Formula}
    (hop : Operator.ofKind? op = some operation) (hl : left.formula? = some l)
    (hr : right.formula? = some r) (known : Bool) (s : Span) :
    (binary op known left right s).formula? = some (.binary operation l r s) := by
  simp [formula?, hop, hl, hr]

theorem formula?_unary {op : String} {sign : Sign} {operand : Phrase} {o : Formula}
    (hop : Sign.ofKind? op = some sign) (ho : operand.formula? = some o) (known : Bool) (s : Span) :
    (unary op known operand s).formula? = some (.signed sign o s) := by
  simp [formula?, hop, ho]

theorem formula?_member {value : Phrase} {v : Formula} (hv : value.formula? = some v)
    (field : String) (s : Span) :
    (member value field s).formula? = some (.component v field s) := by
  simp [formula?, hv]

theorem formula?_call {args : List Phrase} {fs : List Formula}
    (hargs : args.map formula? = fs.map some) (function : String) (t s : Span) :
    (call (.name function t) args false s).formula? = some (.call function fs s) := by
  have hfs := formulas?_eq_some_iff.2 hargs
  simp [formula?, hfs]

/-- A phrase that is a formula and a name is that name. -/
theorem formula?_name {ph : Phrase} {id : String} {s : Span} {f : Formula}
    (h : ph.formula? = some f) (hph : ph = .name id s) : f = .name id s := by
  subst hph
  exact (Option.some.inj h).symm

/-- The phrases right below a phrase that a formula keeps, from left to right. -/
def operands : Phrase → List Phrase
  | binary _ _ left right _ => [left, right]
  | unary _ _ operand _ => [operand]
  | call _ args _ _ => args
  | member value _ _ => [value]
  | whole _ _ | real _ _ | constant _ | name _ _ | unpacked _ | form _ _ => []

/-- A formula stands where its phrase does, over the formulas of the phrases below. -/
theorem formula?_eq_some {ph : Phrase} {f : Formula} (h : ph.formula? = some f) :
    f.span = ph.span ∧ ph.operands.map formula? = f.children.map some := by
  cases ph with
  | whole | real | name =>
    obtain rfl := Option.some.inj h
    exact ⟨rfl, rfl⟩
  | constant | unpacked | form => cases h
  | binary op known left right s =>
    unfold formula? at h
    obtain ⟨operation, -, h⟩ := Option.bind_eq_some_iff.1 h
    obtain ⟨l, hl, h⟩ := Option.bind_eq_some_iff.1 h
    obtain ⟨r, hr, h⟩ := Option.bind_eq_some_iff.1 h
    obtain rfl := Option.some.inj h
    exact ⟨rfl, by simp [operands, Formula.children, hl, hr]⟩
  | unary op known operand s =>
    unfold formula? at h
    obtain ⟨sign, -, h⟩ := Option.bind_eq_some_iff.1 h
    obtain ⟨o, ho, h⟩ := Option.bind_eq_some_iff.1 h
    obtain rfl := Option.some.inj h
    exact ⟨rfl, by simp [operands, Formula.children, ho]⟩
  | call callee args keywords s =>
    unfold formula? at h
    split at h
    · split at h
      · cases h
      · obtain ⟨fs, hfs, rfl⟩ := Option.map_eq_some_iff.1 h
        exact ⟨rfl, formulas?_eq_some_iff.1 hfs⟩
    · cases h
  | member value field s =>
    unfold formula? at h
    obtain ⟨v, hv, rfl⟩ := Option.map_eq_some_iff.1 h
    exact ⟨rfl, by simp [operands, Formula.children, hv]⟩

theorem exists_operand {ph : Phrase} {f child : Formula} (h : ph.formula? = some f)
    (hchild : child ∈ f.children) : ∃ operand ∈ ph.operands, operand.formula? = some child := by
  have hmem : some child ∈ ph.operands.map formula? := by
    rw [(formula?_eq_some h).2]
    exact List.mem_map_of_mem hchild
  exact List.mem_map.1 hmem

end Phrase

end VisualScale
