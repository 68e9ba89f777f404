import VisualScale.Proofs.Language.Steps
import VisualScale.Proofs.Language.Tree
import VisualScale.Proofs.Nodes

/-!
# From word to word

The place of a node goes from the start of one of the words that were read to the end of the same or
a later one (`Spans`). What the places of all nodes of a phrase have in common (`Phrase.Placed`)
holds of the node that a refusal names (`Phrase.Placed.refusal`), and of every node of the formula
that the phrase is (`Phrase.Placed.node`).
-/

namespace VisualScale

/-- The span goes from the start of one of the words to the end of the same or a later one. -/
def Spans (tokens : List Token) (s : Span) : Prop :=
  ∃ before t ts after, tokens = before ++ t :: (ts ++ after) ∧
    s = ⟨t.span.start, (ts.getLast?.getD t).span.stop⟩

theorem Spans.behind {tokens : List Token} {s : Span} (h : Spans tokens s) (ts : List Token) :
    Spans (ts ++ tokens) s := by
  obtain ⟨before, t, us, after, rfl, rfl⟩ := h
  exact ⟨ts ++ before, t, us, after, by rw [List.append_assoc], rfl⟩

/-! ## 1. The places of all nodes -/

namespace Phrase

mutual

/-- The places of all nodes of a phrase have a property. -/
def Placed (P : Span → Prop) : Phrase → Prop
  | whole _ s | real _ s | constant s | name _ s | unpacked s | form _ s => P s
  | binary _ _ left right s => P s ∧ left.Placed P ∧ right.Placed P
  | unary _ _ operand s => P s ∧ operand.Placed P
  | call callee args _ s => P s ∧ callee.Placed P ∧ AllPlaced P args
  | member value _ s => P s ∧ value.Placed P

/-- The places of all nodes of phrases have a property. -/
def AllPlaced (P : Span → Prop) : List Phrase → Prop
  | [] => True
  | ph :: rest => ph.Placed P ∧ AllPlaced P rest

end

variable {P Q : Span → Prop}

theorem allPlaced_iff {phs : List Phrase} : AllPlaced P phs ↔ ∀ ph ∈ phs, ph.Placed P := by
  induction phs with
  | nil => simp [AllPlaced]
  | cons ph rest ih => simp [AllPlaced, ih]

theorem Placed.span {ph : Phrase} (h : ph.Placed P) : P ph.span := by
  cases ph with
  | whole | real | constant | name | unpacked | form => exact h
  | binary | unary | call | member => exact h.1

mutual

theorem Placed.mono (hPQ : ∀ s, P s → Q s) : {ph : Phrase} → ph.Placed P → ph.Placed Q
  | whole _ s, h | real _ s, h | constant s, h | name _ s, h | unpacked s, h | form _ s, h =>
    hPQ s h
  | binary _ _ _ _ s, h => ⟨hPQ s h.1, h.2.1.mono hPQ, h.2.2.mono hPQ⟩
  | unary _ _ _ s, h => ⟨hPQ s h.1, h.2.mono hPQ⟩
  | call _ _ _ s, h => ⟨hPQ s h.1, h.2.1.mono hPQ, AllPlaced.mono hPQ h.2.2⟩
  | member _ _ s, h => ⟨hPQ s h.1, h.2.mono hPQ⟩

theorem AllPlaced.mono (hPQ : ∀ s, P s → Q s) : {phs : List Phrase} → AllPlaced P phs →
    AllPlaced Q phs
  | [], _ => trivial
  | _ :: _, h => ⟨h.1.mono hPQ, AllPlaced.mono hPQ h.2⟩

end

mutual

/-- What is refused is a node. -/
theorem Placed.refusal {why : Refusal} {s : Span} : {ph : Phrase} → ph.Placed P →
    ph.refusal? = some (why, s) → P s
  | whole _ _, _, hr | real _ _, _, hr | name _ _, _, hr => nomatch hr
  | constant _, h, hr | unpacked _, h, hr | form _ _, h, hr => by
    obtain ⟨-, rfl⟩ := Prod.mk.inj (Option.some.inj hr)
    exact h
  | binary _ known left right _, h, hr => by
    unfold refusal? at hr
    cases known with
    | false =>
      obtain ⟨-, rfl⟩ := Prod.mk.inj (Option.some.inj hr)
      exact h.1
    | true =>
      rcases Option.or_eq_some_iff.1 hr with hleft | ⟨-, hright⟩
      · exact h.2.1.refusal hleft
      · exact h.2.2.refusal hright
  | unary _ known operand _, h, hr => by
    unfold refusal? at hr
    cases known with
    | false =>
      obtain ⟨-, rfl⟩ := Prod.mk.inj (Option.some.inj hr)
      exact h.1
    | true => exact h.2.refusal hr
  | call _ args keywords s', h, hr => by
    unfold refusal? at hr
    split at hr
    · split at hr
      · obtain ⟨-, rfl⟩ := Prod.mk.inj (Option.some.inj hr)
        exact h.1
      · exact AllPlaced.refusal h.1 h.2.2 hr
    · obtain ⟨-, rfl⟩ := Prod.mk.inj (Option.some.inj hr)
      exact h.1
  | member _ _ _, h, hr => by
    unfold refusal? at hr
    exact h.2.refusal hr

theorem AllPlaced.refusal {why : Refusal} {s t : Span} (hcall : P t) : {phs : List Phrase} →
    AllPlaced P phs → argumentRefusal? t phs = some (why, s) → P s
  | [], _, hr => nomatch hr
  | arg :: rest, h, hr => by
    unfold argumentRefusal? at hr
    split at hr
    · cases hr
    · obtain ⟨-, rfl⟩ := Prod.mk.inj (Option.some.inj hr)
      exact hcall
    · next heq =>
      obtain ⟨rfl, rfl⟩ := List.cons.inj heq
      rcases Option.or_eq_some_iff.1 hr with hfirst | ⟨-, hothers⟩
      · exact h.1.refusal hfirst
      · exact AllPlaced.refusal hcall h.2 hothers

end

theorem Placed.of_mem_operands {ph operand : Phrase} (h : ph.Placed P)
    (hmem : operand ∈ ph.operands) : operand.Placed P := by
  cases ph with
  | whole | real | constant | name | unpacked | form => cases hmem
  | binary =>
    simp only [operands, List.mem_cons, List.not_mem_nil, or_false] at hmem
    rcases hmem with rfl | rfl
    · exact h.2.1
    · exact h.2.2
  | unary | member =>
    obtain rfl := List.mem_singleton.1 hmem
    exact h.2
  | call => exact allPlaced_iff.1 h.2.2 operand hmem

/-- The nodes of a formula are nodes of its phrase. -/
theorem Placed.node {ph : Phrase} {f node : Formula} {path : List Nat} (hph : ph.Placed P)
    (h : ph.formula? = some f) (hnode : f.node? path = some node) : P node.span := by
  induction path generalizing ph f with
  | nil =>
    obtain rfl := Option.some.inj hnode
    rw [(formula?_eq_some h).1]
    exact hph.span
  | cons i path ih =>
    obtain ⟨child, hi, hpath⟩ := Formula.exists_of_node?_cons hnode
    obtain ⟨operand, hmem, hchild⟩ := exists_operand h (List.mem_of_getElem? hi)
    exact ih (hph.of_mem_operands hmem) hchild hpath

end Phrase

end VisualScale
