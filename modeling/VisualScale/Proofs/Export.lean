import VisualScale.Payload
import VisualScale.Proofs.Outcome
import VisualScale.Proofs.Resolution.Fold
import VisualScale.Proofs.Session

/-!
# When exporting a binding ends

The payload of a binding holds the payloads of the bindings in its arguments and in the attributes
that its scale has now. An attribute may be set after the scale was invoked, to a binding that was
made with it, so bindings can stand behind themselves. Resolution stops at such a binding; exporting
goes around for ever, and only the countdown of `Payload.ofBindingWithin` ends it.

The main statement, `Store.exists_exports_iff`, says exactly when: exporting a binding ends if and
only if no export that it comes to stands inside itself. Not every binding that stands behind itself
is such a case: where an earlier value cannot be stored, the export fails before it gets there.

* `ofBindingWithin_mono` -- an outcome below one depth is the outcome below every greater one;
* `endless_succ_iff`, `ne_endless_of_begins` -- an export does not end exactly where one that it
  begins does not, and ends below a greater depth than those;
* `endless_of_cycle` -- so around a cycle nothing ends;
* `exists_chain_of_endless`, `Acyclic.ends` -- what has not ended below a depth has begun a chain of
  exports of that length, which without a cycle is no longer than the store has bindings;
* `bindingPayload_eq_of_exports` -- the countdown from the number of bindings cuts nothing short;
* `Fresh.exists_exports` -- what a resolver makes an expression of can be exported.
-/

namespace VisualScale

namespace Payload

/-! ## 1. Greater depths -/

/-- The failure of an export that was to go deeper than it could. -/
abbrev endless : Failure := .plain .endless

/-- The second outcome is the first one, unless that is no outcome yet. -/
def Refines {α : Type} (x y : Except Failure α) : Prop := x = .error endless ∨ x = y

section Refines

variable {α β : Type} {x y : Except Failure α}

theorem Refines.refl (x : Except Failure α) : Refines x x := .inr rfl

theorem Refines.trans {z : Except Failure α} (h : Refines x y) (h' : Refines y z) :
    Refines x z := by
  obtain rfl | rfl := h
  · exact .inl rfl
  · exact h'

theorem Refines.eq (h : Refines x y) (hx : x ≠ .error endless) : x = y := h.resolve_left hx

theorem Refines.bind (h : Refines x y) {k l : α → Except Failure β}
    (hk : ∀ a, Refines (k a) (l a)) : Refines (x >>= k) (y >>= l) := by
  obtain rfl | rfl := h
  · exact .inl rfl
  · cases x with
    | error f => exact .inr rfl
    | ok a => exact hk a

theorem Refines.map (h : Refines x y) (k : α → β) : Refines (x.map k) (y.map k) := by
  obtain rfl | rfl := h
  · exact .inl rfl
  · exact .inr rfl

variable {f g : BindingId → Except Failure Payload} (h : ∀ id, Refines (f id) (g id))

include h

theorem refines_ofValue (v : Value) : Refines (ofValue f v) (ofValue g v) := by
  cases v with
  | binding id => exact (h id).map _
  | datum d => cases d <;> exact .refl _
  | reference r | expr e => exact .refl _

theorem refines_ofValues (vs : List Value) : Refines (ofValues f vs) (ofValues g vs) := by
  induction vs with
  | nil => exact .refl _
  | cons v rest ih => exact (refines_ofValue h v).bind fun p => ih.bind fun ps => .refl _

end Refines

/-! ## 2. One export -/

/-- An attribute as it is stored, with the payload of what it is bound to. -/
def attributeField (a : Attribute) (p : Payload) : Payload :=
  .record [("name", .text a.name), ("value_type", .text a.valueType.name), ("binding", p)]

/-- Attributes are stored as the values that they are bound to, each with its name and type. -/
theorem ofAttributes_eq (f : BindingId → Except Failure Payload) (as : List Attribute) :
    ofAttributes f as = (ofValues f (as.map Attribute.value)).map fun ps =>
      List.zipWith attributeField as ps := by
  induction as with
  | nil => rfl
  | cons a rest ih =>
    show (ofValue f a.value >>= fun p => ofAttributes f rest >>= fun ps => _) = _
    rw [ih]
    show _ = (ofValue f a.value >>= fun p => ofValues f (rest.map Attribute.value) >>= fun ps =>
      Except.ok (p :: ps)).map _
    cases ofValue f a.value with
    | error e => rfl
    | ok p => cases ofValues f (rest.map Attribute.value) <;> rfl

theorem refines_ofInvocation {f g : BindingId → Except Failure Payload}
    (h : ∀ id, Refines (f id) (g id)) (scale : Scale) (b : Binding) :
    Refines (ofInvocation f scale b) (ofInvocation g scale b) := by
  refine (refines_ofValues h _).bind fun ps => Refines.bind ?_ fun qs => .refl _
  rw [ofAttributes_eq, ofAttributes_eq]
  exact (refines_ofValues h _).map _

/-- An outcome at one depth is the outcome at the next one. -/
theorem refines_succ (s : Store) (depth : Nat) (id : BindingId) :
    Refines (ofBindingWithin s depth id) (ofBindingWithin s (depth + 1) id) := by
  induction depth generalizing id with
  | zero => exact .inl rfl
  | succ depth ih =>
    refine (Refines.refl (s.binding id)).bind fun b => (Refines.refl (s.scale b.scale)).bind ?_
    exact fun scale => refines_ofInvocation ih scale b

theorem refines_of_le (s : Store) {depth more : Nat} (hle : depth ≤ more) (id : BindingId) :
    Refines (ofBindingWithin s depth id) (ofBindingWithin s more id) := by
  induction hle with
  | refl => exact .refl _
  | @step more _ ih => exact ih.trans (refines_succ s more id)

/-- **An outcome at one depth is the outcome at every greater one.** -/
theorem ofBindingWithin_mono {s : Store} {depth more : Nat} (hle : depth ≤ more) {id : BindingId}
    (h : ofBindingWithin s depth id ≠ .error endless) :
    ofBindingWithin s more id = ofBindingWithin s depth id :=
  ((refines_of_le s hle id).eq h).symm

/-! ## 3. The first value that fails -/

mutual

/-- What cannot be stored of an expression is a leaf that is none. -/
theorem ofExpr_error : (e : Expr) → {f : Fault} → ofExpr e = .error f → ∃ noun, f = .notNode noun
  | .const _ _, _, h | .var _ _, _, h | .column _ _, _, h => nomatch h
  | .stray v, _, h => ⟨v.noun, (Except.error.inj h).symm⟩
  | .unary _ operand _, _, h => by
    obtain h | ⟨p, -, h⟩ := Outcome.bind_eq_error_iff.1 h
    · exact ofExpr_error operand h
    · cases h
  | .binary _ left right _, _, h => by
    obtain h | ⟨l, -, h⟩ := Outcome.bind_eq_error_iff.1 h
    · exact ofExpr_error left h
    obtain h | ⟨r, -, h⟩ := Outcome.bind_eq_error_iff.1 h
    · exact ofExpr_error right h
    · cases h
  | .call _ args _, _, h => by
    obtain h | ⟨ps, -, h⟩ := Outcome.bind_eq_error_iff.1 h
    · exact ofExprs_error args h
    · cases h
  | .component value _ _, _, h => by
    obtain h | ⟨p, -, h⟩ := Outcome.bind_eq_error_iff.1 h
    · exact ofExpr_error value h
    · cases h

/-- The same of expressions side by side. -/
theorem ofExprs_error : (es : List Expr) → {f : Fault} → ofExprs es = .error f →
    ∃ noun, f = .notNode noun
  | [], _, h => nomatch h
  | e :: rest, _, h => by
    obtain h | ⟨p, -, h⟩ := Outcome.bind_eq_error_iff.1 h
    · exact ofExpr_error e h
    obtain h | ⟨ps, -, h⟩ := Outcome.bind_eq_error_iff.1 h
    · exact ofExprs_error rest h
    · cases h

end

variable {f : BindingId → Except Failure Payload}

/-- What is stored of a datum depends on no binding. -/
theorem ofValue_datum_ne_endless (d : Datum) : ofValue f (.datum d) ≠ .error endless := by
  cases d with
  | absent => exact nofun
  | text s =>
    have h : ofValue f (.datum (.text s)) = .error (.plain (.notLiteral (Text.quoted s))) := rfl
    rw [h]
    exact nofun
  | literal l =>
    have h : ofValue f (.datum (.literal l)) =
      .ok (ofKind .constant [("value", ofLiteral l)]) := rfl
    rw [h]
    exact nofun

/-- Storing a value ends, unless the value is a binding whose export does not. -/
theorem ofValue_eq_endless_iff {v : Value} :
    ofValue f v = .error endless ↔ ∃ id, v = .binding id ∧ f id = .error endless := by
  constructor
  · intro h
    cases v with
    | binding id => exact ⟨id, rfl, Outcome.map_eq_error_iff.1 h⟩
    | datum d => exact absurd h (ofValue_datum_ne_endless d)
    | reference r => cases h
    | expr e =>
      have he := Outcome.map_eq_error_iff.1 h
      cases hp : ofExpr e with
      | ok p => rw [hp] at he; cases he
      | error fault =>
        obtain ⟨noun, rfl⟩ := ofExpr_error e hp
        rw [hp] at he
        cases he
  · rintro ⟨id, rfl, h⟩
    exact Outcome.map_eq_error_iff.2 h

theorem ofValues_cons_eq_error_iff {v : Value} {rest : List Value} {failure : Failure} :
    ofValues f (v :: rest) = .error failure ↔ ofValue f v = .error failure ∨
      ∃ p, ofValue f v = .ok p ∧ ofValues f rest = .error failure := by
  show (ofValue f v >>= fun p => (ofValues f rest >>= fun ps => .ok (p :: ps))) = _ ↔ _
  rw [Outcome.bind_eq_error_iff]
  refine or_congr Iff.rfl (exists_congr fun p => and_congr Iff.rfl ?_)
  rw [Outcome.bind_eq_error_iff]
  refine or_iff_left ?_
  rintro ⟨ps, -, h⟩
  cases h

/-- Storing values fails as the first of them does that fails. -/
theorem ofValues_eq_error_iff {vs : List Value} {failure : Failure} :
    ofValues f vs = .error failure ↔ ∃ before v after, vs = before ++ v :: after ∧
      (∀ u ∈ before, ∃ p, ofValue f u = .ok p) ∧ ofValue f v = .error failure := by
  induction vs with
  | nil =>
    refine ⟨nofun, ?_⟩
    rintro ⟨before, v, after, h, -⟩
    exact absurd h.symm (List.append_ne_nil_of_right_ne_nil _ (List.cons_ne_nil _ _))
  | cons v rest ih =>
    rw [ofValues_cons_eq_error_iff, ih]
    constructor
    · rintro (h | ⟨p, hp, before, w, after, rfl, hbefore, hw⟩)
      · exact ⟨[], v, rest, rfl, List.forall_mem_nil _, h⟩
      · exact ⟨v :: before, w, after, rfl, List.forall_mem_cons.2 ⟨⟨p, hp⟩, hbefore⟩, hw⟩
    · rintro ⟨before, w, after, hsplit, hbefore, hw⟩
      cases before with
      | nil =>
        obtain ⟨rfl, rfl⟩ := List.cons.inj hsplit
        exact .inl hw
      | cons u before =>
        rw [List.cons_append, List.cons.injEq] at hsplit
        obtain ⟨rfl, rfl⟩ := hsplit
        obtain ⟨⟨p, hp⟩, hbefore⟩ := List.forall_mem_cons.1 hbefore
        exact .inr ⟨p, hp, before, w, after, rfl, hbefore, hw⟩

/-- Where some value does not end, and no value before it fails otherwise, storing does not end. -/
theorem ofValues_eq_endless {before after : List Value} {v : Value}
    (hbefore : ∀ u ∈ before, ofValue f u = .error endless ∨ ∃ p, ofValue f u = .ok p)
    (hv : ofValue f v = .error endless) : ofValues f (before ++ v :: after) = .error endless := by
  induction before with
  | nil => exact ofValues_cons_eq_error_iff.2 (.inl hv)
  | cons u before ih =>
    obtain ⟨hu, hrest⟩ := List.forall_mem_cons.1 hbefore
    obtain hu | ⟨p, hp⟩ := hu
    · exact ofValues_cons_eq_error_iff.2 (.inl hu)
    · exact ofValues_cons_eq_error_iff.2 (.inr ⟨p, hp, ih hrest⟩)

theorem ofValues_append (vs ws : List Value) :
    ofValues f (vs ++ ws) = ofValues f vs >>= fun ps => (ofValues f ws).map (ps ++ ·) := by
  induction vs with
  | nil =>
    show ofValues f ws = (ofValues f ws).map _
    cases ofValues f ws <;> rfl
  | cons v rest ih =>
    show (ofValue f v >>= fun p => ofValues f (rest ++ ws) >>= fun ps => .ok (p :: ps)) =
      (ofValue f v >>= fun p => ofValues f rest >>= fun ps => .ok (p :: ps)) >>= _
    rw [ih]
    cases ofValue f v with
    | error failure => rfl
    | ok p =>
      cases ofValues f rest with
      | error failure => rfl
      | ok ps => cases ofValues f ws <;> rfl

/-- Storing a binding fails as storing what is bound to its arguments and attributes does. -/
theorem ofInvocation_eq_error_iff {scale : Scale} {b : Binding} {failure : Failure} :
    ofInvocation f scale b = .error failure ↔
      ofValues f (b.arguments ++ scale.attributes.map Attribute.value) = .error failure := by
  unfold ofInvocation
  rw [Outcome.bind_eq_error_iff, ofValues_append, Outcome.bind_eq_error_iff]
  refine or_congr Iff.rfl (exists_congr fun ps => and_congr Iff.rfl ?_)
  rw [Outcome.bind_eq_error_iff, Outcome.map_eq_error_iff, ofAttributes_eq,
    Outcome.map_eq_error_iff]
  refine or_iff_left ?_
  rintro ⟨qs, -, h⟩
  cases h

end Payload

namespace Store

open Payload

variable {s : Store} {id c : BindingId}

/-! ## 4. Exports inside exports -/

/-- What is stored of a binding, in order: its arguments, and what the attributes of its scale are
    bound to. -/
def exported (s : Store) (id : BindingId) : List Value :=
  match s.binding? id with
  | none => []
  | some b => match s.scale? b.scale with
    | none => []
    | some scale => b.arguments ++ scale.attributes.map Attribute.value

/-- The export of a binding gets to another one, by calls that nest no deeper than so: the other one
    is among what is stored, and everything before it has been stored. -/
def GetsTo (s : Store) (depth : Nat) (id c : BindingId) : Prop :=
  ∃ before after, s.exported id = before ++ .binding c :: after ∧
    ∀ u ∈ before, ∃ p, ofValue (ofBindingWithin s depth) u = .ok p

/-- Exporting a binding begins the export of another one. -/
def Begins (s : Store) (id c : BindingId) : Prop := ∃ depth, s.GetsTo depth id c

/-- Exporting a binding ends with an outcome. -/
def Exports (s : Store) (id : BindingId) (outcome : Except Failure Payload) : Prop :=
  outcome ≠ .error endless ∧ ∃ depth, ofBindingWithin s depth id = outcome

theorem exported_of {b : Binding} {scale : Scale} (hb : s.binding? id = some b)
    (hs : s.scale? b.scale = some scale) :
    s.exported id = b.arguments ++ scale.attributes.map Attribute.value := by
  unfold exported
  rw [hb]
  show (match s.scale? b.scale with | none => [] | some scale => _) = _
  rw [hs]

/-- What is not in the store has no payload, and nothing is stored of it. -/
theorem exists_ofBindingWithin_succ (s : Store) (id : BindingId) (depth : Nat) :
    (∃ b scale, s.binding? id = some b ∧ s.scale? b.scale = some scale ∧
      ofBindingWithin s (depth + 1) id = ofInvocation (ofBindingWithin s depth) scale b) ∨
    s.exported id = [] ∧ ofBindingWithin s (depth + 1) id ≠ .error endless := by
  have heq : ofBindingWithin s (depth + 1) id = s.binding id >>= fun b => s.scale b.scale >>=
    fun scale => ofInvocation (ofBindingWithin s depth) scale b := rfl
  rw [heq]
  unfold exported Store.binding
  cases hb : s.binding? id with
  | none => exact .inr ⟨rfl, nofun⟩
  | some b =>
    cases hs : s.scale? b.scale with
    | none =>
      refine .inr ⟨by dsimp only; rw [hs], ?_⟩
      show (s.scale b.scale >>= _) ≠ _
      unfold Store.scale
      rw [hs]
      exact nofun
    | some scale =>
      refine .inl ⟨b, scale, rfl, hs, ?_⟩
      show (s.scale b.scale >>= _) = _
      rw [scale_of hs]
      rfl

/-- Exporting a binding goes on for ever exactly if storing what is bound in it does. -/
theorem endless_succ_iff_ofValues {depth : Nat} :
    ofBindingWithin s (depth + 1) id = .error endless ↔
      ofValues (ofBindingWithin s depth) (s.exported id) = .error endless := by
  obtain ⟨b, scale, hb, hs, h⟩ | ⟨hnone, h⟩ := exists_ofBindingWithin_succ s id depth
  · rw [h, exported_of hb hs]
    exact ofInvocation_eq_error_iff
  · rw [hnone]
    exact ⟨fun h' => absurd h' h, nofun⟩

/-- **An export does not end exactly where the export of a binding that it gets to does not.** -/
theorem endless_succ_iff {depth : Nat} :
    ofBindingWithin s (depth + 1) id = .error endless ↔
      ∃ c, s.GetsTo depth id c ∧ ofBindingWithin s depth c = .error endless := by
  rw [endless_succ_iff_ofValues, ofValues_eq_error_iff]
  constructor
  · rintro ⟨before, v, after, hsplit, hbefore, hv⟩
    obtain ⟨c, rfl, hc⟩ := ofValue_eq_endless_iff.1 hv
    exact ⟨c, ⟨before, after, hsplit, hbefore⟩, hc⟩
  · rintro ⟨c, ⟨before, after, hsplit, hbefore⟩, hc⟩
    exact ⟨before, _, after, hsplit, hbefore, ofValue_eq_endless_iff.2 ⟨c, rfl, hc⟩⟩

/-! ## 5. Around a cycle nothing ends -/

/-- A value that is stored at some depth is stored at every other one, or its export does not end
    there. -/
theorem ofValue_of_stored {depth other : Nat} {v : Value} {p : Payload}
    (h : ofValue (ofBindingWithin s depth) v = .ok p) :
    ofValue (ofBindingWithin s other) v = .error endless ∨
      ∃ p, ofValue (ofBindingWithin s other) v = .ok p := by
  rcases Nat.le_total other depth with hle | hle
  · obtain hendless | heq := refines_ofValue (refines_of_le s hle) v
    · exact .inl hendless
    · exact .inr ⟨p, heq.trans h⟩
  · have hne : ofValue (ofBindingWithin s depth) v ≠ .error endless := by
      rw [h]
      exact nofun
    exact .inr ⟨p, ((refines_ofValue (refines_of_le s hle) v).eq hne).symm.trans h⟩

/-- **An export that ends has ended the exports that it begins, below a lesser depth.** -/
theorem ne_endless_of_begins {depth : Nat} (h : ofBindingWithin s (depth + 1) id ≠ .error endless)
    (hc : s.Begins id c) : ofBindingWithin s depth c ≠ .error endless := by
  obtain ⟨other, before, after, hsplit, hbefore⟩ := hc
  intro hendless
  refine h (endless_succ_iff_ofValues.2 ?_)
  rw [hsplit]
  refine ofValues_eq_endless (fun u hu => ?_) (ofValue_eq_endless_iff.2 ⟨c, rfl, hendless⟩)
  obtain ⟨p, hp⟩ := hbefore u hu
  exact ofValue_of_stored hp

theorem exists_lt_of_transGen {depth : Nat} (h : Relation.TransGen s.Begins id c)
    (hends : ofBindingWithin s depth id ≠ .error endless) :
    ∃ less < depth, ofBindingWithin s less c ≠ .error endless := by
  have hstep {x y : BindingId} {depth : Nat} (h : s.Begins x y)
      (hends : ofBindingWithin s depth x ≠ .error endless) :
      ∃ less < depth, ofBindingWithin s less y ≠ .error endless := by
    cases depth with
    | zero => exact absurd rfl hends
    | succ depth => exact ⟨depth, Nat.lt_succ_self depth, ne_endless_of_begins hends h⟩
  induction h with
  | single h => exact hstep h hends
  | tail _ h ih =>
    obtain ⟨less, hless, hends⟩ := ih
    obtain ⟨least, hleast, hends⟩ := hstep h hends
    exact ⟨least, Nat.lt_trans hleast hless, hends⟩

/-- **The export of a binding that stands behind itself does not end at any depth.** -/
theorem endless_of_cycle (h : Relation.TransGen s.Begins id id) (depth : Nat) :
    ofBindingWithin s depth id = .error endless := by
  induction depth using Nat.strongRecOn with
  | _ depth ih =>
    by_contra hends
    obtain ⟨less, hless, hends⟩ := exists_lt_of_transGen h hends
    exact hends (ih less hless)

/-! ## 6. Without a cycle everything ends -/

/-- **What has not ended below a depth has begun a chain of exports of that length.** -/
theorem exists_chain_of_endless {depth : Nat} (h : ofBindingWithin s depth id = .error endless) :
    ∃ rest, (id :: rest).IsChain s.Begins ∧ rest.length = depth := by
  induction depth generalizing id with
  | zero => exact ⟨[], .singleton id, rfl⟩
  | succ depth ih =>
    obtain ⟨c, hc, hendless⟩ := endless_succ_iff.1 h
    obtain ⟨rest, hchain, hlength⟩ := ih hendless
    exact ⟨c :: rest, .cons_cons ⟨depth, hc⟩ hchain, congrArg (· + 1) hlength⟩

/-- No export that the export of the binding comes to stands inside itself. -/
def Acyclic (s : Store) (id : BindingId) : Prop :=
  ∀ c, Relation.ReflTransGen s.Begins id c → ¬ Relation.TransGen s.Begins c c

theorem pairwise_of_chain {rest : List BindingId} (h : (id :: rest).IsChain s.Begins) :
    (id :: rest).Pairwise (Relation.TransGen s.Begins) :=
  (h.imp fun _ _ => .single).pairwise

theorem reflTransGen_of_mem_chain {rest : List BindingId} (h : (id :: rest).IsChain s.Begins)
    (hc : c ∈ id :: rest) : Relation.ReflTransGen s.Begins id c := by
  rcases List.mem_cons.1 hc with rfl | hc
  · exact .refl
  · exact ((List.pairwise_cons.1 (pairwise_of_chain h)).1 c hc).to_reflTransGen

/-- Where no export stands inside itself, no binding occurs twice in a chain. -/
theorem Acyclic.nodup_of_chain (hacyclic : s.Acyclic id) {rest : List BindingId}
    (h : (id :: rest).IsChain s.Begins) : (id :: rest).Nodup := by
  refine (pairwise_of_chain h).imp_of_mem fun {x y} hx _ hxy heq => ?_
  subst heq
  exact hacyclic x (reflTransGen_of_mem_chain h hx) hxy

theorem index_lt_of_begins (h : s.Begins id c) : id.index < s.bindings.length := by
  obtain ⟨-, before, after, hsplit, -⟩ := h
  by_contra hlarge
  have hnone : s.binding? id = none := List.getElem?_eq_none (Nat.not_lt.1 hlarge)
  have hexported : s.exported id = [] := by
    unfold exported
    rw [hnone]
  rw [hexported] at hsplit
  exact absurd hsplit.symm (List.append_ne_nil_of_right_ne_nil _ (List.cons_ne_nil _ _))

/-- All bindings of a chain but the last one are in the store. -/
theorem index_lt_of_mem_chain {rest : List BindingId} (h : (id :: rest).IsChain s.Begins)
    (hc : c ∈ (id :: rest).dropLast) : c.index < s.bindings.length := by
  have hpairs := pairwise_of_chain h
  rw [← List.dropLast_append_getLast (List.cons_ne_nil id rest), List.pairwise_append] at hpairs
  have hlast := hpairs.2.2 c hc _ (List.mem_singleton_self _)
  obtain ⟨next, hnext, -⟩ := Relation.TransGen.head'_iff.1 hlast
  exact index_lt_of_begins hnext

/-- **Without a cycle, an export ends below one more than the number of bindings.** -/
theorem Acyclic.ends (hacyclic : s.Acyclic id) {depth : Nat} (hdepth : s.bindings.length < depth) :
    ofBindingWithin s depth id ≠ .error endless := by
  intro hendless
  obtain ⟨rest, hchain, rfl⟩ := exists_chain_of_endless hendless
  have hnodup : (id :: rest).dropLast.Nodup :=
    (hacyclic.nodup_of_chain hchain).sublist (List.dropLast_sublist _)
  have hle := length_le_of_index_lt hnodup fun c hc => index_lt_of_mem_chain hchain hc
  rw [List.length_dropLast, List.length_cons] at hle
  omega

theorem Acyclic.exists_exports (h : s.Acyclic id) : ∃ outcome, s.Exports id outcome :=
  ⟨_, h.ends (Nat.lt_succ_self _), _, rfl⟩

theorem Acyclic.of_ends {depth : Nat} (h : ofBindingWithin s depth id ≠ .error endless) :
    s.Acyclic id := by
  intro c hreach hcycle
  rcases Relation.reflTransGen_iff_eq_or_transGen.1 hreach with rfl | hreach
  · exact h (endless_of_cycle hcycle depth)
  · obtain ⟨less, -, hends⟩ := exists_lt_of_transGen hreach h
    exact hends (endless_of_cycle hcycle less)

/-- **Exporting a binding ends if and only if no export that it comes to stands inside itself**, in
    every store, so in whatever a session has made of its scales and bindings. Where it ends, calls
    nest no deeper than there are bindings, and once more where a number stands for no binding. -/
theorem exists_exports_iff (s : Store) (id : BindingId) :
    ((∃ outcome, s.Exports id outcome) ↔ s.Acyclic id) ∧
    ∀ outcome, s.Exports id outcome → ∀ depth, s.bindings.length < depth →
      ofBindingWithin s depth id = outcome := by
  refine ⟨⟨?_, Acyclic.exists_exports⟩, ?_⟩
  · rintro ⟨outcome, hne, depth, rfl⟩
    exact .of_ends hne
  · rintro outcome ⟨hne, other, rfl⟩ depth hdepth
    have hends : ofBindingWithin s depth id ≠ .error endless := (Acyclic.of_ends hne).ends hdepth
    rcases Nat.le_total other depth with hle | hle
    · exact ofBindingWithin_mono hle hne
    · exact (ofBindingWithin_mono hle hends).symm

/-- A formula over one value, whose scale has an attribute bound to the scale's own binding. -/
def selfBound : Store where
  scales := [.custom ⟨"value", .name "value" ⟨⟨1, 0⟩, ⟨1, 5⟩⟩⟩ [("k", ⟨.float, .binding ⟨0⟩⟩)]]
  bindings := [⟨⟨0⟩, .float, [.float], [.reference ⟨"x", some .float, by decide⟩], .created, rfl⟩]

/-- **A session can come to a binding whose export does not end**: a custom scale is invoked, and
    then an attribute of it is set to the binding that was made. -/
theorem exists_reachable_endless :
    ∃ (s : Store) (id : BindingId), s.Reachable ∧ s.state? id = some .created ∧
      ∀ depth, ofBindingWithin s depth id = .error endless := by
  let scale : Scale := .custom ⟨"value", .name "value" ⟨⟨1, 0⟩, ⟨1, 5⟩⟩⟩ []
  let x : DataRef := ⟨"x", some .float, by decide⟩
  let invoked : Store := ⟨[scale], [⟨⟨0⟩, .float, [.float], [.reference x], .created, rfl⟩]⟩
  have hnew : Scale.newCustom "value" = .ok scale := rfl
  have hcreated : Reachable ⟨[scale], []⟩ := Reachable.empty.step (.create (.custom hnew))
  have hinvoke : invoke ⟨[scale], []⟩ ⟨0⟩ [.reference x] = .ok (⟨0⟩, invoked) := rfl
  have hset : invoked.setAttribute ⟨0⟩ "k" (.binding ⟨0⟩) none = .ok (selfBound, []) := rfl
  have hreachable : selfBound.Reachable :=
    (hcreated.step (.invoke hinvoke)).step (.setAttribute hset)
  have hbegins : selfBound.Begins ⟨0⟩ ⟨0⟩ :=
    ⟨0, [.reference x], [], rfl, List.forall_mem_singleton.2 ⟨_, rfl⟩⟩
  exact ⟨selfBound, ⟨0⟩, hreachable, rfl, endless_of_cycle (.single hbegins)⟩

/-! ## 7. The countdown of the number of bindings -/

/-- Every binding that is bound in the store is in the store. -/
def Closed (s : Store) : Prop := ∀ id c, .binding c ∈ s.exported id → c.index < s.bindings.length

theorem mem_exported_of_begins (h : s.Begins id c) : .binding c ∈ s.exported id := by
  obtain ⟨-, before, after, hsplit, -⟩ := h
  rw [hsplit]
  exact List.mem_append_right _ List.mem_cons_self

/-- **The payload of a binding is the outcome of its export, if there is one**: where every binding
    that is bound is in the store, counting down from their number cuts nothing short. -/
theorem bindingPayload_eq_of_exports (hclosed : s.Closed) (hid : id.index < s.bindings.length)
    {outcome : Except Failure Payload} (h : s.Exports id outcome) :
    s.bindingPayload id = outcome := by
  obtain ⟨hne, depth, rfl⟩ := h
  have hacyclic := Acyclic.of_ends hne
  have hends : s.bindingPayload id ≠ .error endless := by
    intro hendless
    obtain ⟨rest, hchain, hlength⟩ := exists_chain_of_endless hendless
    have hin : ∀ x ∈ id :: rest, x.index < s.bindings.length := by
      intro x hx
      rcases (reflTransGen_of_mem_chain hchain hx).cases_tail with rfl | ⟨y, -, hyx⟩
      · exact hid
      · exact hclosed y x (mem_exported_of_begins hyx)
    have hle := length_le_of_index_lt (hacyclic.nodup_of_chain hchain) hin
    rw [List.length_cons, hlength] at hle
    exact Nat.not_succ_le_self _ hle
  rcases Nat.le_total depth s.bindings.length with hle | hle
  · exact ofBindingWithin_mono hle hne
  · exact (ofBindingWithin_mono hle hends).symm

/-- What is stored of a binding is what stands in its slots. -/
theorem mem_exported_iff {v : Value} : v ∈ s.exported id ↔ v ∈ s.slotValues id := by
  unfold exported slotValues
  cases s.binding? id with
  | none => exact Iff.rfl
  | some b =>
    dsimp only
    cases s.scale? b.scale with
    | none => exact Iff.rfl
    | some scale => rw [List.mem_append, List.mem_append, or_comm]

/-- **What a resolver makes an expression of can be exported**: of a finite tree in which no binding
    occurs twice, none stands behind itself. -/
theorem Fresh.exists_exports (h : s.Fresh id) : ∃ outcome, s.Exports id outcome := by
  have hchild (x y : BindingId) (h : s.Begins x y) : y ∈ s.children x :=
    mem_children_iff.2 (mem_exported_iff.1 (mem_exported_of_begins h))
  obtain ⟨listed, hunfolds, hn, -⟩ := h
  refine Acyclic.exists_exports fun c hreach hcycle => ?_
  exact hunfolds.not_onCycle hn (Relation.ReflTransGen.mono hchild _ _ hreach)
    (Relation.TransGen.mono hchild _ _ hcycle)

end Store

end VisualScale
