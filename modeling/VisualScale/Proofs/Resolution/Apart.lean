import VisualScale.Proofs.Operations

/-!
# Resolving what stands apart

A pass looks at the scales and at the bindings behind the one that it starts from, and at nothing
else (`Pass.enter_congr`); and it marks bindings behind that one, or none. So of two bindings behind
which no binding stands in common, each can be resolved as if the other had not been: the outcomes
are the same in either order, and so is what the session comes to (`Session.resolve_comm`). The
trees may share scales, and one resolver may make both passes.

* `Store.AgreeBehind` -- two stores hold the same behind a binding;
* `Store.markAll_comm` -- it makes no difference which of two lists is marked first;
* `Resolver.resolve_markAll` -- resolving after other bindings were marked.
-/

namespace VisualScale

open Parts

/-! ## 1. What a pass looks at -/

namespace Store

/-- Two stores hold the same scales, and the same bindings behind a binding. -/
structure AgreeBehind (s s' : Store) (id : BindingId) : Prop where
  scales : s'.scales = s.scales
  bindings : ∀ x, s.Reaches id x → s'.binding? x = s.binding? x

variable {s s' : Store} {id : BindingId}

theorem AgreeBehind.of_child (h : s.AgreeBehind s' id) {child : BindingId}
    (hc : child ∈ s.children id) : s.AgreeBehind s' child where
  scales := h.scales
  bindings x hx := h.bindings x (.head hc hx)

theorem AgreeBehind.binding_eq (h : s.AgreeBehind s' id) : s'.binding id = s.binding id := by
  unfold binding
  rw [h.bindings id .refl]

theorem AgreeBehind.scale_eq (h : s.AgreeBehind s' id) (k : ScaleId) : s'.scale k = s.scale k := by
  unfold Store.scale scale?
  rw [h.scales]

theorem binding_ok {b : Binding} (h : s.binding id = .ok b) : s.binding? id = some b := by
  unfold binding at h
  cases hb : s.binding? id with
  | none => rw [hb] at h; cases h
  | some found => rw [hb] at h; exact congrArg some (Except.ok.inj h)

end Store

section Parts

variable (refs : References) {enter enter' : BindingId → Pass Expr}

theorem value_congr (slot : Slot) {v : Value}
    (h : ∀ id ∈ v.binding?.toList, enter id = enter' id) :
    value refs enter slot v = value refs enter' slot v := by
  cases v with
  | binding id =>
    have hid : enter id = enter' id := h id (List.mem_singleton_self id)
    show (enter id >>= fun e => ofOutcome (Scale.unplaced (slot.check e))) = _
    rw [hid]
    rfl
  | datum d | reference r | expr e => rfl

theorem attributeValues_congr (owner : String) {attributes : List Attribute}
    (h : ∀ id ∈ (attributes.map Attribute.value).filterMap Value.binding?, enter id = enter' id) :
    attributeValues refs enter owner attributes = attributeValues refs enter' owner attributes := by
  induction attributes with
  | nil => rfl
  | cons a rest ih =>
    rw [List.map_cons, filterMap_binding?_cons] at h
    have hfirst := value_congr refs (.ofAttribute owner a) fun id hid =>
      h id (List.mem_append_left _ hid)
    have hrest := ih fun id hid => h id (List.mem_append_right _ hid)
    unfold attributeValues
    rw [hfirst, hrest]

theorem argumentValues_congr (owner : String) (index : Nat) {arguments : List (Value × ValueType)}
    (h : ∀ id ∈ (arguments.map Prod.fst).filterMap Value.binding?, enter id = enter' id) :
    argumentValues refs enter owner index arguments =
      argumentValues refs enter' owner index arguments := by
  induction arguments generalizing index with
  | nil => rfl
  | cons a rest ih =>
    obtain ⟨v, t⟩ := a
    rw [List.map_cons, filterMap_binding?_cons] at h
    have hfirst := value_congr refs (.ofArgument owner index t) fun id hid =>
      h id (List.mem_append_left _ hid)
    have hrest := ih (index + 1) fun id hid => h id (List.mem_append_right _ hid)
    unfold argumentValues
    rw [hfirst, hrest]

/-- What a binding becomes depends on what becomes of those that stand in it. -/
theorem body_congr {s : Store} {id : BindingId} {b : Binding} {scale : Scale}
    (hb : s.binding? id = some b) (hs : s.scale? b.scale = some scale)
    (h : ∀ child ∈ s.children id, enter child = enter' child) :
    body refs enter scale b = body refs enter' scale b := by
  rw [Store.children_of hb hs, List.filterMap_append] at h
  have hattributes := attributeValues_congr refs scale.name fun child hc =>
    h child (List.mem_append_left _ hc)
  have hvalues : ∀ child ∈ ((b.arguments.zip b.argumentTypes).map Prod.fst).filterMap Value.binding?,
      enter child = enter' child := by
    rw [List.map_fst_zip (Nat.le_of_eq b.length_arguments)]
    exact fun child hc => h child (List.mem_append_right _ hc)
  have harguments := argumentValues_congr refs scale.name 0 hvalues
  unfold body
  rw [hattributes, harguments]

end Parts

/-- What goes on from an outcome matters only where the outcome is a value. -/
theorem ofOutcome_bind_congr {α β : Type} {r : Except Failure α} {k l : α → Pass β}
    (h : ∀ a, r = .ok a → k a = l a) : (ofOutcome r >>= k) = (ofOutcome r >>= l) := by
  cases r with
  | error f => rfl
  | ok a =>
    have := h a rfl
    funext entered
    exact congrFun this entered

/-- **A pass looks at nothing but the scales and the bindings behind the first one.** -/
theorem Pass.enter_congr {s s' : Store} (refs : References) (room : Nat) {id : BindingId}
    (h : s.AgreeBehind s' id) : Pass.enter s' refs room id = Pass.enter s refs room id := by
  induction room generalizing id with
  | zero =>
    unfold Pass.enter
    rw [h.binding_eq]
  | succ room ih =>
    unfold Pass.enter
    rw [h.binding_eq]
    refine ofOutcome_bind_congr fun b hb => ?_
    have hbody : (ofOutcome (s'.scale b.scale) >>= fun scale =>
        body refs (Pass.enter s' refs room) scale b) =
          ofOutcome (s.scale b.scale) >>= fun scale =>
            body refs (Pass.enter s refs room) scale b := by
      rw [h.scale_eq]
      refine ofOutcome_bind_congr fun scale hs => ?_
      exact body_congr refs (Store.binding_ok hb) (Store.scale_ok hs) fun child hc => ih (h.of_child hc)
    dsimp only
    rw [hbody]

/-! ## 2. What is marked besides -/

namespace Store

variable {s : Store}

theorem mark_comm (s : Store) (a b : BindingId) : (s.mark a).mark b = (s.mark b).mark a := by
  refine congrArg (Store.mk s.scales) (List.ext_getElem? fun i => ?_)
  simp only [mark, List.getElem?_modify]
  by_cases ha : a.index = i <;> by_cases hb : b.index = i <;> simp [ha, hb]

/-- Two lists can be marked in either order. -/
theorem markAll_comm (s : Store) (xs ys : List BindingId) :
    (s.markAll xs).markAll ys = (s.markAll ys).markAll xs := by
  unfold markAll
  rw [← List.foldl_append, ← List.foldl_append]
  exact List.perm_append_comm.foldl_eq' (fun x _ y _ s => s.mark_comm x y) s

theorem scales_markAll (ids : List BindingId) : (s.markAll ids).scales = s.scales := by
  induction ids generalizing s with
  | nil => rfl
  | cons id rest ih => exact @ih (s.mark id)

theorem length_markAll (ids : List BindingId) :
    (s.markAll ids).bindings.length = s.bindings.length := by
  induction ids generalizing s with
  | nil => rfl
  | cons id rest ih => exact (@ih (s.mark id)).trans (List.length_modify ..)

/-- Marking leaves the other bindings. -/
theorem binding?_markAll_of_notMem {ids : List BindingId} {x : BindingId} (hx : x ∉ ids) :
    (s.markAll ids).binding? x = s.binding? x := by
  induction ids generalizing s with
  | nil => rfl
  | cons id rest ih =>
    obtain ⟨hne, hrest⟩ := List.ne_and_not_mem_of_not_mem_cons hx
    have hmark : (s.mark id).binding? x = s.binding? x := by
      rw [binding?_mark, if_neg hne.symm]
    exact (ih hrest).trans hmark

theorem agreeBehind_markAll {ids : List BindingId} {id : BindingId}
    (h : ∀ x ∈ ids, ¬ s.Reaches id x) : s.AgreeBehind (s.markAll ids) id where
  scales := scales_markAll ids
  bindings x hx := binding?_markAll_of_notMem fun hmem => h x hmem hx

end Store

/-! ## 3. One resolution and another -/

/-- **Resolving after bindings were marked that do not stand behind the one that is resolved.** The
    outcome is as if they had not been, and they stay marked. -/
theorem Resolver.resolve_markAll {r : Resolver} (h : r.Idle) {s : Store} {id : BindingId}
    {ids : List BindingId} (hids : ∀ x ∈ ids, ¬ s.Reaches id x) :
    (r.resolve (s.markAll ids) id).1 = (r.resolve s id).1 ∧
      (r.resolve (s.markAll ids) id).2.2 = (r.resolve s id).2.2.markAll ids := by
  have hpass := Pass.enter_congr r.references s.bindings.length (Store.agreeBehind_markAll hids)
  rw [Resolver.resolve_eq h, Resolver.resolve_eq h, Store.length_markAll, hpass]
  cases Pass.enter s r.references s.bindings.length id [] with
  | error f => exact ⟨rfl, rfl⟩
  | ok p => exact ⟨rfl, s.markAll_comm ids p.2⟩

/-- **Resolutions that stand apart commute.** If no binding stands behind both of two bindings,
    resolving the one and then the other, by whichever resolvers, gives the same two outcomes in
    either order, and comes to the same session. -/
theorem Session.resolve_comm (σ : Session) (m n : Nat) {a b : BindingId}
    (hapart : ∀ x, ¬ (σ.store.Reaches a x ∧ σ.store.Reaches b x)) :
    let (a₁, afterA) := σ.ask m (.resolve a)
    let (b₁, after₁) := afterA.ask n (.resolve b)
    let (b₂, afterB) := σ.ask n (.resolve b)
    let (a₂, after₂) := afterB.ask m (.resolve a)
    a₁ = a₂ ∧ b₁ = b₂ ∧ after₁ = after₂ := by
  obtain ⟨as, has, hreachA⟩ := Resolver.exists_marked (σ.idle m) σ.store a
  obtain ⟨bs, hbs, hreachB⟩ := Resolver.exists_marked (σ.idle n) σ.store b
  obtain ⟨hb, hafter₁⟩ := Resolver.resolve_markAll (σ.idle n)
    fun x hx hbx => hapart x ⟨hreachA x hx, hbx⟩
  obtain ⟨ha, hafter₂⟩ := Resolver.resolve_markAll (σ.idle m)
    fun x hx hax => hapart x ⟨hax, hreachB x hx⟩
  have hsame : ((σ.resolver n).resolve (σ.store.markAll as) b).2.2 =
      ((σ.resolver m).resolve (σ.store.markAll bs) a).2.2 := by
    rw [hafter₁, hafter₂, has, hbs, Store.markAll_comm]
  simp only [Session.ask_eq, Resolver.answer, has, hbs]
  exact ⟨ha.symm, hb, by rw [hsame]⟩

/-- Two sums of one scale, by one resolver: the first one is resolved, and the second one fails on
    the text in it, whichever comes first. -/
theorem Session.resolve_comm_sums :
    let one : Value := Scale.floatValue 1
    let s : Store := ⟨[.arithmetic .add],
      [⟨⟨0⟩, .float, [.float, .float], [one, one], .created, rfl⟩,
        ⟨⟨0⟩, .float, [.float, .float], [one, .datum (.text "one")], .created, rfl⟩]⟩
    let σ : Session := ⟨s, fun _ => .new columnOf, fun _ => rfl⟩
    let (a₁, afterA) := σ.ask 0 (.resolve ⟨0⟩)
    let (b₁, after₁) := afterA.ask 0 (.resolve ⟨1⟩)
    let (b₂, afterB) := σ.ask 0 (.resolve ⟨1⟩)
    let (a₂, after₂) := afterB.ask 0 (.resolve ⟨0⟩)
    (∀ x, ¬ (s.Reaches ⟨0⟩ x ∧ s.Reaches ⟨1⟩ x)) ∧ (∃ e, a₁ = .ok e) ∧ (∃ f, b₁ = .error f) ∧
      a₁ = a₂ ∧ b₁ = b₂ ∧ after₁ = after₂ := by
  intro one s σ
  have halone (i : Nat) (hi : s.children ⟨i⟩ = []) {x : BindingId} (hx : s.Reaches ⟨i⟩ x) :
      x = ⟨i⟩ := by
    rcases hx.cases_head with h | ⟨child, hchild, -⟩
    · exact h.symm
    · rw [hi] at hchild
      cases hchild
  have hapart (x : BindingId) : ¬ (s.Reaches ⟨0⟩ x ∧ s.Reaches ⟨1⟩ x) := by
    rintro ⟨h₀, h₁⟩
    have h := (halone 0 rfl h₀).symm.trans (halone 1 rfl h₁)
    cases h
  exact ⟨hapart, ⟨_, rfl⟩, ⟨_, rfl⟩, Session.resolve_comm σ 0 0 hapart⟩

end VisualScale
