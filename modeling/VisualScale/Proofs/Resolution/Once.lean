import VisualScale.Proofs.Operations

/-!
# Every binding is consumed at most once

In a run of operations, every request for a binding makes a pass (`Round`), and so does every
request for a value that is one. The pass answers if it builds the expression of the binding that it
starts from; whether that expression then fits the slot of a value makes no difference to the pass.

* `Session.resolved_perform_iff` -- what one operation resolves is what its pass visits, if that
  answers;
* `Session.resolved_after_iff` -- what a run resolves is what its passes visit that answer;
* `Session.disjoint_of_answered` -- and none of these visits what another one visits;
* `Session.resolved_iff_existsUnique_round` -- so what is resolved belongs to exactly one of them.
-/

namespace VisualScale

/-! ## 1. Passes of a run -/

/-- A pass of its own: by which resolver, over which store, and from which binding. -/
structure Round where
  resolver : Resolver
  store : Store
  root : BindingId

namespace Round

/-- The outermost expression was built. -/
def answered (r : Round) : Bool := (r.resolver.resolve r.store r.root).1.isOk

/-- The binding is in the tree that the pass goes through. -/
def Visits (r : Round) (x : BindingId) : Prop := r.store.Reaches r.root x

variable {r : Round}

/-- A pass that answers visits new bindings. -/
theorem created_of_visits (hidle : r.resolver.Idle) (h : r.answered = true) {x : BindingId}
    (hx : r.Visits x) : r.store.state? x = some .created := by
  unfold answered at h
  rcases Resolver.resolve_cases hidle r.store r.root with ⟨f, hr⟩ | ⟨e, visited, -, hvisited⟩
  · rw [hr] at h
    cases h
  · exact hvisited.created x (hvisited.unfolds.mem_iff.2 hx)

/-- What a pass resolves is what it visits, if it answers. -/
theorem resolved_iff (hidle : r.resolver.Idle) (x : BindingId) :
    (r.resolver.resolve r.store r.root).2.2.state? x = some .resolved ↔
      r.store.state? x = some .resolved ∨ r.answered = true ∧ r.Visits x := by
  unfold answered
  rcases Resolver.resolve_cases hidle r.store r.root with ⟨f, hr⟩ | ⟨e, visited, hr, hvisited⟩
  · rw [hr]
    simp [Except.isOk, Except.toBool]
  · have hmem : x ∈ visited ↔ r.Visits x := hvisited.unfolds.mem_iff
    rw [hr, Store.state?_markAll, ← hmem]
    by_cases hx : x ∈ visited
    · simp [hx, hvisited.created x hx, Except.isOk, Except.toBool]
    · simp [hx]

end Round

namespace Session

/-- The pass that an operation makes, if it makes one. -/
def round? (σ : Session) : Operation → Option Round
  | .ask n (.resolve id) => some ⟨σ.resolver n, σ.store, id⟩
  | .ask n (.resolveValue _ (.binding id)) => some ⟨σ.resolver n, σ.store, id⟩
  | _ => none

/-- The passes of a run, first ones first. -/
def rounds (σ : Session) : List Operation → List Round
  | [] => []
  | op :: ops => (σ.round? op).toList ++ (σ.perform op).rounds ops

/-- The passes of a run that answer, first ones first. -/
def answered (σ : Session) (ops : List Operation) : List Round :=
  (σ.rounds ops).filter Round.answered

variable {σ : Session}

theorem mem_answered_cons {op : Operation} {ops : List Operation} {r : Round} :
    r ∈ σ.answered (op :: ops) ↔
      (σ.round? op = some r ∧ r.answered = true) ∨ r ∈ (σ.perform op).answered ops := by
  simp [answered, rounds]

theorem idle_of_round? {op : Operation} {r : Round} (h : σ.round? op = some r) :
    r.resolver.Idle ∧ r.store = σ.store := by
  unfold round? at h
  split at h
  · obtain rfl := Option.some.inj h
    exact ⟨σ.idle _, rfl⟩
  · obtain rfl := Option.some.inj h
    exact ⟨σ.idle _, rfl⟩
  · cases h

/-! ## 2. One operation -/

theorem store_ask (n : Nat) (q : Request) :
    (σ.perform (.ask n q)).store = ((σ.resolver n).answer σ.store q).2.2 := by
  show (σ.ask n q).2.store = _
  rw [ask_eq]

/-- **What an operation resolves is what its pass visits, if that answers.** -/
theorem resolved_perform_iff (op : Operation) (x : BindingId) :
    (σ.perform op).store.state? x = some .resolved ↔ σ.store.state? x = some .resolved ∨
      ∃ r, σ.round? op = some r ∧ r.answered = true ∧ r.Visits x := by
  have hpass (n : Nat) (id : BindingId) :=
    Round.resolved_iff (r := ⟨σ.resolver n, σ.store, id⟩) (σ.idle n) x
  cases op with
  | change c =>
    show ((σ.store.change c).toOption.getD σ.store).state? x = _ ↔ _
    cases hc : σ.store.change c with
    | error f => simp [round?, Except.toOption]
    | ok after => simpa [round?, Except.toOption] using Store.resolved_change_iff hc x
  | ask n q =>
    rw [store_ask]
    cases q with
    | resolve id => simpa [round?, Resolver.answer] using hpass n id
    | resolveValue slot v =>
      show ((σ.resolver n).resolveValue σ.store slot v).2.2.state? x = _ ↔ _
      cases v with
      | binding id => simpa [round?, Resolver.resolveValue_binding] using hpass n id
      | datum d | reference d | expr d =>
        rw [Resolver.resolveValue_of_no_binding _ σ.store slot rfl]
        simp [round?]

/-! ## 3. Runs -/

/-- **What a run resolves is what its passes visit that answer.** -/
theorem resolved_after_iff (ops : List Operation) (x : BindingId) :
    (σ.after ops).store.state? x = some .resolved ↔ σ.store.state? x = some .resolved ∨
      ∃ r ∈ σ.answered ops, r.Visits x := by
  induction ops generalizing σ with
  | nil => simp [after, answered, rounds]
  | cons op ops ih =>
    show ((σ.perform op).after ops).store.state? x = _ ↔ _
    rw [ih, resolved_perform_iff, or_assoc]
    simp only [mem_answered_cons, or_and_right, exists_or, and_assoc]

/-- What is resolved stays resolved. -/
theorem resolved_after {x : BindingId} (h : σ.store.state? x = some .resolved)
    (ops : List Operation) : (σ.after ops).store.state? x = some .resolved :=
  (resolved_after_iff ops x).2 (.inl h)

/-- No pass that answers visits what is resolved when the run starts. -/
theorem not_visits_of_resolved {x : BindingId} (h : σ.store.state? x = some .resolved)
    {ops : List Operation} {r : Round} (hr : r ∈ σ.answered ops) : ¬ r.Visits x := by
  induction ops generalizing σ with
  | nil => cases hr
  | cons op ops ih =>
    rcases mem_answered_cons.1 hr with ⟨hround, hanswered⟩ | hr
    · obtain ⟨hidle, hstore⟩ := idle_of_round? hround
      intro hx
      have hcreated := Round.created_of_visits hidle hanswered hx
      rw [hstore, h] at hcreated
      cases hcreated
    · exact ih ((resolved_perform_iff op x).2 (.inl h)) hr

/-- **No two passes of a run that answer visit the same binding.** -/
theorem disjoint_of_answered (ops : List Operation) :
    (σ.answered ops).Pairwise fun r r' => ∀ x, ¬ (r.Visits x ∧ r'.Visits x) := by
  induction ops generalizing σ with
  | nil => exact .nil
  | cons op ops ih =>
    unfold answered rounds
    rw [List.filter_append, List.pairwise_append]
    refine ⟨?_, ih, fun r hr r' hr' x hx => ?_⟩
    · cases σ.round? op with
      | none => exact .nil
      | some r => exact (List.pairwise_singleton _ r).filter _
    -- what the first pass visits is resolved when the later ones start
    · obtain ⟨hround, hanswered⟩ := List.mem_filter.mp hr
      have hresolved : (σ.perform op).store.state? x = some .resolved :=
        (resolved_perform_iff op x).2 (.inr ⟨r, Option.mem_toList.mp hround, hanswered, hx.1⟩)
      exact not_visits_of_resolved hresolved hr' hx.2

end Session

/-- Of things in a list that exclude one another, at most one holds. -/
theorem existsUnique_of_pairwise {α : Type} {p : α → Prop} {l : List α}
    (h : l.Pairwise fun a b => ¬ (p a ∧ p b)) :
    (∃ a ∈ l, p a) ↔ ∃! i : Nat, ∃ a, l[i]? = some a ∧ p a := by
  constructor
  · rintro ⟨a, ha, hpa⟩
    obtain ⟨i, hi⟩ := List.mem_iff_getElem?.1 ha
    refine ⟨i, ⟨a, hi, hpa⟩, ?_⟩
    rintro j ⟨b, hj, hpb⟩
    obtain ⟨hil, rfl⟩ := List.getElem?_eq_some_iff.1 hi
    obtain ⟨hjl, rfl⟩ := List.getElem?_eq_some_iff.1 hj
    rcases Nat.lt_trichotomy i j with hlt | heq | hlt
    · exact absurd ⟨hpa, hpb⟩ (List.pairwise_iff_getElem.1 h i j hil hjl hlt)
    · exact heq.symm
    · exact absurd ⟨hpb, hpa⟩ (List.pairwise_iff_getElem.1 h j i hjl hil hlt)
  · rintro ⟨i, ⟨a, hi, hpa⟩, -⟩
    exact ⟨a, List.mem_of_getElem? hi, hpa⟩

/-- **Every binding is consumed at most once in any run.** Whatever is done in a session, with any
    resolvers, and whether it fails or not: what was resolved at any time stays resolved; no two
    passes that built an expression visit the same binding; and a binding is resolved if and only if
    exactly one pass that built an expression visits it. -/
theorem Session.resolved_iff_existsUnique_round (refs : Nat → References) (ops : List Operation) :
    let σ := Session.new refs
    (∀ k x, (σ.after (ops.take k)).store.state? x = some .resolved →
      (σ.after ops).store.state? x = some .resolved) ∧
    (σ.answered ops).Pairwise (fun r r' => ∀ x, ¬ (r.Visits x ∧ r'.Visits x)) ∧
    ∀ x, (σ.after ops).store.state? x = some .resolved ↔
      ∃! i : Nat, ∃ r, (σ.answered ops)[i]? = some r ∧ r.Visits x := by
  intro σ
  have hdisjoint := disjoint_of_answered (σ := σ) ops
  refine ⟨fun k x h => ?_, hdisjoint, fun x => ?_⟩
  · have hsplit : σ.after ops = (σ.after (ops.take k)).after (ops.drop k) := by
      unfold Session.after
      rw [← List.foldl_append, List.take_append_drop]
    rw [hsplit]
    exact resolved_after h _
  · have hnone : σ.store.state? x ≠ some .resolved := nofun
    rw [resolved_after_iff, or_iff_right hnone]
    exact existsUnique_of_pairwise (hdisjoint.imp fun h => h x)

end VisualScale
