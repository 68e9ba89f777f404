import Mathlib.Logic.ExistsUnique
import Mathlib.Logic.Relation
import VisualScale.Store

/-!
# The tree of a binding

Behind a binding stand the bindings in the attributes of its scale and in its arguments
(`Store.children`), behind these others, and so on. Bindings may be shared and may contain
themselves, so a store is a graph; followed from one binding it unfolds into a tree.

* `Store.Reaches` -- a binding stands somewhere behind another;
* `Store.follow` -- the binding at the end of a path, which says at each step which child to take;
* `Store.Unfolds` -- a list of bindings has a finite unfolding, whose bindings are those of a second
  list, each before those behind it.

The main statements: an unfolding holds what is reached (`Unfolds.mem_iff`), and where no binding
occurs in it twice, no binding is at the end of two paths (`Unfolds.existsUnique_path`).
-/

namespace VisualScale

/-- The binding that a value is. -/
def Value.binding? : Value → Option BindingId
  | .binding id => some id
  | _ => none

theorem filterMap_binding?_cons (v : Value) (vs : List Value) :
    (v :: vs).filterMap Value.binding? = v.binding?.toList ++ vs.filterMap Value.binding? := by
  cases v <;> rfl

namespace Store

/-- The state of a binding. -/
def state? (s : Store) (id : BindingId) : Option BindingState := (s.binding? id).map Binding.state

/-- The bindings in the attributes of a binding's scale and in its arguments, in order. -/
def children (s : Store) (id : BindingId) : List BindingId :=
  match s.binding? id with
  | none => []
  | some b => match s.scale? b.scale with
    | none => []
    | some scale => (scale.attributes.map Attribute.value ++ b.arguments).filterMap Value.binding?

/-- What stands in the slots of a binding: in the attributes of its scale, and its arguments. -/
def slotValues (s : Store) (id : BindingId) : List Value :=
  match s.binding? id with
  | none => []
  | some b => match s.scale? b.scale with
    | none => []
    | some scale => scale.attributes.map Attribute.value ++ b.arguments

/-- The second binding stands behind the first one, or is the first one. -/
def Reaches (s : Store) : BindingId → BindingId → Prop :=
  Relation.ReflTransGen fun a child => child ∈ s.children a

/-- The binding at the end of a path, which takes the child of a number at each step. -/
def follow (s : Store) (id : BindingId) : (path : List Nat) → Option BindingId
  | [] => some id
  | i :: path => ((s.children id)[i]?).bind fun child => s.follow child path

/-- Bindings side by side unfold into finite trees, whose bindings are listed from the first tree to
    the last, and each before those behind it. -/
inductive Unfolds (s : Store) : (roots listed : List BindingId) → Prop where
  | nil : Unfolds s [] []
  | cons {id : BindingId} {rest behind after : List BindingId}
      (h : Unfolds s (s.children id) behind) (h' : Unfolds s rest after) :
      Unfolds s (id :: rest) (id :: (behind ++ after))

variable {s : Store}

theorem slotValues_of {id : BindingId} {b : Binding} {scale : Scale} (hb : s.binding? id = some b)
    (hs : s.scale? b.scale = some scale) :
    s.slotValues id = scale.attributes.map Attribute.value ++ b.arguments := by
  unfold slotValues
  rw [hb]
  show (match s.scale? b.scale with | none => [] | some scale => _) = _
  rw [hs]

theorem exists_of_mem_slotValues {id : BindingId} {v : Value} (h : v ∈ s.slotValues id) :
    ∃ b scale, s.binding? id = some b ∧ s.scale? b.scale = some scale ∧
      v ∈ scale.attributes.map Attribute.value ++ b.arguments := by
  unfold slotValues at h
  split at h
  · cases h
  · next b hb =>
    split at h
    · cases h
    · next scale hs => exact ⟨b, scale, hb, hs, h⟩

/-- The children are the bindings among what stands in the slots. -/
theorem children_eq (s : Store) (id : BindingId) :
    s.children id = (s.slotValues id).filterMap Value.binding? := by
  unfold children slotValues
  cases s.binding? id with
  | none => rfl
  | some b =>
    dsimp only
    cases s.scale? b.scale <;> rfl

theorem children_of {id : BindingId} {b : Binding} {scale : Scale} (hb : s.binding? id = some b)
    (hs : s.scale? b.scale = some scale) : s.children id =
      (scale.attributes.map Attribute.value ++ b.arguments).filterMap Value.binding? := by
  rw [children_eq, slotValues_of hb hs]

theorem mem_children_iff {id child : BindingId} :
    child ∈ s.children id ↔ .binding child ∈ s.slotValues id := by
  rw [children_eq, List.mem_filterMap]
  constructor
  · rintro ⟨v, hv, hbinding⟩
    cases v with
    | binding x =>
      obtain rfl := Option.some.inj hbinding
      exact hv
    | datum _ | reference _ | expr _ => cases hbinding
  · exact fun h => ⟨_, h, rfl⟩

/-- The binding stands behind itself. -/
def OnCycle (s : Store) (id : BindingId) : Prop :=
  Relation.TransGen (fun a child => child ∈ s.children a) id id

/-! ## 1. Paths -/

theorem follow_cons {id child : BindingId} {i : Nat} {path : List Nat}
    (h : (s.children id)[i]? = some child) : s.follow id (i :: path) = s.follow child path := by
  show ((s.children id)[i]?).bind _ = _
  rw [h]
  rfl

theorem exists_of_follow_cons {id x : BindingId} {i : Nat} {path : List Nat}
    (h : s.follow id (i :: path) = some x) :
    ∃ child, (s.children id)[i]? = some child ∧ s.follow child path = some x :=
  Option.bind_eq_some_iff.1 h

theorem follow_append {id x : BindingId} {path : List Nat} (h : s.follow id path = some x)
    (more : List Nat) : s.follow id (path ++ more) = s.follow x more := by
  induction path generalizing id with
  | nil =>
    obtain rfl := Option.some.inj h
    rfl
  | cons i path ih =>
    obtain ⟨child, hi, h⟩ := exists_of_follow_cons h
    exact (follow_cons hi).trans (ih h)

/-- What is reached is at the end of a path. -/
theorem reaches_iff_exists_path {id x : BindingId} :
    s.Reaches id x ↔ ∃ path, s.follow id path = some x := by
  constructor
  · intro h
    induction h using Relation.ReflTransGen.head_induction_on with
    | refl => exact ⟨[], rfl⟩
    | head hc _ ih =>
      obtain ⟨path, hp⟩ := ih
      obtain ⟨i, hi⟩ := List.mem_iff_getElem?.1 hc
      exact ⟨i :: path, (follow_cons hi).trans hp⟩
  · intro h
    obtain ⟨path, hp⟩ := h
    induction path generalizing id with
    | nil =>
      obtain rfl := Option.some.inj hp
      exact .refl
    | cons i path ih =>
      obtain ⟨child, hi, hp⟩ := exists_of_follow_cons hp
      exact .head (List.mem_of_getElem? hi) (ih hp)

/-! ## 2. Unfoldings -/

theorem Unfolds.append {as bs ls ms : List BindingId} (h : s.Unfolds as ls)
    (h' : s.Unfolds bs ms) : s.Unfolds (as ++ bs) (ls ++ ms) := by
  induction h with
  | nil => exact h'
  | @cons id rest behind after hb _ _ ih =>
    have := Unfolds.cons hb ih
    rwa [← List.append_assoc] at this

/-- The end of a path is listed. -/
theorem Unfolds.mem_of_follow {roots listed : List BindingId} (h : s.Unfolds roots listed)
    {i : Nat} {root x : BindingId} {path : List Nat} (hi : roots[i]? = some root)
    (hp : s.follow root path = some x) : x ∈ listed := by
  induction h generalizing i root path with
  | nil => cases hi
  | @cons id rest behind after _ _ ihb iha =>
    cases i with
    | zero =>
      obtain rfl := Option.some.inj hi
      cases path with
      | nil =>
        obtain rfl := Option.some.inj hp
        exact List.mem_cons_self
      | cons k path =>
        obtain ⟨child, hk, hp⟩ := exists_of_follow_cons hp
        exact List.mem_cons_of_mem _ (List.mem_append_left _ (ihb hk hp))
    | succ i => exact List.mem_cons_of_mem _ (List.mem_append_right _ (iha hi hp))

/-- What is listed is at the end of a path. -/
theorem Unfolds.exists_path {roots listed : List BindingId} (h : s.Unfolds roots listed)
    {x : BindingId} (hx : x ∈ listed) :
    ∃ (i : Nat) (root : BindingId) (path : List Nat),
      roots[i]? = some root ∧ s.follow root path = some x := by
  induction h with
  | nil => cases hx
  | @cons id rest behind after _ _ ihb iha =>
    rcases List.mem_cons.mp hx with rfl | hx
    · exact ⟨0, x, [], rfl, rfl⟩
    · rcases List.mem_append.mp hx with hx | hx
      · obtain ⟨i, child, path, hi, hp⟩ := ihb hx
        exact ⟨0, id, i :: path, rfl, (follow_cons hi).trans hp⟩
      · obtain ⟨i, root, path, hi, hp⟩ := iha hx
        exact ⟨i + 1, root, path, hi, hp⟩

theorem Unfolds.mem_behind {id x : BindingId} {behind : List BindingId}
    (h : s.Unfolds (s.children id) behind) {k : Nat} {r : List Nat}
    (hr : s.follow id (k :: r) = some x) : x ∈ behind := by
  obtain ⟨child, hk, hr⟩ := exists_of_follow_cons hr
  exact h.mem_of_follow hk hr

theorem Unfolds.mem_cons_behind {id x : BindingId} {behind : List BindingId}
    (h : s.Unfolds (s.children id) behind) {r : List Nat} (hr : s.follow id r = some x) :
    x ∈ id :: behind := by
  cases r with
  | nil =>
    obtain rfl := Option.some.inj hr
    exact List.mem_cons_self
  | cons k r => exact List.mem_cons_of_mem _ (h.mem_behind hr)

/-- Two paths from one binding with the same end are one path, if that holds below the binding and
    the binding does not stand behind itself. -/
theorem Unfolds.path_unique_below {id x : BindingId} {behind : List BindingId}
    (h : s.Unfolds (s.children id) behind) (hid : id ∉ behind)
    (hbelow : ∀ {i j : Nat} {a b : BindingId} {p q : List Nat},
      (s.children id)[i]? = some a → s.follow a p = some x →
      (s.children id)[j]? = some b → s.follow b q = some x → i = j ∧ p = q)
    {p q : List Nat} (hp : s.follow id p = some x) (hq : s.follow id q = some x) : p = q := by
  match p, q with
  | [], [] => rfl
  | [], _ :: _ =>
    obtain rfl := Option.some.inj hp
    exact absurd (h.mem_behind hq) hid
  | _ :: _, [] =>
    obtain rfl := Option.some.inj hq
    exact absurd (h.mem_behind hp) hid
  | k :: p, l :: q =>
    obtain ⟨c, hk, hp⟩ := exists_of_follow_cons hp
    obtain ⟨d, hl, hq⟩ := exists_of_follow_cons hq
    obtain ⟨rfl, rfl⟩ := hbelow hk hp hl hq
    rfl

/-- Where nothing is listed twice, two paths with the same end are one path. -/
theorem Unfolds.path_unique {roots listed : List BindingId} (h : s.Unfolds roots listed)
    (hn : listed.Nodup) {i j : Nat} {a b x : BindingId} {p q : List Nat}
    (hi : roots[i]? = some a) (hp : s.follow a p = some x) (hj : roots[j]? = some b)
    (hq : s.follow b q = some x) : i = j ∧ p = q := by
  induction h generalizing i j a b p q with
  | nil => cases hi
  | @cons id rest behind after hb ha ihb iha =>
    rw [← List.cons_append] at hn
    obtain ⟨hnb, hna, hdis⟩ := List.nodup_append.mp hn
    obtain ⟨hid, hnb⟩ := List.nodup_cons.mp hnb
    match i, j with
    | 0, 0 =>
      obtain rfl := Option.some.inj hi
      obtain rfl := Option.some.inj hj
      exact ⟨rfl, hb.path_unique_below hid (ihb hnb) hp hq⟩
    -- a binding of the first tree is not one of the later trees
    | 0, j + 1 =>
      obtain rfl := Option.some.inj hi
      exact absurd rfl (hdis x (hb.mem_cons_behind hp) x (ha.mem_of_follow hj hq))
    | i + 1, 0 =>
      obtain rfl := Option.some.inj hj
      exact absurd rfl (hdis x (hb.mem_cons_behind hq) x (ha.mem_of_follow hi hp))
    | i + 1, j + 1 =>
      obtain ⟨rfl, rfl⟩ := iha hna hi hp hj hq
      exact ⟨rfl, rfl⟩

/-! ## 3. The tree of one binding -/

/-- An unfolding lists what is reached. -/
theorem Unfolds.mem_iff {id x : BindingId} {listed : List BindingId} (h : s.Unfolds [id] listed) :
    x ∈ listed ↔ s.Reaches id x := by
  rw [reaches_iff_exists_path]
  constructor
  · intro hx
    obtain ⟨i, root, path, hi, hp⟩ := h.exists_path hx
    obtain rfl := List.mem_singleton.mp (List.mem_of_getElem? hi)
    exact ⟨path, hp⟩
  · intro h
    obtain ⟨path, hp⟩ := h
    exact h.mem_of_follow (i := 0) rfl hp

/-- **Where nothing is listed twice, what is reached is reached along exactly one path.** -/
theorem Unfolds.existsUnique_path {id x : BindingId} {listed : List BindingId}
    (h : s.Unfolds [id] listed) (hn : listed.Nodup) (hx : s.Reaches id x) :
    ∃! path, s.follow id path = some x := by
  obtain ⟨path, hp⟩ := reaches_iff_exists_path.1 hx
  refine ⟨path, hp, fun q hq => ?_⟩
  exact (h.path_unique (i := 0) (j := 0) hn rfl hq rfl hp).2

/-- Where nothing is listed twice, nothing that is reached stands behind itself: the path that leads
    to it, followed by one that leads around, would be another one. -/
theorem Unfolds.not_onCycle {id x : BindingId} {listed : List BindingId}
    (h : s.Unfolds [id] listed) (hn : listed.Nodup) (hx : s.Reaches id x) : ¬ s.OnCycle x := by
  intro hcycle
  obtain ⟨path, hp, hunique⟩ := h.existsUnique_path hn hx
  obtain ⟨child, hchild, hback⟩ := Relation.TransGen.head'_iff.1 hcycle
  obtain ⟨i, hi⟩ := List.mem_iff_getElem?.1 hchild
  obtain ⟨around, haround⟩ := reaches_iff_exists_path.1 hback
  have hlonger : s.follow id (path ++ i :: around) = some x := by
    rw [follow_append hp, follow_cons hi]
    exact haround
  have hnil : i :: around = [] := List.append_right_eq_self.1 (hunique _ hlonger)
  cases hnil

end Store

end VisualScale
