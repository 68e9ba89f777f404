import VisualScale.Proofs.Language.Derivation
import VisualScale.Proofs.Nodes

/-!
# Where a formula uses names

The uses of names in a formula from left to right, each with its path in the tree and its place in
the text (`Formula.uses`). The names of a formula are found level by level: those right below the
root, then those below these, and so on.

* `Formula.mem_uses_iff` -- the uses of names are the nodes that are names;
* `Formula.map_name_uses` -- they are of the names that the formula reads;
* `Formula.map_name_byDepth` -- the levels list the uses by their depth;
* `Derives.sublist_uses` -- the uses are words of the formula, in the order of the words.
-/

namespace VisualScale

open Reader (Operand)

/-! ## 1. Uses of names -/

/-- A name where a formula uses it: the path to the node, and the node. -/
structure NameUse where
  path : List Nat
  name : String
  span : Span

namespace NameUse

/-- A use in the formula of a number below a node, as a use from that node. -/
def under (i : Nat) (u : NameUse) : NameUse := { u with path := i :: u.path }

/-- How far from the root the use is. -/
def depth (u : NameUse) : Nat := u.path.length

/-- The use as a word. -/
def token (u : NameUse) : Token := ⟨.name u.name, u.span⟩

@[simp] theorem name_under (i : Nat) (u : NameUse) : (u.under i).name = u.name := rfl

@[simp] theorem depth_under (i : Nat) (u : NameUse) : (u.under i).depth = u.depth + 1 := rfl

@[simp] theorem token_under (i : Nat) (u : NameUse) : (u.under i).token = u.token := rfl

end NameUse

namespace Formula

mutual

/-- The uses of names in a formula, from left to right. -/
def uses : Formula → List NameUse
  | whole _ _ | real _ _ => []
  | name id s => [⟨[], id, s⟩]
  | binary _ left right _ => left.uses.map (.under 0) ++ right.uses.map (.under 1)
  | signed _ operand _ => operand.uses.map (.under 0)
  | call _ args _ => usesOfAll 0 args
  | component value _ _ => value.uses.map (.under 0)

/-- The uses of names in formulas side by side, which are numbered from `i` on. -/
def usesOfAll (i : Nat) : List Formula → List NameUse
  | [] => []
  | f :: rest => f.uses.map (.under i) ++ usesOfAll (i + 1) rest

end

/-- A formula that is no name uses the names that the formulas below it use. -/
theorem uses_eq_usesOfAll {f : Formula} (h : ∀ n span, f ≠ .name n span) :
    f.uses = usesOfAll 0 f.children := by
  cases f with
  | name id s => exact absurd rfl (h id s)
  | whole | real | binary | signed | call | component => simp [children, uses, usesOfAll]

theorem mem_usesOfAll_iff {fs : List Formula} {k : Nat} {u : NameUse} :
    u ∈ usesOfAll k fs ↔
      ∃ (i : Nat) (child : Formula) (v : NameUse), fs[i]? = some child ∧ v ∈ child.uses ∧
        u = v.under (k + i) := by
  induction fs generalizing k with
  | nil => simp [usesOfAll]
  | cons f rest ih =>
    rw [usesOfAll, List.mem_append, List.mem_map, ih]
    constructor
    · rintro (⟨v, hv, rfl⟩ | ⟨i, child, v, hi, hv, rfl⟩)
      · exact ⟨0, f, v, rfl, hv, rfl⟩
      · exact ⟨i + 1, child, v, hi, hv, by rw [Nat.add_right_comm, Nat.add_assoc]⟩
    · rintro ⟨i, child, v, hi, hv, rfl⟩
      cases i with
      | zero =>
        obtain rfl := Option.some.inj hi
        exact .inl ⟨v, hv, rfl⟩
      | succ i => exact .inr ⟨i, child, v, hi, hv, by rw [Nat.add_right_comm, Nat.add_assoc]⟩

/-- **The uses of names are the nodes that are names.** -/
theorem mem_uses_iff (f : Formula) (u : NameUse) :
    u ∈ f.uses ↔ f.node? u.path = some (.name u.name u.span) := by
  induction f using below_induction generalizing u with
  | step f ih =>
    obtain ⟨path, n, span⟩ := u
    rcases f.name_cases with ⟨id, s, rfl⟩ | hno
    · cases path with
      | nil => simp [uses, node?, eq_comm]
      | cons i path => simp [uses, node?, children]
    · rw [uses_eq_usesOfAll hno, mem_usesOfAll_iff]
      constructor
      · rintro ⟨i, child, v, hi, hv, heq⟩
        obtain ⟨rfl, rfl, rfl⟩ := NameUse.mk.inj heq
        rw [Nat.zero_add, node?_cons hi]
        exact (ih child (List.mem_of_getElem? hi) v).1 hv
      · intro hnode
        cases path with
        | nil => exact absurd (Option.some.inj hnode) (hno n span)
        | cons i path =>
          obtain ⟨child, hi, hpath⟩ := exists_of_node?_cons hnode
          refine ⟨i, child, ⟨path, n, span⟩, hi, (ih child (List.mem_of_getElem? hi) _).2 hpath, ?_⟩
          rw [Nat.zero_add]
          rfl

/-- What does not look at the path is the same seen from above. -/
theorem map_usesOfAll {α : Type} {k : NameUse → α} (hk : ∀ i u, k (u.under i) = k u) (i : Nat)
    (fs : List Formula) : (usesOfAll i fs).map k = fs.flatMap fun f => f.uses.map k := by
  induction fs generalizing i with
  | nil => rfl
  | cons f rest ih =>
    rw [usesOfAll, List.map_append, List.map_map, List.flatMap_cons, ih]
    exact congrArg (· ++ _) (List.map_congr_left fun u _ => hk i u)

/-- The uses are of the names that the formula reads, in that order. -/
theorem map_name_uses (f : Formula) : f.uses.map NameUse.name = f.reads := by
  induction f using below_induction with
  | step f ih =>
    rcases f.name_cases with ⟨id, s, rfl⟩ | hno
    · rfl
    · rw [uses_eq_usesOfAll hno, map_usesOfAll NameUse.name_under, reads_eq_readsOfAll hno,
        readsOfAll_eq]
      exact List.flatMap_congr ih

/-! ## 2. Level by level -/

theorem getD_zipLevels (as bs : List (List String)) (k : Nat) :
    (zipLevels as bs).getD k [] = as.getD k [] ++ bs.getD k [] := by
  induction as generalizing bs k with
  | nil => simp
  | cons a as ih =>
    cases bs with
    | nil => simp
    | cons b bs =>
      cases k with
      | zero => rfl
      | succ k => exact ih bs k

theorem getD_levelsOfAll (fs : List Formula) (k : Nat) :
    (levelsOfAll fs).getD k [] = fs.flatMap fun f => f.levels.getD k [] := by
  induction fs with
  | nil => rfl
  | cons f rest ih => rw [levelsOfAll, getD_zipLevels, ih, List.flatMap_cons]

/-- A formula that is no name reads none at its root, and below it what the formulas below read. -/
theorem getD_levels {f : Formula} (h : ∀ n span, f ≠ .name n span) (k : Nat) :
    f.levels.getD k [] = ([] :: levelsOfAll f.children).getD k [] := by
  cases f with
  | name id s => exact absurd rfl (h id s)
  | whole | real => cases k <;> rfl
  | binary | signed | call | component => simp [children, levels, levelsOfAll]

/-- The uses at a depth. -/
def usesAt (f : Formula) (k : Nat) : List NameUse := f.uses.filter (·.depth = k)

theorem mem_usesAt_iff {f : Formula} {k : Nat} {u : NameUse} :
    u ∈ f.usesAt k ↔ u ∈ f.uses ∧ u.depth = k := by
  rw [usesAt, List.mem_filter, decide_eq_true_eq]

theorem filter_usesOfAll (i k : Nat) (fs : List Formula) :
    ((usesOfAll i fs).filter (·.depth = k + 1)).map NameUse.name =
      fs.flatMap fun f => (f.usesAt k).map NameUse.name := by
  induction fs generalizing i with
  | nil => rfl
  | cons f rest ih =>
    rw [usesOfAll, List.filter_append, List.map_append, ih, List.flatMap_cons, List.filter_map,
      List.map_map]
    unfold usesAt
    simp [Function.comp_def]

/-- The level of a depth lists the uses at that depth. -/
theorem getD_levels_eq (f : Formula) (k : Nat) :
    f.levels.getD k [] = (f.usesAt k).map NameUse.name := by
  induction f using below_induction generalizing k with
  | step f ih =>
    rcases f.name_cases with ⟨id, s, rfl⟩ | hno
    · cases k with
      | zero => rfl
      | succ k => rfl
    · rw [getD_levels hno]
      unfold usesAt
      rw [uses_eq_usesOfAll hno]
      cases k with
      | zero =>
        refine (List.map_eq_nil_iff.2 (List.filter_eq_nil_iff.2 fun u hu => ?_)).symm
        obtain ⟨i, child, v, -, -, rfl⟩ := mem_usesOfAll_iff.1 hu
        simp
      | succ k =>
        rw [filter_usesOfAll, List.getD_cons_succ, getD_levelsOfAll]
        exact List.flatMap_congr fun child hchild => ih child hchild k

/-- The uses of names, the nearest to the root first. -/
def byDepth (f : Formula) : List NameUse := (List.range f.levels.length).flatMap f.usesAt

/-- **The levels list the uses by their depth.** -/
theorem map_name_byDepth (f : Formula) : f.byDepth.map NameUse.name = f.levels.flatten := by
  have hlevels : (List.range f.levels.length).map (fun k => f.levels.getD k []) = f.levels :=
    List.ext_getElem (by simp) fun k _ hk => by simp [hk]
  calc f.byDepth.map NameUse.name
      = (List.range f.levels.length).flatMap fun k => (f.usesAt k).map NameUse.name :=
        List.map_flatMap
    _ = (List.range f.levels.length).flatMap fun k => f.levels.getD k [] :=
        List.flatMap_congr fun k _ => (f.getD_levels_eq k).symm
    _ = f.levels.flatten := by rw [List.flatMap_def, hlevels]

theorem mem_byDepth_iff (f : Formula) (u : NameUse) : u ∈ f.byDepth ↔ u ∈ f.uses := by
  rw [byDepth, List.mem_flatMap]
  constructor
  · rintro ⟨k, -, hu⟩
    exact (mem_usesAt_iff.1 hu).1
  · intro hu
    have hat : u ∈ f.usesAt u.depth := mem_usesAt_iff.2 ⟨hu, rfl⟩
    refine ⟨u.depth, List.mem_range.2 ?_, hat⟩
    -- at the depth of a use there is a level, because the use is listed there
    have hlisted := List.mem_map_of_mem (f := NameUse.name) hat
    rw [← getD_levels_eq] at hlisted
    by_contra hno
    rw [List.getD_eq_getElem?_getD, List.getElem?_eq_none (Nat.le_of_not_lt hno)] at hlisted
    cases hlisted

end Formula

/-! ## 3. Uses among the words -/

/-- What parts of pieces hold, in the order of the pieces, stands in the listed words. -/
theorem Listed.sublist_flatten {parts pieces : List (List Token)} {ts : List Token}
    (h : Listed pieces ts) (hparts : List.Forall₂ List.Sublist parts pieces) :
    parts.flatten.Sublist ts := by
  induction h generalizing parts with
  | nil =>
    cases hparts
    exact List.Sublist.refl _
  | last piece =>
    obtain _ | ⟨hpart, _ | _⟩ := hparts
    rwa [List.flatten_cons, List.flatten_nil, List.append_nil]
  | cons _ _ ih =>
    obtain _ | ⟨hpart, hrest⟩ := hparts
    exact hpart.append ((ih hrest).cons _)

theorem map_token_under (i : Nat) (us : List NameUse) :
    (us.map (.under i)).map NameUse.token = us.map NameUse.token := List.map_map

/-- **The uses of names are words of the formula, in the order of the words.** -/
theorem Derives.sublist_uses {symbol : Symbol} {ts : List Token} {o : Operand}
    (h : Derives symbol ts o) : (o.formula.uses.map NameUse.token).Sublist ts := by
  induction h with
  | term _ ih | factor _ ih | primary _ ih | atom _ ih => exact ih
  | @sum ts us l r t op _ _ _ _ ihl ihr | @product ts us l r t op _ _ _ _ ihl ihr =>
    have huses : ((Reader.Waiting.mk l op).complete r).formula.uses =
      l.formula.uses.map (.under 0) ++ r.formula.uses.map (.under 1) := rfl
    rw [huses, List.map_append, map_token_under, map_token_under]
    exact ihl.append (ihr.cons _)
  | @signed ts o t sign _ _ ih =>
    have huses : (o.signed sign t.span.start).formula.uses = o.formula.uses.map (.under 0) := rfl
    rw [huses, map_token_under]
    exact ih.cons _
  | @component ts o dot t field _ _ _ ih =>
    have huses : (o.component field t.span.stop).formula.uses = o.formula.uses.map (.under 0) := rfl
    rw [huses, map_token_under]
    exact ih.trans (List.sublist_append_left _ _)
  | @call ts us function span extent opening closing args _ _ _ hlisted _ _ ihargs =>
    have huses : (Reader.callOperand function (args.map fun a => a.2.formula) extent.start
      closing.span.stop).formula.uses = Formula.usesOfAll 0 (args.map fun a => a.2.formula) := rfl
    rw [huses, Formula.map_usesOfAll NameUse.token_under, List.flatMap_map, List.flatMap_def]
    have hargs : (args.map fun a => a.2.formula.uses.map NameUse.token).flatten.Sublist us :=
      hlisted.sublist_flatten
        (List.forall₂_map_left_iff.2 (List.forall₂_map_right_iff.2 (List.forall₂_same.2 ihargs)))
    -- the words of what is called come before, and are no uses
    have hinside := (hargs.trans (List.sublist_append_left us [closing])).cons opening
    exact hinside.trans (List.sublist_append_right _ _)
  | @calleeName t id hname | @name t id hname =>
    obtain ⟨lexeme, span⟩ := t
    obtain rfl : lexeme = .name id := hname
    exact List.Sublist.refl _
  | whole | real => exact List.nil_sublist _
  | calleeGroup _ _ _ ih | group _ _ _ ih =>
    exact (ih.trans (List.sublist_append_left _ _)).cons _

end VisualScale
