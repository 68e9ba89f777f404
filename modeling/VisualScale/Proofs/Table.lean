import Mathlib.Data.List.Forall2
import VisualScale.Table

/-!
# Tables whose entries change

What a table finds when its entries are mapped, or stand beside the entries of another table under
the same names.
-/

namespace VisualScale

namespace Table

variable {α β : Type}

/-- Setting an entry and mapping the entries can change places. -/
theorem map_set (f : α → β) (t : Table α) (name : String) (a : α) :
    (t.set name a).map (fun (n, b) => (n, f b)) =
      Table.set (t.map fun (n, b) => (n, f b)) name (f a) := by
  induction t with
  | nil => rfl
  | cons entry rest ih =>
    obtain ⟨n, b⟩ := entry
    by_cases h : n = name
    · simp [set, h]
    · simpa [set, h] using ih

/-- A mapped table finds the mapped entry. -/
theorem find?_map (f : String → α → β) (t : Table α) (name : String) :
    Table.find? (t.map fun (n, a) => (n, f n a)) name = (t.find? name).map (f name) := by
  induction t with
  | nil => rfl
  | cons entry rest ih =>
    obtain ⟨n, a⟩ := entry
    by_cases h : n = name
    · subst h; simp [find?]
    · simpa [find?, h] using ih

/-- What is found is an entry. -/
theorem mem_of_find? {t : Table α} {name : String} {a : α} (h : t.find? name = some a) :
    (name, a) ∈ t := by
  induction t with
  | nil => cases h
  | cons entry rest ih =>
    obtain ⟨n, b⟩ := entry
    by_cases hn : n = name
    · subst hn
      simp only [find?, if_true, Option.some.injEq] at h
      exact h ▸ List.mem_cons_self
    · simp only [find?, hn, if_false] at h
      exact List.mem_cons_of_mem _ (ih h)

/-- A table without the entries of a name. -/
def without (t : Table α) (name : String) : Table α := t.filter fun entry => entry.1 ≠ name

theorem find?_without (t : Table α) (name s : String) :
    (t.without name).find? s = if s = name then none else t.find? s := by
  unfold without
  induction t with
  | nil => simp
  | cons entry rest ih =>
    obtain ⟨n, a⟩ := entry
    by_cases hn : n = name
    · subst hn
      by_cases hs : s = n
      · simpa [hs] using ih
      · simpa [find?, hs, Ne.symm hs] using ih
    · by_cases hs : n = s
      · subst hs
        simp [find?, hn]
      · simpa [find?, hn, hs] using ih

/-- Tables with the same names in the same order and related entries relate what they find. -/
theorem find?_rel {R : α → β → Prop} {t : Table α} {u : Table β}
    (h : List.Forall₂ (fun a b => a.1 = b.1 ∧ R a.2 b.2) t u) (name : String) :
    Option.Rel R (t.find? name) (u.find? name) := by
  induction h with
  | nil => exact .none
  | @cons a b _ _ hab _ ih =>
    obtain ⟨n, x⟩ := a
    obtain ⟨m, y⟩ := b
    obtain ⟨rfl, hxy⟩ := hab
    by_cases hn : n = name
    · simpa [find?, hn] using Option.Rel.some hxy
    · simpa [find?, hn] using ih

/-- Entries set one after another, all those of a name the same. -/
theorem find?_ofEntries {α : Type} {entries : List (String × α)} {name : String} {a : α}
    (h : (name, a) ∈ entries) (hsame : ∀ b, (name, b) ∈ entries → b = a) :
    (ofEntries entries).find? name = some a := by
  have go : ∀ (l : List (String × α)) (t : Table α), (∀ b, (name, b) ∈ l → b = a) →
      t.find? name = some a ∨ (name, a) ∈ l →
      (l.foldl (fun t (name, a) => t.set name a) t).find? name = some a := by
    intro l
    induction l with
    | nil => exact fun t _ ht => ht.resolve_right fun hm => nomatch hm
    | cons entry l ih =>
      intro t hl ht
      obtain ⟨m, b⟩ := entry
      refine ih (t.set m b) (fun b hb => hl b (List.mem_cons_of_mem _ hb)) ?_
      rw [find?_set]
      by_cases hm : name = m
      · subst hm
        rw [if_pos rfl]
        exact .inl (congrArg some (hl b List.mem_cons_self))
      · rw [if_neg hm]
        refine ht.imp_right fun ht => (List.mem_cons.mp ht).resolve_left fun heq => hm ?_
        exact (Prod.mk.inj heq).1
  exact go entries [] hsame (.inr h)

end Table

end VisualScale
