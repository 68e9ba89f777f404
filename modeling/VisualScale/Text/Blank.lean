/-!
# Blank characters

The white space that may surround a text without being part of it: the blanks, tabs and line ends of
ASCII, its four separators, and the spaces of Unicode.
-/

namespace VisualScale.Text

/-- The character is white space. -/
def isBlank (c : Char) : Bool :=
  let n := c.toNat
  (0x09 ≤ n && n ≤ 0x0d) || (0x1c ≤ n && n ≤ 0x20) || n == 0x85 || n == 0xa0 || n == 0x1680 ||
    (0x2000 ≤ n && n ≤ 0x200a) || n == 0x2028 || n == 0x2029 || n == 0x202f || n == 0x205f ||
    n == 0x3000

/-- A text without the white space at its two ends. -/
def trim (cs : List Char) : List Char :=
  ((cs.dropWhile isBlank).reverse.dropWhile isBlank).reverse

@[simp] theorem trim_nil : trim [] = [] := rfl

/-- A text whose first and last characters are no white space is left as it is. -/
theorem trim_eq_self {cs : List Char} (hf : ∀ c ∈ cs.head?, isBlank c = false)
    (hl : ∀ c ∈ cs.getLast?, isBlank c = false) : trim cs = cs := by
  have drop : ∀ {l : List Char}, (∀ c ∈ l.head?, isBlank c = false) →
      l.dropWhile isBlank = l := by
    intro l h
    cases l with
    | nil => rfl
    | cons c r => simp [List.dropWhile, h c rfl]
  unfold trim
  rw [drop hf, drop (by rwa [List.head?_reverse]), List.reverse_reverse]

/-- A trimmed text has no characters of its own. -/
theorem mem_of_mem_trim {cs : List Char} {c : Char} (h : c ∈ trim cs) : c ∈ cs := by
  rw [trim, List.mem_reverse] at h
  have hreverse := (List.dropWhile_sublist _).subset h
  rw [List.mem_reverse] at hreverse
  exact (List.dropWhile_sublist _).subset hreverse

/-- A trimmed text ends in no white space. -/
theorem not_isBlank_getLast?_trim {cs : List Char} {c : Char} (h : c ∈ (trim cs).getLast?) :
    isBlank c = false := by
  rw [trim, List.getLast?_reverse] at h
  have := List.head?_dropWhile_not isBlank (cs.dropWhile isBlank).reverse
  rw [Option.mem_def.1 h] at this
  simpa using this

/-- A trimmed text begins with no white space. -/
theorem not_isBlank_head?_trim {cs : List Char} {c : Char} (h : c ∈ (trim cs).head?) :
    isBlank c = false := by
  have hp : trim cs <+: cs.dropWhile isBlank := by
    rw [trim, ← List.reverse_suffix, List.reverse_reverse]
    exact List.dropWhile_suffix _
  obtain ⟨rest, hrest⟩ := hp
  have := List.head?_dropWhile_not isBlank cs
  rw [← hrest, List.head?_append, Option.mem_def.1 h] at this
  simpa using this

/-- To trim a trimmed text changes nothing. -/
theorem trim_trim (cs : List Char) : trim (trim cs) = trim cs :=
  trim_eq_self (fun _ => not_isBlank_head?_trim) (fun _ => not_isBlank_getLast?_trim)

end VisualScale.Text
