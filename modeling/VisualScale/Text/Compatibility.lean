import VisualScale.Text.CompatibilityTables
import VisualScale.Text.Identifier

/-!
# One spelling for compatible names

Names that differ only in spelling (`ﬁ` and `fi`, a letter with an accent and the two characters
that compose it) are one name. `normalized` gives the one spelling by which a name is known: every
character is taken apart as far as it goes, the combining marks behind each letter are put in the
order of their classes, and letters and marks are composed again where a composed form exists. This
is the normal form NFKC of Unicode. A name of ASCII characters is its own spelling
(`normalized_of_ascii`).
-/

namespace VisualScale.Text

/-! ## 1. Tables -/

/-- The entries of `substitutes`, split at the blanks. -/
def entriesOf (cs : List Char) : List (Char × List Char) :=
  cs.foldr split ([], []) |> fun (pending, entries) => close pending entries
where
  /-- A blank closes the entry that follows it. -/
  split (c : Char) : List Char × List (Char × List Char) → List Char × List (Char × List Char)
    | (pending, entries) => if c = ' ' then ([], close pending entries) else (c :: pending, entries)
  /-- An entry is a character and those it stands for. -/
  close : List Char → List (Char × List Char) → List (Char × List Char)
    | [], entries => entries
    | c :: forms, entries => (c, forms) :: entries

/-- What a character stands for, by the table. -/
def substituteTable : List (Char × List Char) := entriesOf (substitutes.flatMap String.toList)

/-- A character, one that follows it, and the composed form of the two. -/
structure Composite where
  base : Char
  mark : Char
  composed : Char

/-- The composites that a table writes as triples of characters. -/
def compositesOf : List Char → List Composite
  | a :: b :: c :: rest => ⟨a, b, c⟩ :: compositesOf rest
  | _ => []

/-- The composites of the table. -/
def compositeTable : List Composite := compositesOf (composites.flatMap String.toList)

/-- The runs of combining marks with their classes. -/
def markTable : List (Nat × List (Char × Char)) :=
  markClasses.map fun (k, runs) => (k, runsOf (runs.flatMap String.toList))

/-- The class of a combining mark; `0` for every other character. -/
def markClass (c : Char) : Nat :=
  match markTable.find? fun entry => inRuns entry.2 c with
  | some (k, _) => k
  | none => 0

/-! ## 2. Hangul syllables -/

/-- The parts of a Hangul syllable. -/
def hangulParts (c : Char) : Option (List Char) :=
  let n := c.toNat
  if 0xac00 ≤ n ∧ n ≤ 0xd7a3 then
    let i := n - 0xac00
    let lead := Char.ofNat (0x1100 + i / 588)
    let vowel := Char.ofNat (0x1161 + i % 588 / 28)
    if i % 28 = 0 then some [lead, vowel] else some [lead, vowel, Char.ofNat (0x11a7 + i % 28)]
  else none

/-- The Hangul syllable of two parts. -/
def hangulSyllable (a b : Char) : Option Char :=
  let m := a.toNat
  let n := b.toNat
  if 0x1100 ≤ m ∧ m ≤ 0x1112 ∧ 0x1161 ≤ n ∧ n ≤ 0x1175 then
    some (Char.ofNat (0xac00 + ((m - 0x1100) * 21 + (n - 0x1161)) * 28))
  else if 0xac00 ≤ m ∧ m ≤ 0xd7a3 ∧ (m - 0xac00) % 28 = 0 ∧ 0x11a8 ≤ n ∧ n ≤ 0x11c2 then
    some (Char.ofNat (m + (n - 0x11a7)))
  else none

/-! ## 3. Taking apart, ordering, composing -/

/-- What a character stands for, if the table has it. -/
def substitute? (c : Char) : Option (List Char) :=
  (substituteTable.find? fun entry => entry.1 == c).map Prod.snd

/-- The composite that a character is the composed form of. -/
def compositeOf? (c : Char) : Option Composite := compositeTable.find? fun x => x.composed == c

/-- A character taken apart. No composed form holds more than `depth` others inside each other. -/
def takeApart : (depth : Nat) → Char → List Char
  | 0, c => [c]
  | depth + 1, c =>
    if isAscii c then [c]
    else ((hangulParts c).or (substitute? c)).getD
      (((compositeOf? c).map fun x => takeApart depth x.base ++ takeApart depth x.mark).getD [c])

/-- A character behind a reversed text: a mark goes before the marks of higher classes. -/
def placeMark (c : Char) : List Char → List Char
  | [] => [c]
  | d :: rest =>
    if markClass c ≠ 0 ∧ markClass c < markClass d then d :: placeMark c rest else c :: d :: rest

/-- The marks behind each letter in the order of their classes. -/
def orderMarks (cs : List Char) : List Char :=
  (cs.foldl (fun placed c => placeMark c placed) []).reverse

/-- The composed form of two characters. -/
def compose? (a b : Char) : Option Char :=
  match hangulSyllable a b with
  | some c => some c
  | none =>
    (compositeTable.find? fun entry => entry.base == a && entry.mark == b).map (·.composed)

/-- What has been composed so far: `behind` holds, last first, the marks behind `letter` that it did
    not take up, and `done` what stands before `letter`, last first. -/
structure Composing where
  done : List Char
  letter : Char
  behind : List Char

/-- The text composed so far. -/
def Composing.finish (s : Composing) : List Char :=
  s.done.reverse ++ s.letter :: s.behind.reverse

/-- One more character: the letter takes it up when no mark of its class or a higher one stands
    between the two. -/
def Composing.step (s : Composing) (c : Char) : Composing :=
  let k := markClass c
  let free := match s.behind with
    | [] => true
    | d :: _ => markClass d < k
  match (if free then compose? s.letter c else none) with
  | some composed => { s with letter := composed }
  | none =>
    if k = 0 then ⟨s.behind ++ s.letter :: s.done, c, []⟩ else { s with behind := c :: s.behind }

/-- A text composed again. -/
def composeAll : List Char → List Char
  | [] => []
  | c :: rest => (rest.foldl Composing.step ⟨[], c, []⟩).finish

/-! ## 4. The one spelling -/

/-- The one spelling of a name. -/
def normalized (cs : List Char) : List Char :=
  if cs.all isAscii then cs else composeAll (orderMarks (cs.flatMap (takeApart 5)))

theorem normalized_of_ascii {cs : List Char} (h : cs.all isAscii = true) : normalized cs = cs := by
  rw [normalized, if_pos h]

end VisualScale.Text
