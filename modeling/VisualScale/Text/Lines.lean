/-!
# Lines, and columns counted in bytes

A text falls into lines in two ways. A *shown* line (`shownLines`) ends at any character that a
display may break at. A *source* line (`sourceLines`) ends only where the reader of formulas counts
a new line: at a line feed, a carriage return, or the two together, which stay with the line.

Columns in a source line count bytes of its UTF-8 form (`byteLength`), and `cut` takes the part of a
line between two such columns.
-/

namespace VisualScale.Text

/-! ## 1. Shown lines -/

/-- A display starts a new line after the character. -/
def isLineEnd (c : Char) : Bool :=
  let n := c.toNat
  (0x0a ≤ n && n ≤ 0x0d) || (0x1c ≤ n && n ≤ 0x1e) || n == 0x85 || n == 0x2028 || n == 0x2029

/-- A character in front of the first line. -/
def consLine (c : Char) : List (List Char) → List (List Char)
  | [] => [[c]]
  | l :: ls => (c :: l) :: ls

/-- The lines of a text as they are shown, without the characters that end them. A line end at the
    end of the text begins no further line. -/
def shownLines : List Char → List (List Char)
  | [] => []
  | '\r' :: '\n' :: rest => [] :: shownLines rest
  | c :: rest => if isLineEnd c then [] :: shownLines rest else consLine c (shownLines rest)

@[simp] theorem shownLines_nil : shownLines [] = [] := by simp [shownLines]

/-- A text without line ends is one line. -/
theorem shownLines_of_no_lineEnd {cs : List Char} (h : ∀ c ∈ cs, isLineEnd c = false)
    (hne : cs ≠ []) : shownLines cs = [cs] := by
  induction cs with
  | nil => exact absurd rfl hne
  | cons c rest ih =>
    have hc := h c (by simp)
    have hr : c ≠ '\r' := by rintro rfl; exact absurd hc (by decide)
    rw [shownLines]
    · rw [if_neg (by simp [hc])]
      cases rest with
      | nil => simp [consLine]
      | cons d r =>
        rw [ih (fun x hx => h x (by simp [hx])) (by simp)]
        rfl
    · intro rest' he; exact fun _ => hr he

/-! ## 2. Source lines -/

/-- The lines of a text as the reader of formulas counts them, each with the line end that closes
    it. -/
def sourceLines : List Char → List (List Char)
  | [] => []
  | '\r' :: '\n' :: rest => ['\r', '\n'] :: sourceLines rest
  | c :: rest =>
    if c = '\n' ∨ c = '\r' then [c] :: sourceLines rest else consLine c (sourceLines rest)

theorem flatten_consLine (c : Char) (ls : List (List Char)) :
    (consLine c ls).flatten = c :: ls.flatten := by
  cases ls <;> simp [consLine]

/-- Source lines lose nothing. -/
theorem flatten_sourceLines (cs : List Char) : (sourceLines cs).flatten = cs := by
  fun_induction sourceLines cs with
  | case1 => rfl
  | case2 rest ih => simp [ih]
  | case3 c rest _ _ ih => simp [ih]
  | case4 c rest _ _ ih => rw [flatten_consLine, ih]

/-! ## 3. Byte columns -/

/-- The length of a text in bytes. -/
def byteLength : List Char → Nat
  | [] => 0
  | c :: cs => c.utf8Size + byteLength cs

@[simp] theorem byteLength_nil : byteLength [] = 0 := rfl

@[simp] theorem byteLength_cons (c : Char) (cs : List Char) :
    byteLength (c :: cs) = c.utf8Size + byteLength cs := rfl

@[simp] theorem byteLength_append (a b : List Char) :
    byteLength (a ++ b) = byteLength a + byteLength b := by
  induction a with
  | nil => simp
  | cons c a ih => simp [ih, Nat.add_assoc]

/-- A text without its first `n` bytes; a character cut in two goes whole. -/
def dropBytes : Nat → List Char → List Char
  | 0, cs => cs
  | _ + 1, [] => []
  | n + 1, c :: cs => dropBytes (n + 1 - c.utf8Size) cs

/-- The first `n` bytes of a text; a character cut in two stays out. -/
def takeBytes (n : Nat) : List Char → List Char
  | [] => []
  | c :: cs => if c.utf8Size ≤ n then c :: takeBytes (n - c.utf8Size) cs else []

/-- The part of a text from one byte column up to another. -/
def cut (start stop : Nat) (cs : List Char) : List Char :=
  takeBytes (stop - start) (dropBytes start cs)

theorem utf8Size_pos (c : Char) : 0 < c.utf8Size := Char.utf8Size_pos c

theorem dropBytes_append (a b : List Char) : dropBytes (byteLength a) (a ++ b) = b := by
  induction a with
  | nil => simp [dropBytes]
  | cons c a ih =>
    obtain ⟨n, hn⟩ : ∃ n, c.utf8Size + byteLength a = n + 1 :=
      ⟨c.utf8Size + byteLength a - 1, by have := utf8Size_pos c; omega⟩
    rw [byteLength_cons, hn, List.cons_append, dropBytes, ← hn, Nat.add_sub_cancel_left, ih]

theorem takeBytes_append (a b : List Char) : takeBytes (byteLength a) (a ++ b) = a := by
  induction a with
  | nil =>
    cases b with
    | nil => rfl
    | cons c b => simp [takeBytes, Nat.ne_of_gt (utf8Size_pos c)]
  | cons c a ih => simp [takeBytes, ih]

/-- A part is cut out at its own columns. -/
theorem cut_append (a b c : List Char) :
    cut (byteLength a) (byteLength a + byteLength b) (a ++ (b ++ c)) = b := by
  rw [cut, dropBytes_append, Nat.add_sub_cancel_left, takeBytes_append]

end VisualScale.Text
