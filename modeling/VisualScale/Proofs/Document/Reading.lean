import Mathlib.Data.List.TakeDrop
import VisualScale.Proofs.Document.Grammar

/-!
# Reading a JSON document

A text is read from left to right, one value inside another; no step is taken back. What the grammar
makes a part of a document is read as that part, in front of whatever can follow it
(`Holds.read`). So a text holds one payload at most, which is the one that is read from it
(`Document.read?_eq`), and a text from which none is read is no document.

A value is read with a bound for the depth of the values inside it, and the pieces of a list with a
bound for their number. The length of the text is enough for both.
-/

namespace VisualScale

open Decimal (AllDigits Leading ofDigits spanDigits)

namespace Json

/-- What is read at the start of a text, and the text behind it. -/
abbrev Reading (α : Type) := List Char → Option (α × List Char)

/-! ## 1. Space -/

/-- The text without the space at its start. -/
def skip (cs : List Char) : List Char := cs.dropWhile isSpace

/-- No space stands at the start of the text. -/
def NoSpace (cs : List Char) : Prop := ∀ c ∈ cs.head?, isSpace c = false

theorem skip_of_noSpace {cs : List Char} (h : NoSpace cs) : skip cs = cs := by
  cases cs with
  | nil => rfl
  | cons c cs =>
    unfold skip
    rw [List.dropWhile_cons, h c rfl, if_neg Bool.false_ne_true]

theorem NoSpace.cons {c : Char} (h : isSpace c = false) (cs : List Char) : NoSpace (c :: cs) := by
  intro d hd
  obtain rfl := Option.some.inj hd
  exact h

theorem skip_append {space : List Char} (hs : AllSpace space) (cs : List Char) :
    skip (space ++ cs) = skip cs := by
  induction space with
  | nil => rfl
  | cons c space ih =>
    obtain ⟨hc, hrest⟩ := List.forall_mem_cons.1 hs
    unfold skip
    rw [List.cons_append, List.dropWhile_cons, hc, if_pos rfl]
    exact ih hrest

/-- Behind a piece of a list stands a mark, or nothing. -/
def Marked (cs : List Char) : Prop := ∀ c ∈ cs.head?, c ∈ [',', ']', '\x7d']

/-- Behind a value stands space or a mark, or nothing. -/
def Bounded (cs : List Char) : Prop := ∀ c ∈ cs.head?, isSpace c = true ∨ c ∈ [',', ']', '\x7d']

theorem Marked.noSpace {cs : List Char} (h : Marked cs) : NoSpace cs := by
  intro c hc
  have := h c hc
  simp only [List.mem_cons, List.not_mem_nil, or_false] at this
  rcases this with rfl | rfl | rfl
  all_goals rfl

theorem Marked.cons {c : Char} (h : c ∈ [',', ']', '\x7d']) (cs : List Char) :
    Marked (c :: cs) := by
  intro d hd
  obtain rfl := Option.some.inj hd
  exact h

theorem Marked.bounded {cs : List Char} (h : Marked cs) : Bounded cs := fun c hc => .inr (h c hc)

/-- Space may stand behind a value, before what else may stand there. -/
theorem Bounded.after {cs space : List Char} (h : Bounded cs) (hs : AllSpace space) :
    Bounded (space ++ cs) := by
  cases space with
  | nil => exact h
  | cons d space =>
    intro c hc
    obtain rfl := Option.some.inj hc
    exact .inl (hs _ List.mem_cons_self)

/-! ## 2. Numbers -/

/-- No digit stands at the start of the text, nor what could go on with a number. -/
def Ended (cs : List Char) : Prop :=
  ∀ c ∈ cs.head?, c.isDigit = false ∧ c ≠ '.' ∧ c ≠ 'e' ∧ c ≠ 'E'

theorem Bounded.ended {cs : List Char} (h : Bounded cs) : Ended cs := by
  intro c hc
  have hc := h c hc
  unfold isSpace at hc
  simp only [Bool.or_eq_true, beq_iff_eq, List.mem_cons, List.not_mem_nil, or_false] at hc
  rcases hc with (((rfl | rfl) | rfl) | rfl) | rfl | rfl | rfl
  all_goals decide

/-- No digit stands at the start of the text. -/
def NoDigit (cs : List Char) : Prop := ∀ c ∈ cs.head?, c.isDigit = false

theorem NoDigit.cons {c : Char} (h : c.isDigit = false) (cs : List Char) : NoDigit (c :: cs) := by
  intro d hd
  obtain rfl := Option.some.inj hd
  exact h

theorem Ended.noDigit {cs : List Char} (h : Ended cs) : NoDigit cs := fun c hc => (h c hc).1

theorem spanDigits_append {ds cs : List Char} (hd : AllDigits ds) (h : NoDigit cs) :
    spanDigits (ds ++ cs) = (ds, cs) := by
  unfold spanDigits
  rw [List.span_eq_takeWhile_dropWhile, List.takeWhile_append_of_pos hd,
    List.dropWhile_append_of_pos hd]
  cases cs with
  | nil => simp
  | cons c cs =>
    have hc := h c rfl
    rw [List.takeWhile_cons, List.dropWhile_cons, hc]
    simp

/-- A fraction, or nothing. -/
def readFraction : Reading (Option (List Char))
  | '.' :: cs =>
    let (ds, rest) := spanDigits cs
    if ds = [] then none else some (some ds, rest)
  | cs => some (none, cs)

/-- The digits of a power of ten. -/
def readPowerDigits (negative : Bool) (cs : List Char) : Option (Option Int × List Char) :=
  let (ds, rest) := spanDigits cs
  if ds = [] then none else some (some (signed negative (ofDigits 10 ds)), rest)

/-- The sign and digits of a power of ten. -/
def readSignedPower : Reading (Option Int)
  | '+' :: cs => readPowerDigits false cs
  | '-' :: cs => readPowerDigits true cs
  | cs => readPowerDigits false cs

/-- A power of ten, or nothing. -/
def readPower : Reading (Option Int)
  | c :: cs => if c = 'e' ∨ c = 'E' then readSignedPower cs else some (none, c :: cs)
  | [] => some (none, [])

/-- A number behind its sign. -/
def readUnsigned (negative : Bool) (cs : List Char) : Option (Payload × List Char) := do
  let (ds, rest) := spanDigits cs
  if ds = [] ∨ (ds.head? = some '0' ∧ ds ≠ ['0']) then none
  else
    let (fraction, rest) ← readFraction rest
    let (power, rest) ← readPower rest
    some (numberOf negative ds fraction power, rest)

/-- A number. -/
def readNumber : Reading Payload
  | '-' :: cs => readUnsigned true cs
  | cs => readUnsigned false cs

theorem readFraction_append {fs cs : List Char} {fraction : Option (List Char)}
    (h : Fraction fs fraction) (hd : NoDigit cs) (hp : '.' ∉ cs.head?) :
    readFraction (fs ++ cs) = some (fraction, cs) := by
  cases h with
  | absent =>
    unfold readFraction
    rw [List.nil_append]
    split
    · exact absurd rfl hp
    · rfl
  | digits hds hne =>
    show (if (spanDigits (_ ++ cs)).1 = [] then none
      else some (some (spanDigits (_ ++ cs)).1, (spanDigits (_ ++ cs)).2)) = _
    rw [spanDigits_append hds hd, if_neg hne]

theorem readPowerDigits_append (negative : Bool) {ds cs : List Char} (hd : AllDigits ds)
    (hne : ds ≠ []) (h : NoDigit cs) :
    readPowerDigits negative (ds ++ cs) =
      some (some (signed negative (ofDigits 10 ds)), cs) := by
  unfold readPowerDigits
  rw [spanDigits_append hd h]
  exact if_neg hne

theorem readSignedPower_append {sign ds cs : List Char} {negative : Bool}
    (hs : PowerSign sign negative) (hd : AllDigits ds) (hne : ds ≠ []) (h : NoDigit cs) :
    readSignedPower (sign ++ ds ++ cs) = some (some (signed negative (ofDigits 10 ds)), cs) := by
  rw [List.append_assoc]
  have hdigits := readPowerDigits_append negative hd hne h
  cases hs with
  | plus | minus => exact hdigits
  | absent =>
    rw [List.nil_append]
    unfold readSignedPower
    -- the first character is a digit, so it is no sign
    cases ds with
    | nil => exact absurd rfl hne
    | cons d ds =>
      have hdigit := hd d List.mem_cons_self
      rw [List.cons_append] at hdigits ⊢
      split
      · next heq =>
        obtain ⟨rfl, -⟩ := List.cons.inj heq
        cases hdigit
      · next heq =>
        obtain ⟨rfl, -⟩ := List.cons.inj heq
        cases hdigit
      · exact hdigits

theorem readPower_append {ps cs : List Char} {power : Option Int} (h : Power ps power)
    (he : Ended cs) : readPower (ps ++ cs) = some (power, cs) := by
  cases h with
  | absent =>
    cases cs with
    | nil => rfl
    | cons c cs =>
      obtain ⟨-, -, hlower, hupper⟩ := he c rfl
      exact if_neg (not_or.2 ⟨hlower, hupper⟩)
  | digits hmark hsign hd hne =>
    exact (if_pos hmark).trans (readSignedPower_append hsign hd hne he.noDigit)

/-- What follows the fraction of a number does not go on with its digits. -/
theorem Power.noDigit {ps cs : List Char} {power : Option Int} (h : Power ps power)
    (he : Ended cs) : NoDigit (ps ++ cs) ∧ '.' ∉ (ps ++ cs).head? := by
  cases h with
  | absent => exact ⟨he.noDigit, fun hp => (he _ hp).2.1 rfl⟩
  | digits hmark =>
    refine ⟨.cons ?_ _, fun hp => ?_⟩
    · rcases hmark with rfl | rfl <;> rfl
    · obtain rfl := Option.some.inj hp
      rcases hmark with hmark | hmark <;> cases hmark

theorem Fraction.noDigit {fs cs : List Char} {fraction : Option (List Char)}
    (h : Fraction fs fraction) (hc : NoDigit cs) : NoDigit (fs ++ cs) := by
  cases h with
  | absent => exact hc
  | digits => exact .cons rfl _

theorem IsWhole.allDigits {ds : List Char} (h : IsWhole ds) : AllDigits ds := by
  rcases h with rfl | h
  · exact Decimal.allDigits_zeros 1
  · exact h.digits

theorem IsWhole.accepted {ds : List Char} (h : IsWhole ds) :
    ¬ (ds = [] ∨ (ds.head? = some '0' ∧ ds ≠ ['0'])) := by
  rcases h with rfl | h
  · exact not_or.2 ⟨List.cons_ne_nil _ _, fun h => h.2 rfl⟩
  · exact not_or.2 ⟨h.nonempty, fun h' => h.first h'.1⟩

theorem readUnsigned_append (negative : Bool) {ds fs ps cs : List Char}
    {fraction : Option (List Char)} {power : Option Int} (hd : IsWhole ds)
    (hf : Fraction fs fraction) (hp : Power ps power) (he : Ended cs) :
    readUnsigned negative (ds ++ (fs ++ ps) ++ cs) =
      some (numberOf negative ds fraction power, cs) := by
  obtain ⟨hdigit, hpoint⟩ := hp.noDigit he
  rw [List.append_assoc, List.append_assoc]
  unfold readUnsigned
  rw [spanDigits_append hd.allDigits (hf.noDigit hdigit)]
  refine (if_neg hd.accepted).trans ?_
  rw [readFraction_append hf hdigit hpoint]
  show (readPower (ps ++ cs) >>= _) = _
  rw [readPower_append hp he]
  rfl

theorem readNumber_of_no_sign {cs : List Char} (h : '-' ∉ cs.head?) :
    readNumber cs = readUnsigned false cs := by
  unfold readNumber
  split
  · exact absurd rfl h
  · rfl

/-- A digit is the first character of a number without its sign. -/
theorem IsWhole.exists_cons {ds : List Char} (h : IsWhole ds) :
    ∃ d rest, ds = d :: rest ∧ d.isDigit = true := by
  cases ds with
  | nil => exact absurd (.inl rfl) h.accepted
  | cons d rest => exact ⟨d, rest, rfl, h.allDigits d List.mem_cons_self⟩

/-- **A number is read.** -/
theorem Number.read {ns cs : List Char} {p : Payload} (h : Number ns p) (he : Ended cs) :
    readNumber (ns ++ cs) = some (p, cs) := by
  obtain ⟨negative, hd, hf, hp⟩ := h
  have hread := readUnsigned_append negative hd hf hp he
  cases negative with
  | true => exact hread
  | false =>
    refine (readNumber_of_no_sign fun hsign => ?_).trans hread
    obtain ⟨d, rest, rfl, hdigit⟩ := hd.exists_cons
    obtain rfl := Option.some.inj hsign
    cases hdigit

/-! ## 3. Texts -/

/-- The characters of a text up to the quote that ends it. -/
def readCharacters : Reading (List Nat)
  | [] => none
  | '"' :: cs => some ([], cs)
  | '\\' :: 'u' :: a :: b :: c :: d :: cs =>
    if [a, b, c, d].all Numeral.isHexDigit then
      (readCharacters cs).map fun (units, rest) => (ofDigits 16 [a, b, c, d] :: units, rest)
    else none
  | '\\' :: c :: cs =>
    (shortUnit? c).bind fun u => (readCharacters cs).map fun (units, rest) => (u :: units, rest)
  | c :: cs =>
    if isPlain c then (readCharacters cs).map fun (units, rest) => (utf16 c ++ units, rest)
    else none

/-- A text. -/
def readQuoted : Reading String
  | '"' :: cs => (readCharacters cs).map fun (units, rest) => (textOf units, rest)
  | _ => none

theorem readCharacters_plain {c : Char} (hc : isPlain c = true) (cs : List Char) :
    readCharacters (c :: cs) =
      (readCharacters cs).map fun (units, rest) => (utf16 c ++ units, rest) := by
  rw [readCharacters]
  · exact if_pos hc
  · rintro rfl
    cases hc
  · rintro _ _ _ _ _ rfl
    cases hc
  · rintro _ _ rfl
    cases hc

theorem readCharacters_short {c : Char} {u : Nat} (hc : shortUnit? c = some u) (cs : List Char) :
    readCharacters ('\\' :: c :: cs) =
      (readCharacters cs).map fun (units, rest) => (u :: units, rest) := by
  rw [readCharacters]
  · rw [hc]
    rfl
  · rintro a b d e rest rfl
    cases hc

/-- The characters of a text are read up to the quote behind them. -/
theorem Characters.read {cs : List Char} {units : List Nat} (h : Characters cs units)
    (rest : List Char) : readCharacters (cs ++ '"' :: rest) = some (units, rest) := by
  induction h with
  | nil => rfl
  | plain hc _ ih =>
    rw [List.cons_append, readCharacters_plain hc, ih]
    rfl
  | short hc _ ih =>
    rw [List.cons_append, List.cons_append, readCharacters_short hc, ih]
    rfl
  | numbered hd _ ih =>
    simp only [List.cons_append]
    rw [readCharacters, if_pos hd, ih]
    rfl

/-- **A text is read.** -/
theorem Quoted.read {cs : List Char} {s : String} (h : Quoted cs s) (rest : List Char) :
    readQuoted (cs ++ rest) = some (s, rest) := by
  obtain ⟨h⟩ := h
  show (readCharacters (_ ++ ['"'] ++ rest)).map _ = _
  rw [List.append_assoc, List.singleton_append, h.read]
  rfl

/-! ## 4. Values -/

/-- The value of a word. -/
def readWord (word : List Char) (p : Payload) : Reading Payload := fun cs =>
  if word.isPrefixOf cs then some (p, cs.drop word.length) else none

section

variable {α : Type}

/-- Pieces with commas between them, up to a mark. -/
def readPieces (closing : Char) (piece : Reading α) : (room : Nat) → Reading (List α)
  | 0, _ => none
  | room + 1, cs => do
    let (a, rest) ← piece cs
    match rest with
    | [] => none
    | c :: rest =>
      if c = ',' then
        (readPieces closing piece room rest).map fun (as, rest) => (a :: as, rest)
      else if c = closing then some ([a], rest)
      else none

/-- No pieces or some, up to a mark. -/
def readListed (closing : Char) (piece : Reading α) (cs : List Char) :
    Option (List α × List Char) :=
  match skip cs with
  | [] => none
  | c :: rest => if c = closing then some ([], rest) else readPieces closing piece cs.length cs

end

/-- An element, from how values are read. -/
def readElement (value : Reading Payload) : Reading Payload := fun cs =>
  (value (skip cs)).map fun (p, rest) => (p, skip rest)

/-- A member, from how values are read. -/
def readMember (value : Reading Payload) : Reading (String × Payload) := fun cs => do
  let (name, rest) ← readQuoted (skip cs)
  match skip rest with
  | ':' :: rest => (readElement value rest).map fun (p, rest) => ((name, p), rest)
  | _ => none

/-- A value, from how the values inside it are read. -/
def readAround (inner : Reading Payload) : Reading Payload
  | [] => none
  | c :: cs =>
    if c = '"' then (readQuoted (c :: cs)).map fun (s, rest) => (.text s, rest)
    else if c = '[' then
      (readListed ']' (readElement inner) cs).map fun (ps, rest) => (.list ps, rest)
    else if c = '\x7b' then
      (readListed '\x7d' (readMember inner) cs).map fun (fs, rest) => (.record fs, rest)
    else if c = 'n' then readWord ['u', 'l', 'l'] .null cs
    else if c = 't' then readWord ['r', 'u', 'e'] (.bool true) cs
    else if c = 'f' then readWord ['a', 'l', 's', 'e'] (.bool false) cs
    else readNumber (c :: cs)

/-- A value, with values inside it to a depth. -/
def readValue : (depth : Nat) → Reading Payload
  | 0 => fun _ => none
  | depth + 1 => readAround (readValue depth)

/-- The payload that a text holds, if it is a document. -/
def read? (text : String) : Option Payload :=
  let cs := text.toList
  match readElement (readValue cs.length) cs with
  | some (p, []) => some p
  | _ => none

/-! ## 5. Lists of pieces -/

section

variable {α : Type} {closing : Char} {piece : Reading α}

theorem readPieces_last (hc : closing ≠ ',') {room : Nat} {cs rest : List Char} {a : α}
    (h : piece cs = some (a, closing :: rest)) :
    readPieces closing piece (room + 1) cs = some ([a], rest) := by
  unfold readPieces
  rw [h]
  exact (if_neg hc).trans (if_pos rfl)

theorem readPieces_cons {room : Nat} {cs rest : List Char} {a : α}
    (h : piece cs = some (a, ',' :: rest)) :
    readPieces closing piece (room + 1) cs =
      (readPieces closing piece room rest).map fun (as, rest) => (a :: as, rest) := by
  conv_lhs => unfold readPieces
  rw [h]
  rfl

theorem readPieces_of_none {cs : List Char} (h : piece cs = none) (room : Nat) :
    readPieces closing piece room cs = none := by
  cases room with
  | zero => rfl
  | succ room =>
    unfold readPieces
    rw [h]
    rfl

theorem separated_cons {cs : List Char} {rest : List (List Char)} (h : rest ≠ []) :
    separated (cs :: rest) = cs ++ ',' :: separated rest := by
  cases rest with
  | nil => exact absurd rfl h
  | cons ds rest => rfl

/-- Pieces are read, if each one is. -/
theorem readPieces_separated (hc : closing ∈ [']', '\x7d']) {pieces : List (List Char × α)}
    (hne : pieces ≠ [])
    (h : ∀ a ∈ pieces, ∀ rest, Marked rest → piece (a.1 ++ rest) = some (a.2, rest))
    {room : Nat} {rest : List Char} (hroom : pieces.length ≤ room) :
    readPieces closing piece room (separated (pieces.map Prod.fst) ++ closing :: rest) =
      some (pieces.map Prod.snd, rest) := by
  induction pieces generalizing room with
  | nil => exact absurd rfl hne
  | cons a pieces ih =>
    obtain ⟨ha, hrest⟩ := List.forall_mem_cons.1 h
    obtain ⟨room, rfl⟩ : ∃ r, room = r + 1 := ⟨room - 1, by
      rw [List.length_cons] at hroom
      omega⟩
    rw [List.length_cons] at hroom
    by_cases hlast : pieces = []
    · subst hlast
      have hne' : closing ≠ ',' := by
        rintro rfl
        exact absurd hc (by decide)
      exact readPieces_last hne' (ha _ (.cons (List.mem_cons_of_mem _ hc) _))
    · have hmap : pieces.map Prod.fst ≠ [] := mt List.map_eq_nil_iff.1 hlast
      rw [List.map_cons, separated_cons hmap, List.append_assoc, List.cons_append,
        readPieces_cons (ha _ (.cons List.mem_cons_self _)),
        ih hlast hrest (Nat.le_of_succ_le_succ hroom)]
      rfl

end

/-- Behind space, if any, the text goes on with something else than the end of a list. -/
def StartsPiece (cs : List Char) : Prop := ∃ c rest, skip cs = c :: rest ∧ c ∉ [']', '\x7d']

theorem StartsPiece.after {space : List Char} (hs : AllSpace space) {cs : List Char}
    (h : StartsPiece cs) : StartsPiece (space ++ cs) := by
  obtain ⟨c, rest, hskip, hc⟩ := h
  exact ⟨c, rest, (skip_append hs cs).trans hskip, hc⟩

theorem StartsPiece.cons {c : Char} (hs : isSpace c = false) (hc : c ∉ [']', '\x7d'])
    (cs : List Char) : StartsPiece (c :: cs) :=
  ⟨c, cs, skip_of_noSpace (.cons hs cs), hc⟩

section

variable {α : Type} {closing : Char} {piece : Reading α}

theorem readListed_of_starts (hc : closing ∈ [']', '\x7d']) {cs : List Char}
    (h : StartsPiece cs) : readListed closing piece cs = readPieces closing piece cs.length cs := by
  obtain ⟨c, rest, hskip, hstart⟩ := h
  unfold readListed
  rw [hskip]
  refine if_neg ?_
  rintro rfl
  exact hstart hc

theorem readListed_nil (hc : closing ∈ [']', '\x7d']) {space : List Char} (hs : AllSpace space)
    (rest : List Char) : readListed closing piece (space ++ closing :: rest) = some ([], rest) := by
  have hskip : skip (space ++ closing :: rest) = closing :: rest := by
    rw [skip_append hs]
    exact skip_of_noSpace (Marked.cons (List.mem_cons_of_mem _ hc) _).noSpace
  unfold readListed
  rw [hskip]
  exact if_pos rfl

theorem length_le_separated (css : List (List Char)) :
    css.length ≤ (separated css).length + 1 := by
  induction css with
  | nil => exact Nat.zero_le _
  | cons cs rest ih =>
    by_cases h : rest = []
    · subst h
      exact Nat.le_add_left _ _
    · rw [separated_cons h, List.length_append, List.length_cons, List.length_cons]
      omega

/-- **A list is read, if each of its pieces is.** -/
theorem readListed_separated (hc : closing ∈ [']', '\x7d']) {pieces : List (List Char × α)}
    (hne : pieces ≠ [])
    (h : ∀ a ∈ pieces, ∀ rest, Marked rest → piece (a.1 ++ rest) = some (a.2, rest))
    (hstarts : ∀ a ∈ pieces, ∀ rest, StartsPiece (a.1 ++ rest)) (rest : List Char) :
    readListed closing piece (separated (pieces.map Prod.fst) ++ closing :: rest) =
      some (pieces.map Prod.snd, rest) := by
  rw [readListed_of_starts hc, readPieces_separated hc hne h]
  · have := length_le_separated (pieces.map Prod.fst)
    rw [List.length_map] at this
    rw [List.length_append, List.length_cons]
    omega
  · cases pieces with
    | nil => exact absurd rfl hne
    | cons a pieces =>
      have ha := hstarts a List.mem_cons_self
      by_cases hlast : pieces.map Prod.fst = []
      · rw [List.map_cons, hlast]
        exact ha _
      · rw [List.map_cons, separated_cons hlast, List.append_assoc]
        exact ha _

end

/-! ## 6. The first character of a part -/

theorem isSpace_of_isDigit {c : Char} (h : c.isDigit = true) : isSpace c = false := by
  unfold isSpace
  simp only [Bool.or_eq_false_iff, beq_eq_false_iff_ne]
  refine ⟨⟨⟨?_, ?_⟩, ?_⟩, ?_⟩
  all_goals
    rintro rfl
    cases h

/-- A number begins with its sign or with a digit. -/
theorem Number.exists_cons {cs : List Char} {p : Payload} (h : Number cs p) :
    ∃ c rest, cs = c :: rest ∧ (c = '-' ∨ c.isDigit = true) := by
  obtain ⟨negative, hd, -, -⟩ := h
  cases negative with
  | true => exact ⟨_, _, rfl, .inl rfl⟩
  | false =>
    obtain ⟨d, rest, rfl, hdigit⟩ := hd.exists_cons
    exact ⟨d, _, rfl, .inr hdigit⟩

/-- The character begins a value: it is no space and ends no list. -/
def Opens (c : Char) : Prop := isSpace c = false ∧ c ∉ [']', '\x7d']

theorem Opens.startsPiece {c : Char} (h : Opens c) (cs : List Char) : StartsPiece (c :: cs) :=
  .cons h.1 h.2 cs

theorem opens_number {c : Char} (h : c = '-' ∨ c.isDigit = true) : Opens c := by
  rcases h with rfl | h
  · exact ⟨rfl, by decide⟩
  · refine ⟨isSpace_of_isDigit h, fun hc => ?_⟩
    simp only [List.mem_cons, List.not_mem_nil, or_false] at hc
    rcases hc with rfl | rfl
    all_goals cases h

theorem Quoted.exists_cons {cs : List Char} {s : String} (h : Quoted cs s) :
    ∃ rest, cs = '"' :: rest := by
  obtain ⟨h⟩ := h
  exact ⟨_, rfl⟩

/-- A value begins with a character that is no space and ends no list. -/
theorem Holds.exists_cons {cs : List Char} {p : Payload} (h : Holds cs (.value p)) :
    ∃ c rest, cs = c :: rest ∧ Opens c := by
  cases h with
  | null | true | false | noItems | items | noFields | fields =>
    exact ⟨_, _, rfl, rfl, by decide⟩
  | number h =>
    obtain ⟨c, rest, rfl, hc⟩ := h.exists_cons
    exact ⟨c, rest, rfl, opens_number hc⟩
  | text h =>
    obtain ⟨rest, rfl⟩ := h.exists_cons
    exact ⟨_, _, rfl, rfl, by decide⟩

theorem Holds.startsPiece_element {cs : List Char} {p : Payload} (h : Holds cs (.element p))
    (rest : List Char) : StartsPiece (cs ++ rest) := by
  cases h with
  | element hb h _ =>
    obtain ⟨c, more, rfl, hc⟩ := h.exists_cons
    rw [List.append_assoc]
    exact .after hb (hc.startsPiece _)

theorem Holds.startsPiece_member {cs : List Char} {name : String} {p : Payload}
    (h : Holds cs (.member name p)) (rest : List Char) : StartsPiece (cs ++ rest) := by
  cases h with
  | member hb hname _ _ =>
    obtain ⟨more, rfl⟩ := hname.exists_cons
    rw [List.append_assoc]
    exact .after hb (.cons rfl (by decide) _)

/-! ## 7. What the grammar makes is read -/

/-- What it is to be read as a part of a document, by a reader that follows values to a depth. -/
def IsRead (depth : Nat) (cs : List Char) : Part → Prop
  | .value p => ∀ rest, Bounded rest → readValue depth (cs ++ rest) = some (p, rest)
  | .element p =>
    ∀ rest, Marked rest → readElement (readValue depth) (cs ++ rest) = some (p, rest)
  | .member name p =>
    ∀ rest, Marked rest → readMember (readValue depth) (cs ++ rest) = some ((name, p), rest)

theorem readAround_number {inner : Reading Payload} {c : Char} (h : c = '-' ∨ c.isDigit = true)
    (cs : List Char) : readAround inner (c :: cs) = readNumber (c :: cs) := by
  have hne {d : Char} (hd : d ≠ '-') (hd' : d.isDigit = false) : c ≠ d := by
    rintro rfl
    rcases h with h | h
    · exact hd h
    · exact Bool.false_ne_true (hd'.symm.trans h)
  unfold readAround
  dsimp only
  rw [if_neg (hne (by decide) rfl), if_neg (hne (by decide) rfl), if_neg (hne (by decide) rfl),
    if_neg (hne (by decide) rfl), if_neg (hne (by decide) rfl), if_neg (hne (by decide) rfl)]

/-- An element is a value with space before and behind it. -/
theorem readElement_after {value : Reading Payload} {before cs : List Char} (hb : AllSpace before)
    (hs : NoSpace cs) : readElement value (before ++ cs) =
      (value cs).map fun (p, rest) => (p, skip rest) := by
  unfold readElement
  rw [skip_append hb, skip_of_noSpace hs]

/-- A name, the space around it and a colon stand before the element of a member. -/
theorem Quoted.readMember_eq {value : Reading Payload} {before name behind : List Char} {s : String}
    (h : Quoted name s) (hb : AllSpace before) (hb' : AllSpace behind) (cs : List Char) :
    readMember value (before ++ (name ++ (behind ++ ':' :: cs))) =
      (readElement value cs).map fun (p, rest) => ((s, p), rest) := by
  have hname : NoSpace (name ++ (behind ++ ':' :: cs)) := by
    obtain ⟨more, rfl⟩ := h.exists_cons
    exact .cons rfl _
  have hcolon : skip (behind ++ ':' :: cs) = ':' :: cs := by
    rw [skip_append hb']
    exact skip_of_noSpace (.cons rfl _)
  unfold readMember
  rw [skip_append hb, skip_of_noSpace hname, h.read]
  show (match skip (behind ++ ':' :: cs) with | ':' :: rest => _ | _ => none) = _
  rw [hcolon]
  rfl

theorem length_le_of_mem_separated {cs : List Char} {css : List (List Char)} (h : cs ∈ css) :
    cs.length ≤ (separated css).length := by
  induction css with
  | nil => cases h
  | cons ds rest ih =>
    by_cases hrest : rest = []
    · subst hrest
      obtain rfl := List.mem_singleton.mp h
      exact Nat.le_refl _
    · rw [separated_cons hrest, List.length_append, List.length_cons]
      rcases List.mem_cons.mp h with rfl | h
      · exact Nat.le_add_right _ _
      · have := ih h
        omega

theorem exists_depth {c : Char} {cs : List Char} {depth : Nat} (h : (c :: cs).length ≤ depth) :
    ∃ less, depth = less + 1 ∧ cs.length ≤ less := by
  rw [List.length_cons] at h
  exact ⟨depth - 1, by omega, by omega⟩

/-- **What the grammar makes a part of a document is read as it.** -/
theorem Holds.read {cs : List Char} {part : Part} (h : Holds cs part) {depth : Nat}
    (hd : cs.length ≤ depth) : IsRead depth cs part := by
  induction h generalizing depth with
  | null | true | false =>
    obtain ⟨depth, rfl, -⟩ := exists_depth hd
    exact fun rest _ => rfl
  | number h =>
    obtain ⟨c, more, rfl, hc⟩ := h.exists_cons
    obtain ⟨depth, rfl, -⟩ := exists_depth hd
    exact fun rest hb => (readAround_number hc _).trans (h.read hb.ended)
  | text h =>
    obtain ⟨more, rfl⟩ := h.exists_cons
    obtain ⟨depth, rfl, -⟩ := exists_depth hd
    intro rest _
    show (readQuoted ('"' :: more ++ rest)).map _ = _
    rw [h.read]
    rfl
  | noItems hs =>
    obtain ⟨depth, rfl, -⟩ := exists_depth hd
    intro rest _
    show (readListed ']' _ (_ ++ [']'] ++ rest)).map _ = _
    rw [List.append_assoc, List.singleton_append, readListed_nil (by decide) hs]
    rfl
  | noFields hs =>
    obtain ⟨depth, rfl, -⟩ := exists_depth hd
    intro rest _
    show (readListed '\x7d' _ (_ ++ ['\x7d'] ++ rest)).map _ = _
    rw [List.append_assoc, List.singleton_append, readListed_nil (by decide) hs]
    rfl
  | @items pieces hne h ih =>
    obtain ⟨depth, rfl, hless⟩ := exists_depth hd
    have hpiece : ∀ a ∈ pieces, ∀ rest, Marked rest →
        readElement (readValue depth) (a.1 ++ rest) = some (a.2, rest) := by
      intro a ha
      have hle := length_le_of_mem_separated (List.mem_map_of_mem (f := Prod.fst) ha)
      rw [List.length_append] at hless
      exact ih a ha (by omega)
    intro rest _
    show (readListed ']' _ (_ ++ [']'] ++ rest)).map _ = _
    rw [List.append_assoc, List.singleton_append, readListed_separated (by decide) hne hpiece
      fun a ha => (h a ha).startsPiece_element]
    rfl
  | @fields pieces hne h ih =>
    obtain ⟨depth, rfl, hless⟩ := exists_depth hd
    have hpiece : ∀ a ∈ pieces, ∀ rest, Marked rest →
        readMember (readValue depth) (a.1 ++ rest) = some (a.2, rest) := by
      intro a ha
      have hle := length_le_of_mem_separated (List.mem_map_of_mem (f := Prod.fst) ha)
      rw [List.length_append] at hless
      exact ih a ha (by omega)
    intro rest _
    show (readListed '\x7d' _ (_ ++ ['\x7d'] ++ rest)).map _ = _
    rw [List.append_assoc, List.singleton_append, readListed_separated (by decide) hne hpiece
      fun a ha => (h a ha).startsPiece_member]
    rfl
  | @element before cs behind p hb h hb' ih =>
    intro rest hmarked
    simp only [List.length_append] at hd
    have hread := ih (by omega : cs.length ≤ depth) (behind ++ rest) (hmarked.bounded.after hb')
    have hs : NoSpace (cs ++ (behind ++ rest)) := by
      obtain ⟨c, more, rfl, hc⟩ := h.exists_cons
      exact .cons hc.1 _
    rw [List.append_assoc, List.append_assoc, readElement_after hb hs, hread]
    show some (p, skip (behind ++ rest)) = _
    rw [skip_append hb', skip_of_noSpace hmarked.noSpace]
  | @member before name behind cs s p hb hname hb' h ih =>
    intro rest hmarked
    simp only [List.length_append, List.length_cons] at hd
    have hread := ih (by omega : cs.length ≤ depth) rest hmarked
    have happ : before ++ (name ++ (behind ++ ':' :: cs)) ++ rest =
        before ++ (name ++ (behind ++ ':' :: (cs ++ rest))) := by
      simp only [List.append_assoc, List.cons_append]
    rw [happ, hname.readMember_eq hb hb', hread]
    rfl

/-- **The payload of a document is read from its text**, so a text holds no other payload. -/
theorem Document.read?_eq {text : String} {p : Payload} (h : Document text p) :
    read? text = some p := by
  have hread := h.read (Nat.le_refl _) [] nofun
  rw [List.append_nil] at hread
  unfold read?
  dsimp only
  rw [hread]

end Json

end VisualScale
