import VisualScale.Proofs.Document.Reading
import VisualScale.Proofs.Number.Numeral

/-!
# What is written of a payload

A payload without a double that is not finite, and without a value type or a binding itself, is
written as a value of the grammar that holds the payload (`Json.holds_write`). Integers, texts and
the names of fields are written so whatever they are: digits that no zero leads, and characters that
stand by themselves or are escaped, by their short names or by the numbers of their UTF-16 units.

A double that is not finite is written by a name that begins no value of the grammar. Where one
stands anywhere in a payload, reading stops at it, so what is written of the payload is no document
(`Json.not_document`). Together: what is written of a payload is a document exactly if the doubles
in it are finite, and then it holds that payload and no other (`Json.document_json_iff`). Value
types and bindings do not come into this, since a payload with one is not written.
-/

namespace VisualScale

open Decimal (AllDigits Leading ofDigits)

namespace Json

/-! ## 1. Texts -/

theorem digitValue_digitChar {n : Nat} (h : n < 16) :
    Decimal.digitValue (Nat.digitChar n) = n := by
  interval_cases n
  all_goals decide

theorem isHexDigit_digitChar {n : Nat} (h : n < 16) :
    Numeral.isHexDigit (Nat.digitChar n) = true := by
  interval_cases n
  all_goals decide

/-- The number of a unit is written by four digits. -/
theorem characters_unit {n : Nat} (hn : n < 0x10000) {cs : List Char} {us : List Nat}
    (h : Characters cs us) : Characters (unit n ++ cs) (n :: us) := by
  have hlt (k : Nat) : k % 16 < 16 := Nat.mod_lt _ (by decide)
  have hdigits : [Nat.digitChar (n / 4096 % 16), Nat.digitChar (n / 256 % 16),
      Nat.digitChar (n / 16 % 16), Nat.digitChar (n % 16)].all Numeral.isHexDigit = true := by
    simp only [List.all_cons, List.all_nil, isHexDigit_digitChar (hlt _), Bool.and_self]
  have hvalue : ofDigits 16 [Nat.digitChar (n / 4096 % 16), Nat.digitChar (n / 256 % 16),
      Nat.digitChar (n / 16 % 16), Nat.digitChar (n % 16)] = n := by
    simp only [ofDigits, List.foldl_cons, List.foldl_nil, digitValue_digitChar (hlt _)]
    omega
  have hnumbered := Characters.numbered hdigits h
  rw [hvalue] at hnumbered
  exact hnumbered

theorem toNat_lt (c : Char) : c.toNat < 0x110000 := by
  rcases c.valid with h | ⟨-, h⟩
  · exact Nat.lt_trans h (by decide)
  · exact h

/-- A character is written for its own units. -/
theorem characters_units (c : Char) {cs : List Char} {us : List Nat} (h : Characters cs us) :
    Characters (units c ++ cs) (utf16 c ++ us) := by
  have hc := toNat_lt c
  unfold units utf16
  dsimp only
  by_cases hsmall : c.toNat < 0x10000
  · rw [if_pos hsmall, if_pos hsmall]
    exact characters_unit hsmall h
  · rw [if_neg hsmall, if_neg hsmall, List.append_assoc]
    exact characters_unit (by omega) (characters_unit (by omega) h)

/-- A character inside a text stands for its own units. -/
theorem characters_escaped (c : Char) {cs : List Char} {us : List Nat} (h : Characters cs us) :
    Characters (escaped c ++ cs) (utf16 c ++ us) := by
  unfold escaped
  split_ifs with hquote hslash hline hreturn htab hback hfeed hplain
  · subst hquote
    exact .short rfl h
  · subst hslash
    exact .short rfl h
  · subst hline
    exact .short rfl h
  · subst hreturn
    exact .short rfl h
  · subst htab
    exact .short rfl h
  · subst hback
    exact .short rfl h
  · subst hfeed
    exact .short rfl h
  · refine .plain ?_ h
    unfold isPlain
    rw [Bool.and_eq_true, Bool.and_eq_true, decide_eq_true_iff, bne_iff_ne, bne_iff_ne]
    exact ⟨⟨hplain.1, hquote⟩, hslash⟩
  · exact characters_units c h

theorem characters_flatMap_escaped (cs : List Char) :
    Characters (cs.flatMap escaped) (cs.flatMap utf16) := by
  induction cs with
  | nil => exact .nil
  | cons c cs ih =>
    rw [List.flatMap_cons, List.flatMap_cons]
    exact characters_escaped c ih

theorem ofUtf16_single {u : Nat} (h : isHigh u = false) (us : List Nat) :
    ofUtf16 (u :: us) = single u :: ofUtf16 us := by
  cases us with
  | nil => rfl
  | cons v us =>
    rw [ofUtf16, h, Bool.false_and, if_neg Bool.false_ne_true]

/-- No character has the number of a unit that is one of a pair. -/
theorem isHigh_toNat (c : Char) : isHigh c.toNat = false := by
  have hout : c.toNat < 0xd800 ∨ 0xe000 ≤ c.toNat := c.valid.imp id fun h => h.1
  unfold isHigh
  rw [Bool.and_eq_false_iff, decide_eq_false_iff_not, decide_eq_false_iff_not]
  omega

theorem isLow_toNat (c : Char) : isLow c.toNat = false := by
  have hout : c.toNat < 0xd800 ∨ 0xe000 ≤ c.toNat := c.valid.imp id fun h => h.1
  unfold isLow
  rw [Bool.and_eq_false_iff, decide_eq_false_iff_not, decide_eq_false_iff_not]
  omega

/-- The units of a character are read as the character. -/
theorem ofUtf16_utf16 (c : Char) (us : List Nat) : ofUtf16 (utf16 c ++ us) = c :: ofUtf16 us := by
  have hc := toNat_lt c
  unfold utf16
  dsimp only
  by_cases hsmall : c.toNat < 0x10000
  · rw [if_pos hsmall, List.singleton_append, ofUtf16_single (isHigh_toNat c)]
    unfold single
    rw [isHigh_toNat, isLow_toNat, Bool.or_false, if_neg Bool.false_ne_true, Char.ofNat_toNat]
  · rw [if_neg hsmall]
    generalize hu : 0xd800 + (c.toNat - 0x10000) / 0x400 = u
    generalize hv : 0xdc00 + (c.toNat - 0x10000) % 0x400 = v
    have hpair : (isHigh u && isLow v) = true := by
      unfold isHigh isLow
      simp only [Bool.and_eq_true, decide_eq_true_eq]
      omega
    have hback : 0x10000 + (u - 0xd800) * 0x400 + (v - 0xdc00) = c.toNat := by omega
    show ofUtf16 (u :: v :: us) = _
    rw [ofUtf16, if_pos hpair, hback, Char.ofNat_toNat]

theorem ofUtf16_flatMap_utf16 (cs : List Char) : ofUtf16 (cs.flatMap utf16) = cs := by
  induction cs with
  | nil => rfl
  | cons c cs ih => rw [List.flatMap_cons, ofUtf16_utf16, ih]

/-- **A text between its quotes is that text.** -/
theorem quoted_quotedText (s : String) : Quoted (quotedText s) s := by
  have h := Quoted.characters (characters_flatMap_escaped s.toList)
  have htext : textOf (s.toList.flatMap utf16) = s := by
    unfold textOf
    rw [ofUtf16_flatMap_utf16, String.ofList_toList]
  rw [htext] at h
  exact h

/-! ## 2. Numbers -/

theorem isWhole_toDigits (n : Nat) : IsWhole (Nat.toDigits 10 n) := by
  by_cases hn : n = 0
  · subst hn
    exact .inl rfl
  · exact .inr (Decimal.leading_toDigits hn)

/-- An integer is its size behind its sign. -/
theorem signed_natAbs (n : Int) : signed (decide (n < 0)) n.natAbs = n := by
  unfold signed
  by_cases h : n < 0
  · rw [if_pos (decide_eq_true h)]
    omega
  · rw [if_neg (by simpa using h)]
    omega

/-- **The text of an integer is a number, the integer.** -/
theorem number_intText (n : Int) : Number (intText n) (.int n) := by
  have hnumber := Number.parts (decide (n < 0)) (isWhole_toDigits n.natAbs) .absent .absent
  rw [numberOf, Decimal.ofDigits_toDigits, signed_natAbs, List.append_nil, List.append_nil]
    at hnumber
  have htext : intText n = minusSign (decide (n < 0)) ++ Nat.toDigits 10 n.natAbs := by
    unfold intText minusSign
    by_cases h : n < 0
    · rw [if_pos h, if_pos (decide_eq_true h)]
      rfl
    · rw [if_neg h, if_neg (by simpa using h)]
      rfl
  rw [htext]
  exact hnumber

/-- Behind either sign, the text is a number: the double, or the one of opposite sign. -/
def Magnitude (cs : List Char) (d : Double) : Prop :=
  ∀ negative, Number (minusSign negative ++ cs) (.float (if negative then d.neg else d))

/-- A whole part with a fraction or a power of ten. -/
theorem magnitude_parts {ds fs ps : List Char} {fraction : Option (List Char)} {power : Option Int}
    (hd : IsWhole ds) (hf : Fraction fs fraction) (hp : Power ps power)
    (hsome : fraction ≠ none ∨ power ≠ none) :
    Magnitude (ds ++ (fs ++ ps))
      ((Decimal.ofParts ds (fraction.getD []) (power.getD 0)).toDouble false) := by
  intro negative
  have hnumber := Number.parts negative hd hf hp
  have hvalue : numberOf negative ds fraction power =
      .float ((Decimal.ofParts ds (fraction.getD []) (power.getD 0)).toDouble negative) := by
    cases fraction with
    | some fraction => rfl
    | none =>
      cases power with
      | some power => rfl
      | none => exact absurd rfl (hsome.resolve_left (absurd rfl))
  rw [hvalue] at hnumber
  cases negative with
  | false =>
    rw [if_neg Bool.false_ne_true]
    exact hnumber
  | true =>
    rw [if_pos rfl, Decimal.neg_toDouble, Bool.not_false]
    exact hnumber

theorem power_powerText (power : Int) : Power (Decimal.powerText power) (some power) := by
  obtain ⟨ds, hds, hd, hne, hvalue⟩ := Numeral.exists_powerText power
  have hsign : PowerSign [if power < 0 then '-' else '+'] (decide (power < 0)) := by
    by_cases h : power < 0
    · rw [if_pos h, decide_eq_true h]
      exact .minus
    · rw [if_neg h, decide_eq_false h]
      exact .plus
  have hpower := Power.digits (.inl rfl) hsign hd hne
  rw [hvalue, signed_natAbs] at hpower
  rw [hds]
  exact hpower

theorem magnitude_positional {ds : List Char} (hl : Leading ds) (power : Int) :
    Magnitude (Decimal.positional ds power) (Numeral.doubleOf ds power) := by
  obtain ⟨whole, fraction, hparts, hwhole, hf, hne, hdouble⟩ := Numeral.exists_positional hl power
  have h := magnitude_parts hwhole (.digits hf hne) .absent (.inl (Option.some_ne_none _))
  rw [hparts, ← hdouble, ← List.append_nil ('.' :: fraction)]
  exact h

theorem magnitude_scientific {ds : List Char} (hl : Leading ds) (power : Int) :
    Magnitude (Decimal.scientific ds power) (Numeral.doubleOf ds power) := by
  have hpower := power_powerText power
  have hsome : (some power : Option Int) ≠ none := Option.some_ne_none _
  match ds, hl with
  | [], hl => exact absurd rfl hl.nonempty
  | [d], hl =>
    rw [← Numeral.toDouble_scientific]
    exact magnitude_parts (.inr hl) .absent hpower (.inr hsome)
  | d :: e :: ds, hl =>
    have hf : AllDigits (e :: ds) := fun c hc => hl.digits c (List.mem_cons_of_mem _ hc)
    rw [← Numeral.toDouble_scientific]
    exact magnitude_parts (.inr (hl.take 0)) (.digits hf (List.cons_ne_nil _ _)) hpower
      (.inr hsome)

theorem magnitude_toText {d : Decimal} (hd : d.digits ≠ 0) :
    Magnitude d.toText (d.toDouble false) := by
  obtain ⟨_, _, hl⟩ := Decimal.exists_trimmedDigits hd
  unfold Decimal.toText
  dsimp only
  rw [← Numeral.doubleOf_trimmedDigits hd]
  split
  · exact magnitude_positional hl _
  · exact magnitude_scientific hl _

/-- The text of a double without its sign. -/
theorem magnitude_magnitudeText {m e : Nat} (s : Bool) (hgrid : OnGrid m e) :
    Magnitude (Double.finite s m e hgrid).magnitudeText (.finite false m e hgrid) := by
  unfold Double.magnitudeText
  dsimp only
  by_cases hm : m = 0
  · subst hm
    have he : e = 0 := hgrid.2.2.resolve_right (by decide)
    subst he
    rw [if_pos rfl]
    exact magnitude_parts (.inl rfl) (.digits (Decimal.allDigits_zeros 1) (List.cons_ne_nil _ _))
      .absent (.inl (Option.some_ne_none _))
  · rw [if_neg hm, ← Double.toDouble_shortest m e hgrid hm]
    exact magnitude_toText (Numeral.digits_shortest_ne_zero hgrid hm)

/-- **The text of a finite double is a number, the double.** -/
theorem number_double {d : Double} (hd : d.isFinite = true) : Number (double d) (.float d) := by
  cases d with
  | nan | infinity => cases hd
  | finite s m e hgrid =>
    have h := magnitude_magnitudeText s hgrid s
    have htext : double (.finite s m e hgrid) =
        minusSign s ++ (Double.finite s m e hgrid).magnitudeText := by
      show (Double.text (.finite s m e hgrid)).toList = _
      unfold Double.text minusSign
      rw [String.toList_ofList]
      cases s <;> rfl
    rw [htext]
    cases s with
    | false =>
      rw [if_neg Bool.false_ne_true] at h
      exact h
    | true => exact h

end Json

/-! ## 3. What JSON has a form for -/

namespace Payload

/-- The second payload stands in the first one, at any depth. -/
inductive Contains : Payload → Payload → Prop where
  | self (p : Payload) : Contains p p
  | item {items : List Payload} {p q : Payload} (h : p ∈ items) (hq : p.Contains q) :
      Contains (.list items) q
  | field {fields : List (String × Payload)} {f : String × Payload} {q : Payload} (h : f ∈ fields)
      (hq : f.2.Contains q) : Contains (.record fields) q

section

variable {d : Double}

@[simp] theorem contains_null : ¬ Payload.null.Contains (.float d) := nofun

@[simp] theorem contains_bool {b : Bool} : ¬ (Payload.bool b).Contains (.float d) := nofun

@[simp] theorem contains_int {n : Int} : ¬ (Payload.int n).Contains (.float d) := nofun

@[simp] theorem contains_text {s : String} : ¬ (Payload.text s).Contains (.float d) := nofun

@[simp] theorem contains_type {t : ValueType} : ¬ (Payload.type t).Contains (.float d) := nofun

@[simp] theorem contains_copy {b : BindingId} : ¬ (Payload.copy b).Contains (.float d) := nofun

@[simp] theorem contains_float {e : Double} : (Payload.float e).Contains (.float d) ↔ d = e := by
  refine ⟨fun h => ?_, ?_⟩
  · cases h
    rfl
  · rintro rfl
    exact .self _

@[simp] theorem contains_list {items : List Payload} :
    (Payload.list items).Contains (.float d) ↔ ∃ p ∈ items, p.Contains (.float d) := by
  refine ⟨fun h => ?_, fun ⟨p, hp, hd⟩ => .item hp hd⟩
  cases h with
  | item hp hd => exact ⟨_, hp, hd⟩

@[simp] theorem contains_record {fields : List (String × Payload)} :
    (Payload.record fields).Contains (.float d) ↔ ∃ f ∈ fields, f.2.Contains (.float d) := by
  refine ⟨fun h => ?_, fun ⟨f, hf, hd⟩ => .field hf hd⟩
  cases h with
  | field hf hd => exact ⟨_, hf, hd⟩

end

/-- Every double in the payload is finite. -/
def Finite (p : Payload) : Prop := ∀ d, p.Contains (.float d) → d.isFinite = true

theorem finite_float_iff {d : Double} : (Payload.float d).Finite ↔ d.isFinite = true := by
  unfold Finite
  simp

theorem finite_list_iff {items : List Payload} :
    (Payload.list items).Finite ↔ ∀ p ∈ items, p.Finite := by
  unfold Finite
  simp only [contains_list]
  exact ⟨fun h p hp d hd => h d ⟨p, hp, hd⟩, fun h d ⟨p, hp, hd⟩ => h p hp d hd⟩

theorem finite_record_iff {fields : List (String × Payload)} :
    (Payload.record fields).Finite ↔ ∀ f ∈ fields, f.2.Finite := by
  unfold Finite
  simp only [contains_record]
  exact ⟨fun h f hf d hd => h d ⟨f, hf, hd⟩, fun h d ⟨f, hf, hd⟩ => h f hf d hd⟩

@[simp] theorem foreign?_null : Json.foreign? .null = none := rfl

@[simp] theorem foreign?_text (s : String) : Json.foreign? (.text s) = none := rfl

@[simp] theorem foreign?_list_iff {items : List Payload} :
    Json.foreign? (.list items) = none ↔ ∀ p ∈ items, Json.foreign? p = none := by
  show Json.foreignItem? items = none ↔ _
  induction items with
  | nil => exact iff_of_true rfl (List.forall_mem_nil _)
  | cons p rest ih => rw [Json.foreignItem?, Option.or_eq_none_iff, ih, List.forall_mem_cons]

@[simp] theorem foreign?_record_iff {fields : List (String × Payload)} :
    Json.foreign? (.record fields) = none ↔ ∀ f ∈ fields, Json.foreign? f.2 = none := by
  show Json.foreignField? fields = none ↔ _
  induction fields with
  | nil => exact iff_of_true rfl (List.forall_mem_nil _)
  | cons f rest ih => rw [Json.foreignField?, Option.or_eq_none_iff, ih, List.forall_mem_cons]

/-- JSON has a form for everything in the payload. -/
def HasForm (p : Payload) : Prop := p.Finite ∧ Json.foreign? p = none

theorem hasForm_list_iff {items : List Payload} :
    (Payload.list items).HasForm ↔ ∀ p ∈ items, p.HasForm := by
  unfold HasForm
  rw [finite_list_iff, foreign?_list_iff, ← forall₂_and]

theorem hasForm_record_iff {fields : List (String × Payload)} :
    (Payload.record fields).HasForm ↔ ∀ f ∈ fields, f.2.HasForm := by
  unfold HasForm
  rw [finite_record_iff, foreign?_record_iff, ← forall₂_and]

end Payload

namespace Json

/-! ## 4. Pieces on lines of their own -/

theorem allSpace_nil : AllSpace [] := List.forall_mem_nil _

theorem allSpace_newLine (level : Nat) : AllSpace (newLine level) := by
  intro c hc
  rcases List.mem_cons.1 hc with rfl | hc
  · rfl
  · rw [List.eq_of_mem_replicate hc]
    rfl

/-- An item on a line of its own. -/
def itemLine (level : Nat) (p : Payload) : List Char := newLine level ++ write level p

/-- A field on a line of its own. -/
def fieldLine (level : Nat) (f : String × Payload) : List Char :=
  newLine level ++ writeField level f

/-- Pieces with a comma before each but the first. -/
def joined {α : Type} (piece : α → List Char) (a : α) (as : List α) : List Char :=
  piece a ++ as.flatMap fun b => ',' :: piece b

theorem writeItems_eq (level : Nat) (ps : List Payload) :
    writeItems level ps = ps.flatMap fun p => ',' :: itemLine level p := by
  induction ps with
  | nil => rfl
  | cons p ps ih =>
    rw [writeItems, ih]
    rfl

theorem writeFields_eq (level : Nat) (fs : List (String × Payload)) :
    writeFields level fs = fs.flatMap fun f => ',' :: fieldLine level f := by
  induction fs with
  | nil => rfl
  | cons f fs ih =>
    rw [writeFields, ih]
    rfl

theorem write_list (level : Nat) (p : Payload) (ps : List Payload) :
    write level (.list (p :: ps)) =
      '[' :: (joined (itemLine (level + 1)) p ps ++ newLine level ++ [']']) := by
  rw [write, writeItems_eq]
  rfl

theorem write_record (level : Nat) (f : String × Payload) (fs : List (String × Payload)) :
    write level (.record (f :: fs)) =
      '\x7b' :: (joined (fieldLine (level + 1)) f fs ++ newLine level ++ ['\x7d']) := by
  rw [write, writeFields_eq]
  rfl

section

variable {α β : Type} (piece : α → List Char) {a : α} {as : List α}

theorem joined_cons (b : α) : joined piece a (b :: as) = piece a ++ ',' :: joined piece b as := by
  unfold joined
  rw [List.flatMap_cons]
  rfl

/-- What stands behind the last piece belongs to it, if it is space. -/
theorem exists_pieces (P : List Char → α → Prop) {space : List Char} (hs : AllSpace space)
    (h : ∀ b ∈ a :: as, ∀ space, AllSpace space → P (piece b ++ space) b) :
    ∃ pieces : List (List Char × α), pieces ≠ [] ∧ pieces.map Prod.snd = a :: as ∧
      (∀ b ∈ pieces, P b.1 b.2) ∧
      separated (pieces.map Prod.fst) = joined piece a as ++ space := by
  induction as generalizing a with
  | nil =>
    refine ⟨[(piece a ++ space, a)], List.cons_ne_nil _ _, rfl, ?_, ?_⟩
    · exact List.forall_mem_singleton.2 (h a List.mem_cons_self space hs)
    · unfold joined
      rw [List.flatMap_nil, List.append_nil]
      rfl
  | cons b bs ih =>
    obtain ⟨ha, hrest⟩ := List.forall_mem_cons.1 h
    obtain ⟨pieces, hne, hsnd, hpieces, htext⟩ := ih hrest
    have hfirst := ha [] allSpace_nil
    rw [List.append_nil] at hfirst
    refine ⟨(piece a, a) :: pieces, List.cons_ne_nil _ _, congrArg (a :: ·) hsnd,
      List.forall_mem_cons.2 ⟨hfirst, hpieces⟩, ?_⟩
    rw [List.map_cons, separated_cons (mt List.map_eq_nil_iff.1 hne), htext, joined_cons,
      List.append_assoc]
    rfl

/-- In front of whatever may follow, the text is read up to the space behind it if a condition
    holds, and not read at all if it does not. -/
def ReadIf (condition : Prop) (read : Reading β) (x : β) (cs : List Char) : Prop :=
  ∀ rest, Bounded rest → (condition → read (cs ++ rest) = some (x, skip rest)) ∧
    (¬ condition → read (cs ++ rest) = none)

/-- Pieces are not read if one of them is not. -/
theorem readPieces_eq_none {closing : Char} {read : Reading β} {good : α → Prop} {held : α → β}
    (h : ∀ b ∈ a :: as, ReadIf (good b) read (held b) (piece b)) (hbad : ∃ b ∈ a :: as, ¬ good b)
    {rest : List Char} (hrest : Bounded rest) (room : Nat) :
    readPieces closing read room (joined piece a as ++ rest) = none := by
  induction as generalizing a room with
  | nil =>
    obtain ⟨b, hb, hnot⟩ := hbad
    obtain rfl := List.mem_singleton.1 hb
    unfold joined
    rw [List.flatMap_nil, List.append_nil]
    exact readPieces_of_none ((h b hb rest hrest).2 hnot) room
  | cons b bs ih =>
    have hmarked : Marked (',' :: (joined piece b bs ++ rest)) := .cons List.mem_cons_self _
    obtain ⟨ha, hothers⟩ := List.forall_mem_cons.1 h
    obtain ⟨hread, hnone⟩ := ha _ hmarked.bounded
    rw [joined_cons, List.append_assoc, List.cons_append]
    by_cases hgood : good a
    · -- the first piece is read, so the one that is not is another
      have hlater : ∃ c ∈ b :: bs, ¬ good c := by
        obtain ⟨c, hc, hnot⟩ := hbad
        exact ⟨c, (List.mem_cons.1 hc).resolve_left fun h => hnot (h ▸ hgood), hnot⟩
      cases room with
      | zero => rfl
      | succ room =>
        have hread := hread hgood
        rw [skip_of_noSpace hmarked.noSpace] at hread
        rw [readPieces_cons hread, ih hothers hlater]
        rfl
    · exact readPieces_of_none (hnone hgood) room

theorem readListed_eq_none (closing : Char) (hc : closing ∈ [']', '\x7d']) {read : Reading β}
    {good : α → Prop} {held : α → β} (hstarts : ∀ rest, StartsPiece (piece a ++ rest))
    (h : ∀ b ∈ a :: as, ReadIf (good b) read (held b) (piece b)) (hbad : ∃ b ∈ a :: as, ¬ good b)
    {space : List Char} (hs : AllSpace space) (rest : List Char) :
    readListed closing read (joined piece a as ++ space ++ [closing] ++ rest) = none := by
  have hstart : StartsPiece (joined piece a as ++ (space ++ closing :: rest)) := by
    unfold joined
    rw [List.append_assoc]
    exact hstarts _
  have hclosing : Marked (closing :: rest) := .cons (List.mem_cons_of_mem _ hc) rest
  rw [List.append_assoc, List.append_assoc, List.singleton_append, readListed_of_starts hc hstart]
  exact readPieces_eq_none piece h hbad (hclosing.bounded.after hs) _

theorem length_le_of_mem_joined {b : α} (h : b ∈ a :: as) :
    (piece b).length ≤ (joined piece a as).length := by
  unfold joined
  rw [List.length_append]
  rcases List.mem_cons.1 h with rfl | h
  · exact Nat.le_add_right _ _
  · obtain ⟨before, after, rfl⟩ := List.append_of_mem h
    rw [List.flatMap_append, List.flatMap_cons, List.length_append, List.length_append,
      List.length_cons]
    omega

end

/-! ## 5. What has a form is written as it is -/

/-- **What is written of a payload that JSON has a form for is a value, the payload.** -/
theorem holds_write : (p : Payload) → p.HasForm → (level : Nat) → Holds (write level p) (.value p)
  | .null, _, _ => .null
  | .bool true, _, _ => .true
  | .bool false, _, _ => .false
  | .int n, _, _ => .number (number_intText n)
  | .float _, h, _ => .number (number_double (Payload.finite_float_iff.1 h.1))
  | .text s, _, _ => .text (quoted_quotedText s)
  | .type _, h, _ | .copy _, h, _ => nomatch h.2
  | .list [], _, _ => .noItems allSpace_nil
  | .record [], _, _ => .noFields allSpace_nil
  | .list (p :: ps), h, level => by
    have hitem : ∀ q ∈ p :: ps, ∀ space, AllSpace space →
        Holds (itemLine (level + 1) q ++ space) (.element q) := by
      intro q hq space hs
      have hvalue := holds_write q (Payload.hasForm_list_iff.1 h q hq) (level + 1)
      unfold itemLine
      rw [List.append_assoc]
      exact .element (allSpace_newLine _) hvalue hs
    obtain ⟨pieces, hne, hsnd, hpieces, htext⟩ := exists_pieces (itemLine (level + 1))
      (fun cs q => Holds cs (.element q)) (allSpace_newLine level) hitem
    have hlist := Holds.items hne hpieces
    rw [hsnd, htext] at hlist
    rw [write_list]
    exact hlist
  | .record (f :: fs), h, level => by
    have hfield : ∀ g ∈ f :: fs, ∀ space, AllSpace space →
        Holds (fieldLine (level + 1) g ++ space) (.member g.1 g.2) := by
      rintro ⟨name, q⟩ hq space hs
      have hvalue := holds_write q (Payload.hasForm_record_iff.1 h _ hq) (level + 1)
      have helement : Holds ([' '] ++ (write (level + 1) q ++ space)) (.element q) :=
        .element (List.forall_mem_singleton.2 rfl) hvalue hs
      have hmember := Holds.member (allSpace_newLine (level + 1)) (quoted_quotedText name)
        allSpace_nil helement
      unfold fieldLine
      rw [writeField, List.append_assoc, List.append_assoc]
      exact hmember
    obtain ⟨pieces, hne, hsnd, hpieces, htext⟩ := exists_pieces (fieldLine (level + 1))
      (fun cs g => Holds cs (.member g.1 g.2)) (allSpace_newLine level) hfield
    have hrecord := Holds.fields hne hpieces
    rw [hsnd, htext] at hrecord
    rw [write_record]
    exact hrecord
termination_by p => sizeOf p
decreasing_by
  · have := List.sizeOf_lt_of_mem hq
    simp only [Payload.list.sizeOf_spec]
    omega
  · have := List.sizeOf_lt_of_mem hq
    simp only [Payload.record.sizeOf_spec, Prod.mk.sizeOf_spec] at this ⊢
    omega

/-! ## 6. What has no form is not read -/

/-- What is written of a payload begins like a value, whether it is one or not. -/
theorem exists_cons_write (level : Nat) (p : Payload) :
    ∃ c rest, write level p = c :: rest ∧ Opens c := by
  have hfirst {c : Char} {rest : List Char} (hc : Opens c) :
      ∃ d more, c :: rest = d :: more ∧ Opens d := ⟨c, rest, rfl, hc⟩
  match p with
  | .null | .bool true | .bool false | .text _ | .list [] | .record [] | .type _ | .copy _ =>
    exact hfirst ⟨rfl, by decide⟩
  | .list (_ :: _) | .record (_ :: _) => exact hfirst ⟨rfl, by decide⟩
  | .int n =>
    obtain ⟨c, rest, htext, hc⟩ := (number_intText n).exists_cons
    exact ⟨c, rest, htext, opens_number hc⟩
  | .float (.finite s m e h) =>
    obtain ⟨c, rest, htext, hc⟩ := (number_double (d := .finite s m e h) rfl).exists_cons
    exact ⟨c, rest, htext, opens_number hc⟩
  | .float .nan | .float (.infinity false) | .float (.infinity true) =>
    exact hfirst ⟨rfl, by decide⟩

theorem noSpace_write (level : Nat) (p : Payload) (rest : List Char) :
    NoSpace (write level p ++ rest) := by
  obtain ⟨c, more, htext, hc⟩ := exists_cons_write level p
  rw [htext]
  exact .cons hc.1 _

theorem startsPiece_itemLine (level : Nat) (p : Payload) (rest : List Char) :
    StartsPiece (itemLine level p ++ rest) := by
  obtain ⟨c, text, htext, hc⟩ := exists_cons_write level p
  unfold itemLine
  rw [List.append_assoc, htext]
  exact .after (allSpace_newLine _) (hc.startsPiece _)

theorem startsPiece_fieldLine (level : Nat) (f : String × Payload) (rest : List Char) :
    StartsPiece (fieldLine level f ++ rest) := by
  obtain ⟨name, p⟩ := f
  have hquote : Opens '"' := ⟨rfl, by decide⟩
  unfold fieldLine
  rw [List.append_assoc]
  exact .after (allSpace_newLine _) (hquote.startsPiece _)

/-- The names of the doubles that are not finite are no values. -/
theorem readValue_double_eq_none {d : Double} (hd : d.isFinite = false) (depth : Nat)
    (rest : List Char) : readValue depth (double d ++ rest) = none := by
  cases depth with
  | zero => rfl
  | succ depth =>
    match d, hd with
    | .nan, _ | .infinity false, _ | .infinity true, _ => rfl

section

variable {p : Payload} {level depth : Nat} (hdepth : (write level p).length ≤ depth)
  (hnone : ¬ p.HasForm → ∀ rest, Bounded rest → readValue depth (write level p ++ rest) = none)

include hdepth hnone

theorem readIf_element {space : List Char} (hs : AllSpace space) :
    ReadIf p.HasForm (readElement (readValue depth)) p (space ++ write level p) := by
  intro rest hrest
  rw [List.append_assoc, readElement_after hs (noSpace_write _ _ _)]
  refine ⟨fun hp => ?_, fun hp => ?_⟩
  · rw [(holds_write p hp level).read hdepth rest hrest]
    rfl
  · rw [hnone hp rest hrest]
    rfl

theorem readIf_member (name : String) :
    ReadIf p.HasForm (readMember (readValue depth)) (name, p) (fieldLine level (name, p)) := by
  have hblank : AllSpace [' '] := List.forall_mem_singleton.2 rfl
  intro rest hrest
  obtain ⟨hread, hstop⟩ := readIf_element hdepth hnone hblank rest hrest
  have htext : fieldLine level (name, p) ++ rest = newLine level ++
      (quotedText name ++ ([] ++ ':' :: ([' '] ++ write level p ++ rest))) := by
    unfold fieldLine
    rw [writeField, List.append_assoc, List.append_assoc]
    rfl
  rw [htext, (quoted_quotedText name).readMember_eq (allSpace_newLine level) allSpace_nil]
  refine ⟨fun hp => ?_, fun hp => ?_⟩
  · rw [hread hp]
    rfl
  · rw [hstop hp]
    rfl

end

/-- **Where JSON has no form for something in a payload, what is written of it is not read.** -/
theorem readValue_write_eq_none : (p : Payload) → ¬ p.HasForm → {level depth : Nat} →
    (write level p).length ≤ depth → (rest : List Char) → Bounded rest →
    readValue depth (write level p ++ rest) = none
  | .null, h, _, _, _, _, _ | .bool _, h, _, _, _, _, _ | .int _, h, _, _, _, _, _
  | .text _, h, _, _, _, _, _ => absurd ⟨fun _ => nofun, rfl⟩ h
  | .list [], h, _, _, _, _, _ => absurd (Payload.hasForm_list_iff.2 (List.forall_mem_nil _)) h
  | .record [], h, _, _, _, _, _ =>
    absurd (Payload.hasForm_record_iff.2 (List.forall_mem_nil _)) h
  | .type _, _, _, depth, _, _, _ | .copy _, _, _, depth, _, _, _ => by
    cases depth with
    | zero => rfl
    | succ depth => rfl
  | .float d, h, _, _, _, _, _ => by
    have hd : ¬ (Payload.float d).Finite := fun hfinite => h ⟨hfinite, rfl⟩
    exact readValue_double_eq_none (Bool.eq_false_iff.2 (mt Payload.finite_float_iff.2 hd)) _ _
  | .list (p :: ps), h, level, depth, hdepth, rest, _ => by
    rw [write_list] at hdepth ⊢
    obtain ⟨less, rfl, hless⟩ := exists_depth hdepth
    rw [List.length_append, List.length_append] at hless
    have hitem : ∀ q ∈ p :: ps,
        ReadIf q.HasForm (readElement (readValue less)) q (itemLine (level + 1) q) := by
      intro q hq
      have hlength : (write (level + 1) q).length ≤ less := by
        have hle := length_le_of_mem_joined (itemLine (level + 1)) hq
        have hpiece : (write (level + 1) q).length ≤ (itemLine (level + 1) q).length :=
          List.length_append ▸ Nat.le_add_left _ _
        omega
      exact readIf_element hlength (fun hnot => readValue_write_eq_none q hnot hlength)
        (allSpace_newLine _)
    have hbad : ∃ q ∈ p :: ps, ¬ q.HasForm := by
      simpa only [Payload.hasForm_list_iff, not_forall, exists_prop] using h
    have hlisted := readListed_eq_none (itemLine (level + 1)) ']' (by decide)
      (startsPiece_itemLine (level + 1) p) hitem hbad (allSpace_newLine level) rest
    show (readListed ']' (readElement (readValue less)) (_ ++ _ ++ [']'] ++ rest)).map _ = none
    rw [hlisted]
    rfl
  | .record (f :: fs), h, level, depth, hdepth, rest, _ => by
    rw [write_record] at hdepth ⊢
    obtain ⟨less, rfl, hless⟩ := exists_depth hdepth
    rw [List.length_append, List.length_append] at hless
    have hfield : ∀ g ∈ f :: fs,
        ReadIf g.2.HasForm (readMember (readValue less)) g (fieldLine (level + 1) g) := by
      rintro ⟨name, q⟩ hq
      have hlength : (write (level + 1) q).length ≤ less := by
        have hle := length_le_of_mem_joined (fieldLine (level + 1)) hq
        have hpiece :
            (write (level + 1) q).length ≤ (fieldLine (level + 1) (name, q)).length := by
          unfold fieldLine
          simp only [writeField, List.length_append, List.length_cons]
          omega
        omega
      exact readIf_member hlength (fun hnot => readValue_write_eq_none q hnot hlength) name
    have hbad : ∃ g ∈ f :: fs, ¬ g.2.HasForm := by
      simpa only [Payload.hasForm_record_iff, not_forall, exists_prop] using h
    have hlisted := readListed_eq_none (fieldLine (level + 1)) '\x7d' (by decide)
      (startsPiece_fieldLine (level + 1) f) hfield hbad (allSpace_newLine level) rest
    show (readListed '\x7d' (readMember (readValue less)) (_ ++ _ ++ ['\x7d'] ++ rest)).map _ =
      none
    rw [hlisted]
    rfl
termination_by p => sizeOf p
decreasing_by
  · have := List.sizeOf_lt_of_mem hq
    simp only [Payload.list.sizeOf_spec]
    omega
  · have := List.sizeOf_lt_of_mem hq
    simp only [Payload.record.sizeOf_spec, Prod.mk.sizeOf_spec] at this ⊢
    omega

/-! ## 7. When the text of a payload is a document -/

theorem of_json {p : Payload} {text : String} (h : p.json = .ok text) :
    foreign? p = none ∧ text = .ofList (write 0 p) := by
  unfold Payload.json at h
  split at h
  · cases h
  · next hnone => exact ⟨hnone, (Except.ok.inj h).symm⟩

theorem document_of_hasForm {p : Payload} (h : p.HasForm) : Document (.ofList (write 0 p)) p := by
  have helement := Holds.element allSpace_nil (holds_write p h 0) allSpace_nil
  rw [List.append_nil, List.nil_append] at helement
  unfold Document
  rw [String.toList_ofList]
  exact helement

theorem not_document {p : Payload} (h : ¬ p.HasForm) (q : Payload) :
    ¬ Document (.ofList (write 0 p)) q := by
  intro hdocument
  have hread := hdocument.read?_eq
  have hnone := readIf_element (Nat.le_refl (write 0 p).length)
    (fun hnot => readValue_write_eq_none p hnot (Nat.le_refl _)) allSpace_nil [] nofun
  unfold read? at hread
  dsimp only at hread
  rw [String.toList_ofList] at hread
  rw [List.append_nil, List.nil_append] at hnone
  rw [hnone.2 h] at hread
  cases hread

/-- **What is written of a payload is a JSON document exactly if every double in the payload is
    finite**, and then it holds that payload and no other. -/
theorem document_json_iff {p q : Payload} {text : String} (h : p.json = .ok text) :
    Document text q ↔ p.Finite ∧ q = p := by
  obtain ⟨hforeign, rfl⟩ := of_json h
  constructor
  · intro hdocument
    have hp : p.HasForm := by
      by_contra hp
      exact not_document hp q hdocument
    have hread := (document_of_hasForm hp).read?_eq
    exact ⟨hp.1, Option.some.inj (hdocument.read?_eq.symm.trans hread)⟩
  · rintro ⟨hp, rfl⟩
    exact document_of_hasForm ⟨hp, hforeign⟩

end Json

end VisualScale
