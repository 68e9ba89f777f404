import VisualScale.Json
import VisualScale.Formula.Numeral
import VisualScale.Proofs.Number.Digits

/-!
# The grammar of JSON

Which texts are JSON documents, and which payloads they hold (`Json.Holds`):

    document = element
    element  = space value space
    value    = 'null' | 'true' | 'false' | number | text
             | '[' (space | element {',' element}) ']'
             | '\x7b' (space | member {',' member}) '\x7d'
    member   = space text space ':' element
    number   = ['-'] whole ['.' digits] [('e' | 'E') ['+' | '-'] digits]
    whole    = '0' | digits that no zero leads
    text     = '"' {character} '"'

A number with a fraction or a power of ten is the double nearest to it, and every other number is an
integer. The characters of a text stand for UTF-16 units: a character by itself for its own ones, a
backslash with a letter or sign for one that has a short name, and a backslash with `u` and four
digits for the one that these number. Two units that are no pair are read as U+FFFD.

Nothing here says how a text is read, and nothing mentions how payloads are written.
-/

namespace VisualScale

open Decimal (AllDigits Leading ofDigits)

namespace Json

/-! ## 1. Space -/

/-- Blanks, tabs and line ends may stand around a value. -/
def isSpace (c : Char) : Bool := c == ' ' || c == '\t' || c == '\n' || c == '\r'

/-- The text is nothing but space. -/
def AllSpace (cs : List Char) : Prop := ∀ c ∈ cs, isSpace c = true

/-! ## 2. Numbers -/

/-- Digits that write a whole number: a zero alone, or digits that no zero leads. -/
def IsWhole (ds : List Char) : Prop := ds = ['0'] ∨ Leading ds

/-- The fraction of a number, with its point. -/
inductive Fraction : List Char → Option (List Char) → Prop where
  | absent : Fraction [] none
  | digits {ds : List Char} (hd : AllDigits ds) (hne : ds ≠ []) : Fraction ('.' :: ds) (some ds)

/-- The sign of a power of ten; it may be left out where it is plus. -/
inductive PowerSign : List Char → Bool → Prop where
  | absent : PowerSign [] false
  | plus : PowerSign ['+'] false
  | minus : PowerSign ['-'] true

/-- A whole number with or without a minus sign. -/
def signed (negative : Bool) (n : Nat) : Int := if negative then -n else n

/-- The power of ten of a number, with the letter before it. -/
inductive Power : List Char → Option Int → Prop where
  | absent : Power [] none
  | digits {mark : Char} {sign ds : List Char} {negative : Bool} (hmark : mark = 'e' ∨ mark = 'E')
      (hsign : PowerSign sign negative) (hd : AllDigits ds) (hne : ds ≠ []) :
      Power (mark :: (sign ++ ds)) (some (signed negative (ofDigits 10 ds)))

/-- What a number is, from its sign and its parts. -/
def numberOf (negative : Bool) (whole : List Char) : Option (List Char) → Option Int → Payload
  | none, none => .int (signed negative (ofDigits 10 whole))
  | fraction, power =>
    .float ((Decimal.ofParts whole (fraction.getD []) (power.getD 0)).toDouble negative)

/-- The sign of a number. -/
def minusSign (negative : Bool) : List Char := if negative then ['-'] else []

/-- A text is a number. -/
inductive Number : List Char → Payload → Prop where
  | parts (negative : Bool) {ds fs ps : List Char} {fraction : Option (List Char)}
      {power : Option Int} (hd : IsWhole ds) (hf : Fraction fs fraction) (hp : Power ps power) :
      Number (minusSign negative ++ (ds ++ (fs ++ ps))) (numberOf negative ds fraction power)

/-! ## 3. Texts -/

/-- The UTF-16 units of a character. -/
def utf16 (c : Char) : List Nat :=
  let n := c.toNat
  if n < 0x10000 then [n] else [0xd800 + (n - 0x10000) / 0x400, 0xdc00 + (n - 0x10000) % 0x400]

/-- The unit is the first one of a pair. -/
def isHigh (u : Nat) : Bool := 0xd800 ≤ u && u < 0xdc00

/-- The unit is the second one of a pair. -/
def isLow (u : Nat) : Bool := 0xdc00 ≤ u && u < 0xe000

/-- The character of a unit that is no part of a pair. -/
def single (u : Nat) : Char := if isHigh u || isLow u then '\ufffd' else Char.ofNat u

/-- The characters of UTF-16 units. -/
def ofUtf16 : List Nat → List Char
  | [] => []
  | [u] => [single u]
  | u :: v :: rest =>
    if isHigh u && isLow v then
      Char.ofNat (0x10000 + (u - 0xd800) * 0x400 + (v - 0xdc00)) :: ofUtf16 rest
    else single u :: ofUtf16 (v :: rest)

/-- The text of UTF-16 units. -/
def textOf (units : List Nat) : String := .ofList (ofUtf16 units)

/-- The character may stand in a text by itself. -/
def isPlain (c : Char) : Bool := 0x20 ≤ c.toNat && c != '"' && c != '\\'

/-- The unit that a backslash and a letter or sign stand for. -/
def shortUnit? : Char → Option Nat
  | '"' => some 0x22
  | '\\' => some 0x5c
  | '/' => some 0x2f
  | 'b' => some 0x08
  | 'f' => some 0x0c
  | 'n' => some 0x0a
  | 'r' => some 0x0d
  | 't' => some 0x09
  | _ => none

/-- What stands between the quotes of a text, and the units that it stands for. -/
inductive Characters : List Char → List Nat → Prop where
  | nil : Characters [] []
  | plain {c : Char} {cs : List Char} {units : List Nat} (hc : isPlain c = true)
      (h : Characters cs units) : Characters (c :: cs) (utf16 c ++ units)
  | short {c : Char} {u : Nat} {cs : List Char} {units : List Nat} (hc : shortUnit? c = some u)
      (h : Characters cs units) : Characters ('\\' :: c :: cs) (u :: units)
  | numbered {a b c d : Char} {cs : List Char} {units : List Nat}
      (hd : [a, b, c, d].all Numeral.isHexDigit = true) (h : Characters cs units) :
      Characters ('\\' :: 'u' :: a :: b :: c :: d :: cs) (ofDigits 16 [a, b, c, d] :: units)

/-- A text with its quotes. -/
inductive Quoted : List Char → String → Prop where
  | characters {cs : List Char} {units : List Nat} (h : Characters cs units) :
      Quoted ('"' :: (cs ++ ['"'])) (textOf units)

/-! ## 4. Values -/

/-- The symbols of the grammar, with what they hold. -/
inductive Part where
  | value (p : Payload)
  | element (p : Payload)
  | member (name : String) (p : Payload)

/-- Texts with a comma between them. -/
def separated : List (List Char) → List Char
  | [] => []
  | [cs] => cs
  | cs :: rest => cs ++ ',' :: separated rest

/-- **A text is a part of a document.** -/
inductive Holds : List Char → Part → Prop where
  | null : Holds ['n', 'u', 'l', 'l'] (.value .null)
  | true : Holds ['t', 'r', 'u', 'e'] (.value (.bool true))
  | false : Holds ['f', 'a', 'l', 's', 'e'] (.value (.bool false))
  | number {cs : List Char} {p : Payload} (h : Number cs p) : Holds cs (.value p)
  | text {cs : List Char} {s : String} (h : Quoted cs s) : Holds cs (.value (.text s))
  | noItems {space : List Char} (hs : AllSpace space) :
      Holds ('[' :: (space ++ [']'])) (.value (.list []))
  | items {pieces : List (List Char × Payload)} (hne : pieces ≠ [])
      (h : ∀ a ∈ pieces, Holds a.1 (.element a.2)) :
      Holds ('[' :: (separated (pieces.map Prod.fst) ++ [']']))
        (.value (.list (pieces.map Prod.snd)))
  | noFields {space : List Char} (hs : AllSpace space) :
      Holds ('\x7b' :: (space ++ ['\x7d'])) (.value (.record []))
  | fields {pieces : List (List Char × String × Payload)} (hne : pieces ≠ [])
      (h : ∀ a ∈ pieces, Holds a.1 (.member a.2.1 a.2.2)) :
      Holds ('\x7b' :: (separated (pieces.map Prod.fst) ++ ['\x7d']))
        (.value (.record (pieces.map Prod.snd)))
  | element {before cs behind : List Char} {p : Payload} (hb : AllSpace before)
      (h : Holds cs (.value p)) (hb' : AllSpace behind) :
      Holds (before ++ (cs ++ behind)) (.element p)
  | member {before name behind cs : List Char} {s : String} {p : Payload} (hb : AllSpace before)
      (hname : Quoted name s) (hb' : AllSpace behind) (h : Holds cs (.element p)) :
      Holds (before ++ (name ++ (behind ++ ':' :: cs))) (.member s p)

/-- **A text is a JSON document that holds a payload.** -/
def Document (text : String) (p : Payload) : Prop := Holds text.toList (.element p)

end Json

end VisualScale
