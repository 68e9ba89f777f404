import VisualScale.Formula.Numeral
import VisualScale.Text.CharacterNames

/-!
# Texts between quotes

Formulas hold no texts, but the wider language does, and a formula that uses one is refused for it
only if the text is well formed: it ends where it must, and every escape in it says what it must.
-/

namespace VisualScale

namespace Quote

/-! ## 1. Where a text ends -/

/-- The body of a text that one quote closes, and what follows the quote. Such a text stays on its
    line, unless a backslash takes the line end. -/
def untilQuote (quote : Char) : List Char → Option (List Char × List Char)
  | [] => none
  | '\\' :: [] => none
  | '\\' :: c :: rest => (untilQuote quote rest).map fun (body, rest) => ('\\' :: c :: body, rest)
  | c :: rest =>
    if c = quote then some ([], rest)
    else if c = '\n' then none
    else (untilQuote quote rest).map fun (body, rest) => (c :: body, rest)

/-- The body of a text that three quotes close, and what follows them. -/
def untilTripleQuote (quote : Char) : List Char → Option (List Char × List Char)
  | [] => none
  | '\\' :: [] => none
  | '\\' :: c :: rest =>
    (untilTripleQuote quote rest).map fun (body, rest) => ('\\' :: c :: body, rest)
  | c :: rest =>
    if c = quote ∧ [quote, quote].isPrefixOf rest then some ([], rest.drop 2)
    else (untilTripleQuote quote rest).map fun (body, rest) => (c :: body, rest)

/-- The body of a text behind its first quote, and what follows its last one. -/
def body (quote : Char) (cs : List Char) : Option (List Char × List Char) :=
  if [quote, quote].isPrefixOf cs then untilTripleQuote quote (cs.drop 2)
  else untilQuote quote cs

/-! ## 2. Escapes -/

/-- The text begins with so many digits of base sixteen, and they write no more than `most`. -/
def hexFollows (count most : Nat) (cs : List Char) : Bool :=
  let ds := cs.take count
  ds.length == count && ds.all Numeral.isHexDigit && Decimal.ofDigits 16 ds ≤ most

/-- A name in braces that is the name of a character, in capitals or not. -/
def namedFollows : List Char → Bool
  | '\x7b' :: cs =>
    let name := cs.takeWhile (· != '\x7d')
    name.length < cs.length &&
      Text.isCharacterName (String.ofList (name.map Char.toUpper))
  | _ => false

/-- Every escape in the body of a text says what it must. Bodies of bytes know fewer escapes. -/
def escapesFit (bytes : Bool) : List Char → Bool
  | '\\' :: c :: rest =>
    (if c = 'x' then hexFollows 2 0xff rest
      else if bytes then true
      else if c = 'u' then hexFollows 4 0xffff rest
      else if c = 'U' then hexFollows 8 0x10ffff rest
      else if c = 'N' then namedFollows rest
      else true) && escapesFit bytes rest
  | _ :: rest => escapesFit bytes rest
  | [] => true

/-! ## 3. Letters before a text -/

/-- What the letters before the first quote make of a text. -/
structure Style where
  bytes : Bool
  raw : Bool
  template : Bool
  deriving DecidableEq, Repr

/-- The style that letters before a quote ask for; `none` if they are no such letters. -/
def styleOf (letters : List Char) : Option Style :=
  match letters.map Char.toLower with
  | [] | ['u'] => some ⟨false, false, false⟩
  | ['b'] => some ⟨true, false, false⟩
  | ['r'] => some ⟨false, true, false⟩
  | ['f'] => some ⟨false, false, true⟩
  | ['b', 'r'] | ['r', 'b'] => some ⟨true, true, false⟩
  | ['f', 'r'] | ['r', 'f'] => some ⟨false, true, true⟩
  | _ => none

/-- The lexeme of a text with its body, if its characters and escapes fit its style. -/
def lexeme? (style : Style) (body : List Char) : Option Lexeme :=
  if style.template then some (.other (.template style.raw body))
  else if style.bytes && !body.all (·.toNat < 128) then none
  else if !style.raw && !escapesFit style.bytes body then none
  else some (.other (.text style.bytes))

/-- The text at the first quote of `cs`, behind letters that ask for a style, and what follows. -/
def scan (style : Style) (quote : Char) (cs : List Char) : Option (Lexeme × List Char) := do
  let (body, rest) ← body quote cs
  let lexeme ← lexeme? style body
  some (lexeme, rest)

end Quote

end VisualScale
