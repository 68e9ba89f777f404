import VisualScale.Formula.Quote

/-!
# Texts with expressions in them

A template is a text in which braces enclose expressions. It is well formed if every expression in
it is, if braces that are meant as such are doubled, and if what may follow an expression before its
closing brace has the right form: an equals sign, then a conversion, then a format, which may hold
expressions again, but only one level deep.
-/

namespace VisualScale

namespace Template

/-- A brace that opens. -/
def openBrace : Char := '\x7b'

/-- A brace that closes. -/
def closeBrace : Char := '\x7d'

/-- The characters that may surround the words of an expression. -/
def isSpace (c : Char) : Bool := c == ' ' || c == '\t' || c == '\n' || c == '\x0c'

/-- The blanks that may follow an equals sign. -/
def isBlankAfterEquals (c : Char) : Bool := isSpace c || c == '\r' || c == '\x0b'

/-! ## 1. Expressions -/

/-- The bracket that a closing bracket closes. -/
def openerOf (c : Char) : Option Char :=
  if c = ')' then some '(' else if c = ']' then some '['
  else if c = closeBrace then some openBrace else none

/-- The quotes that are open inside an expression. -/
inductive Quoting where
  | outside
  | single (quote : Char)
  | triple (quote : Char)

/-- The text of an expression up to the character that ends it, and the text from there on. Outside
    quotes and brackets a colon, a closing brace, an exclamation mark or an equals sign ends it,
    unless the last two are part of a comparison. -/
def untilEnd : (fuel : Nat) → Quoting → (opened : List Char) → List Char →
    Option (List Char × List Char)
  | 0, _, _, _ | _, _, _, [] => none
  | fuel + 1, q, opened, c :: rest =>
    let go (q : Quoting) (opened : List Char) (n : Nat) : Option (List Char × List Char) :=
      (untilEnd fuel q opened (rest.drop n)).map fun (text, rest') =>
        (c :: (rest.take n ++ text), rest')
    if c = '\\' then none
    else match q with
      | .single quote => go (if c = quote then .outside else q) opened 0
      | .triple quote =>
        if c = quote ∧ [quote, quote].isPrefixOf rest then go .outside opened 2 else go q opened 0
      | .outside =>
        if c = '\'' ∨ c = '"' then
          if [c, c].isPrefixOf rest then go (.triple c) opened 2 else go (.single c) opened 0
        else if c = '(' ∨ c = '[' ∨ c = openBrace then
          if opened.length < 200 then go q (c :: opened) 0 else none
        else if c = '#' then none
        else if opened.isEmpty ∧ (c = '!' ∨ c = '=' ∨ c = '<' ∨ c = '>') ∧
            rest.head? = some '=' then
          go q opened 1
        else if opened.isEmpty ∧ (c = '!' ∨ c = ':' ∨ c = closeBrace ∨ c = '=') then
          some ([], c :: rest)
        else match openerOf c with
          | some opener =>
            match opened with
            | top :: opened => if top = opener then go q opened 0 else none
            | [] => none
          | none => go q opened 0

/-! ## 2. Literal parts -/

/-- How a literal part ends. -/
inductive PartEnd where
  /-- At a doubled brace, which belongs to the text. -/
  | doubled
  /-- At a brace, or where the template ends. -/
  | brace

/-- A literal part of a template, how it ends, and the text from there on. A brace behind a
    backslash is a brace all the same, but not in the name of a character. Inside a format, braces
    are not doubled. -/
def literalPart : (fuel : Nat) → (raw nested : Bool) → List Char →
    Option (List Char × PartEnd × List Char)
  | 0, _, _, _ => none
  | _, _, _, [] => some ([], .brace, [])
  | fuel + 1, raw, nested, c :: rest =>
    let more (taken : List Char) (rest : List Char) : Option (List Char × PartEnd × List Char) :=
      (literalPart fuel raw nested rest).map fun (text, e, rest') => (taken ++ text, e, rest')
    let brace (before : List Char) (b : Char) (rest : List Char) :
        Option (List Char × PartEnd × List Char) :=
      if !nested && rest.head? == some b then some (before ++ [b], .doubled, rest.drop 1)
      else if !nested && b == closeBrace then none
      else some (before, .brace, b :: rest)
    if !raw && c == '\\' then
      match rest with
      | [] => more [c] []
      | 'N' :: more' =>
        match more' with
        | b :: named =>
          if b = openBrace then
            let name := named.takeWhile (· != closeBrace)
            let behind := named.drop (name.length + 1)
            more (c :: 'N' :: b :: named.take (name.length + 1)) behind
          else more (c :: 'N' :: [b]) named
        | [] => more (c :: ['N']) []
      | d :: rest =>
        if d = openBrace ∨ d = closeBrace then brace [c] d rest else more [c, d] rest
    else if c = openBrace ∨ c = closeBrace then brace [] c rest
    else more [c] rest

/-! ## 3. Templates -/

/-- The text behind the equals sign of an expression, if it has one. -/
def afterEquals : List Char → List Char
  | '=' :: rest => rest.dropWhile isBlankAfterEquals
  | cs => cs

/-- The text behind the conversion of an expression, if it has one. -/
def afterConversion : List Char → Option (List Char)
  | '!' :: c :: rest => if c = 's' ∨ c = 'r' ∨ c = 'a' then some rest else none
  | '!' :: [] => none
  | cs => some cs

/-- The text behind a template: nothing, or what begins with the brace that closes a format.
    `accepts` tells whether a text is an expression, and `level` counts the formats around. -/
def behind (accepts : List Char → Bool) : (fuel : Nat) → (raw : Bool) → (level : Nat) →
    List Char → Option (List Char)
  | 0, _, _, _ => none
  | fuel + 1, raw, level, cs => do
    let (text, partEnd, rest) ← literalPart (cs.length + 1) raw (level != 0) cs
    if !raw && !Quote.escapesFit false text then none
    else match partEnd with
      | .doubled => behind accepts fuel raw level rest
      | .brace =>
        match rest with
        | [] => some []
        | c :: rest =>
          if c = closeBrace then some (c :: rest)
          else if 2 ≤ level then none
          else do
            let (expr, rest) ← untilEnd (rest.length + 1) .outside [] rest
            if expr.all isSpace || !accepts expr then none
            else do
              let rest ← afterConversion (afterEquals rest)
              let rest ← match rest with
                | ':' :: [] => none
                | ':' :: format => behind accepts fuel raw (level + 1) format
                | rest => some rest
              match rest with
              | c :: rest => if c = closeBrace then behind accepts fuel raw level rest else none
              | [] => none

/-- The template is well formed. -/
def fits (accepts : List Char → Bool) (raw : Bool) (body : List Char) : Bool :=
  behind accepts (body.length + 1) raw 0 body == some []

end Template

end VisualScale
