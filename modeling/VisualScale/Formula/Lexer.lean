import VisualScale.Formula.Quote
import VisualScale.Text.Compatibility

/-!
# From text to words

`lex` takes a formula apart into its words, each with the place where it stands. Blanks, comments
and line breaks inside brackets go away; a backslash takes away the line end behind it; outside
brackets a line end ends the formula, and only comments may follow. The first word stands at the
start of its line. Brackets must close in order, and no more than 200 may be open at once.

There is one way to fail, `none`: whatever is wrong with the words, the text is no formula.
-/

namespace VisualScale

namespace Lexer

/-! ## 1. Names -/

/-- The reserved words. -/
def keywords : List String :=
  [ "False", "None", "True", "and", "as", "assert", "async", "await", "break", "class", "continue"
  , "def", "del", "elif", "else", "except", "finally", "for", "from", "global", "if", "import", "in"
  , "is", "lambda", "nonlocal", "not", "or", "pass", "raise", "return", "try", "while", "with"
  , "yield" ]

/-- The word is reserved. -/
def isKeyword (word : List Char) : Bool := keywords.any fun k => k.toList == word

/-- The lexeme of a word of letters, digits and underscores. Reserved words are known by their exact
    spelling, names by their normalized one. -/
def wordLexeme (word : List Char) : Option Lexeme :=
  if isKeyword word then some (.other (.keyword (.ofList word)))
  else if Text.isIdentifier word then some (.name (.ofList (Text.normalized word)))
  else none

/-! ## 2. Signs -/

/-- The signs of three characters. -/
def signs3 : List (List Char) :=
  [['*', '*', '='], ['/', '/', '='], ['>', '>', '='], ['<', '<', '='], ['.', '.', '.']]

/-- The signs of two characters. -/
def signs2 : List (List Char) :=
  [ ['!', '='], ['%', '='], ['&', '='], ['*', '*'], ['*', '='], ['+', '='], ['-', '='], ['-', '>']
  , ['/', '/'], ['/', '='], [':', '='], ['<', '<'], ['<', '='], ['=', '='], ['>', '='], ['>', '>']
  , ['@', '='], ['^', '='], ['|', '='] ]

/-- The signs of one character that are no marks. -/
def signs1 : List Char :=
  ['%', '&', ':', ';', '<', '=', '>', '@', '[', ']', '^', '\x7b', '|', '\x7d', '~']

/-- The mark that a character is. -/
def markOf : Char → Option Mark
  | '+' => some .plus
  | '-' => some .minus
  | '*' => some .times
  | '/' => some .over
  | '.' => some .dot
  | ',' => some .comma
  | '(' => some .opening
  | ')' => some .closing
  | _ => none

/-- The longest sign at the start of a text, and its length. -/
def sign? (cs : List Char) : Option (Lexeme × Nat) :=
  if signs3.contains (cs.take 3) then some (.other (.sign (.ofList (cs.take 3))), 3)
  else if signs2.contains (cs.take 2) then some (.other (.sign (.ofList (cs.take 2))), 2)
  else if ['<', '>'].isPrefixOf cs then none
  else match cs with
    | c :: _ =>
      match markOf c with
      | some m => some (.mark m, 1)
      | none => if signs1.contains c then some (.other (.sign (.singleton c)), 1) else none
    | [] => none

/-! ## 3. Words -/

/-- The character may begin a name. -/
def isWordStart (c : Char) : Bool := c.isAlpha || c == '_' || 128 ≤ c.toNat

/-- The character is a quote. -/
def isQuote (c : Char) : Bool := c == '"' || c == '\''

/-- A word of letters, or a text between quotes that the letters belong to. -/
def wordOrText (cs : List Char) : Option (Lexeme × List Char) :=
  let word := cs.takeWhile Numeral.isWordChar
  let rest := cs.dropWhile Numeral.isWordChar
  match rest with
  | c :: more =>
    if isQuote c then
      match Quote.styleOf word with
      | some style => Quote.scan style c more
      | none => (wordLexeme word).map (·, rest)
    else (wordLexeme word).map (·, rest)
  | [] => (wordLexeme word).map (·, [])

/-- The lexeme at the start of a text without blanks before it, and the text behind it. -/
def lexeme? (cs : List Char) : Option (Lexeme × List Char) :=
  match cs with
  | [] => none
  | c :: rest =>
    if isWordStart c || isQuote c then wordOrText cs
    else if c.isDigit || (c == '.' && rest.head?.any Char.isDigit) then Numeral.scan cs
    else (sign? cs).map fun (lexeme, n) => (lexeme, cs.drop n)

/-! ## 4. Brackets -/

/-- The greatest number of brackets that may be open at once. -/
def maxOpen : Nat := 200

/-- The open brackets, innermost first, behind a lexeme. -/
def bracketsAfter (opened : List Char) : Lexeme → Option (List Char)
  | .mark .opening => push '('
  | .mark .closing => pop '('
  | .other (.sign "[") => push '['
  | .other (.sign "]") => pop '['
  | .other (.sign "\x7b") => push '\x7b'
  | .other (.sign "\x7d") => pop '\x7b'
  | _ => some opened
where
  /-- One more bracket. -/
  push (c : Char) : Option (List Char) :=
    if opened.length < maxOpen then some (c :: opened) else none
  /-- The innermost bracket closes. -/
  pop (c : Char) : Option (List Char) :=
    match opened with
    | d :: rest => if c = d then some rest else none
    | [] => none

/-! ## 5. Lines -/

/-- The character is a blank inside a line. -/
def isSpace (c : Char) : Bool := c == ' ' || c == '\t' || c == '\x0c'

/-- How far a line is indented, as its first word sees it: the width so far, and the width before
    the first backslash that joined it to the next line. -/
structure Indent where
  width : Nat
  joined : Nat

/-- The width of an indentation. -/
def Indent.total (i : Indent) : Nat := if i.joined ≠ 0 then i.joined else i.width

/-- One more blank: a tab goes on to the next multiple of eight, a form feed begins anew. -/
def Indent.blank (i : Indent) (c : Char) : Indent :=
  if c = '\t' then { i with width := (i.width / 8 + 1) * 8 }
  else if c = '\x0c' then { i with width := 0 }
  else { i with width := i.width + 1 }

/-- The position and the text from the first word on, behind blank lines and comments; `none` if the
    word is indented or a backslash joins nothing. -/
def toFirstWord (p : Position) (inComment : Bool) (i : Indent) :
    List Char → Option (Position × List Char)
  | [] => some (p, [])
  | '\\' :: rest =>
    if inComment then toFirstWord (p.after ['\\']) true i rest
    else match rest with
      | '\n' :: c :: more =>
        let joined := if i.joined ≠ 0 then i.joined else i.width
        toFirstWord (p.after ['\\', '\n']) false { i with joined } (c :: more)
      | _ => none
  | c :: rest =>
    if c = '\n' then toFirstWord (p.after [c]) false ⟨0, 0⟩ rest
    else if inComment || c == '#' then toFirstWord (p.after [c]) true i rest
    else if isSpace c then toFirstWord (p.after [c]) false (i.blank c) rest
    else if i.total = 0 then some (p, c :: rest) else none

/-- Only blank lines and comments are left. -/
def onlyComments (inComment : Bool) : List Char → Bool
  | [] => true
  | '\\' :: rest =>
    if inComment then onlyComments true rest
    else match rest with
      | '\n' :: c :: more => onlyComments false (c :: more)
      | _ => false
  | c :: rest =>
    if c = '\n' then onlyComments false rest
    else if inComment || c == '#' then onlyComments true rest
    else isSpace c && onlyComments false rest

/-! ## 6. The words of a text -/

/-- The words from a position on, with brackets open. Every step takes up a character at least, so
    `fuel` need not exceed the length of the text. -/
def words : (fuel : Nat) → Position → (opened : List Char) → List Char → Option (List Token)
  | _, _, opened, [] => if opened.isEmpty then some [] else none
  | 0, _, _, _ :: _ => none
  | fuel + 1, p, opened, c :: rest =>
    if isSpace c then words fuel (p.after [c]) opened rest
    else if c = '#' then
      let comment := (c :: rest).takeWhile (· != '\n')
      words fuel (p.after comment) opened ((c :: rest).dropWhile (· != '\n'))
    else if c = '\n' then
      if opened.isEmpty then (if onlyComments false rest then some [] else none)
      else words fuel (p.after [c]) opened rest
    else if c = '\\' then
      match rest with
      | '\n' :: d :: more => words fuel (p.after ['\\', '\n']) opened (d :: more)
      | _ => none
    else do
      let (lexeme, behind) ← lexeme? (c :: rest)
      let taken := (c :: rest).take ((c :: rest).length - behind.length)
      let stop := p.after taken
      let opened ← bracketsAfter opened lexeme
      let tokens ← words fuel stop opened behind
      some (⟨lexeme, ⟨p, stop⟩⟩ :: tokens)

/-- A text with every line end written as a line feed. -/
def unifyLineEnds : List Char → List Char
  | [] => []
  | '\r' :: '\n' :: rest => '\n' :: unifyLineEnds rest
  | c :: rest => (if c = '\r' then '\n' else c) :: unifyLineEnds rest

/-- The words of a formula. -/
def lex (cs : List Char) : Option (List Token) := do
  let (p, rest) ← toFirstWord ⟨1, 0⟩ false ⟨0, 0⟩ (unifyLineEnds cs)
  words rest.length p [] rest

end Lexer

end VisualScale
