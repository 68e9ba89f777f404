/-!
# Quoted texts

How a message shows a text that it speaks about: between quotes, so that its ends and its line
breaks are seen. Single quotes are used, unless the text holds a single quote and no double one.
-/

namespace VisualScale.Text

/-- The quote that encloses a text. -/
def quoteFor (cs : List Char) : Char :=
  if cs.contains '\'' && !cs.contains '"' then '"' else '\''

/-- Two hexadecimal digits of a number below 256. -/
def twoHexDigits (n : Nat) : List Char := [Nat.digitChar (n / 16), Nat.digitChar (n % 16)]

/-- A character between quotes: a backslash stands before the quote and itself, and tabs, line ends
    and other control characters are written by name or number. -/
def quotedChar (quote c : Char) : List Char :=
  if c = quote ∨ c = '\\' then ['\\', c]
  else if c = '\t' then ['\\', 't']
  else if c = '\n' then ['\\', 'n']
  else if c = '\r' then ['\\', 'r']
  else if c.toNat < 0x20 ∨ c.toNat = 0x7f then '\\' :: 'x' :: twoHexDigits c.toNat
  else [c]

/-- A text between quotes. -/
def quoted (text : String) : String :=
  let cs := text.toList
  let quote := quoteFor cs
  .ofList (quote :: (cs.flatMap (quotedChar quote) ++ [quote]))

end VisualScale.Text
