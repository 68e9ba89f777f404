import VisualScale.Payload

/-!
# Payloads as JSON text

How a payload is written to a file: fields and items on lines of their own, indented by two blanks
for each level, with nothing but printable ASCII between them. Any other character is written by the
numbers of its UTF-16 units. Doubles are written by their shortest text; those that are not finite
have names, which JSON itself does not know. A payload with a value type itself or with a copy of a
binding is not written at all.
-/

namespace VisualScale

namespace Json

/-! ## 1. Texts -/

/-- A UTF-16 unit by its number. -/
def unit (n : Nat) : List Char :=
  '\\' :: 'u' ::
    [ Nat.digitChar (n / 4096 % 16), Nat.digitChar (n / 256 % 16), Nat.digitChar (n / 16 % 16)
    , Nat.digitChar (n % 16) ]

/-- A character by the numbers of its one or two UTF-16 units. -/
def units (c : Char) : List Char :=
  let n := c.toNat
  if n < 0x10000 then unit n
  else unit (0xd800 + (n - 0x10000) / 0x400) ++ unit (0xdc00 + (n - 0x10000) % 0x400)

/-- A character inside a text. -/
def escaped (c : Char) : List Char :=
  if c = '"' then ['\\', '"']
  else if c = '\\' then ['\\', '\\']
  else if c = '\n' then ['\\', 'n']
  else if c = '\r' then ['\\', 'r']
  else if c = '\t' then ['\\', 't']
  else if c = '\x08' then ['\\', 'b']
  else if c = '\x0c' then ['\\', 'f']
  else if 0x20 ≤ c.toNat ∧ c.toNat < 0x7f then [c]
  else units c

/-- A text between its quotes. -/
def quotedText (s : String) : List Char := '"' :: (s.toList.flatMap escaped ++ ['"'])

/-! ## 2. Numbers -/

/-- A double. -/
def double : Double → List Char
  | .nan => ['N', 'a', 'N']
  | .infinity false => ['I', 'n', 'f', 'i', 'n', 'i', 't', 'y']
  | .infinity true => ['-', 'I', 'n', 'f', 'i', 'n', 'i', 't', 'y']
  | d => d.text.toList

/-! ## 3. Trees -/

/-- A line end and the indentation of a level. -/
def newLine (level : Nat) : List Char := '\n' :: List.replicate (2 * level) ' '

mutual

/-- A payload at a level of indentation. -/
def write (level : Nat) : Payload → List Char
  | .null => ['n', 'u', 'l', 'l']
  | .bool true => ['t', 'r', 'u', 'e']
  | .bool false => ['f', 'a', 'l', 's', 'e']
  | .int n => intText n
  | .float d => double d
  | .text s => quotedText s
  | .list [] => ['[', ']']
  | .list (p :: rest) =>
    '[' :: (newLine (level + 1) ++ write (level + 1) p ++ writeItems (level + 1) rest ++
      newLine level ++ [']'])
  | .record [] => ['\x7b', '\x7d']
  | .record (f :: rest) =>
    '\x7b' :: (newLine (level + 1) ++ writeField (level + 1) f ++ writeFields (level + 1) rest ++
      newLine level ++ ['\x7d'])
  -- What JSON has no form for; `Payload.json` lets none of it through.
  | .type _ | .copy _ => ['?']

/-- One field. -/
def writeField (level : Nat) : String × Payload → List Char
  | (name, p) => quotedText name ++ ':' :: ' ' :: write level p

/-- The items behind the first. -/
def writeItems (level : Nat) : List Payload → List Char
  | [] => []
  | p :: rest => ',' :: (newLine level ++ write level p ++ writeItems level rest)

/-- The fields behind the first. -/
def writeFields (level : Nat) : List (String × Payload) → List Char
  | [] => []
  | f :: rest => ',' :: (newLine level ++ writeField level f ++ writeFields level rest)

end

/-! ## 4. What is not written -/

mutual

/-- The first object in a payload that JSON has no form for, by its kind. -/
def foreign? : Payload → Option String
  | .type _ => some "ValueType"
  | .copy _ => some "Scale"
  | .list items => foreignItem? items
  | .record fields => foreignField? fields
  | _ => none

/-- The first one in items. -/
def foreignItem? : List Payload → Option String
  | [] => none
  | p :: rest => (foreign? p).or (foreignItem? rest)

/-- The first one in fields. -/
def foreignField? : List (String × Payload) → Option String
  | [] => none
  | (_, p) :: rest => (foreign? p).or (foreignField? rest)

end

end Json

/-- The text of a payload. -/
def Payload.json (p : Payload) : Except Fault String :=
  match Json.foreign? p with
  | some noun => .error (.notStorable noun)
  | none => .ok (.ofList (Json.write 0 p))

end VisualScale
