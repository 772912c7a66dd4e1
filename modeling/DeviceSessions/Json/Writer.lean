import DeviceSessions.Bytes
import DeviceSessions.Json.Basic

/-!
# Writing JSON

The shortest form, without white space, and an indented one for people.
-/

namespace DeviceSessions.Json

/-- The escape of a character in quotes, or the character itself. -/
def escapeChar (c : Char) : List Char :=
  if c = '"' then ['\\', '"']
  else if c = '\\' then ['\\', '\\']
  else if c = '\n' then ['\\', 'n']
  else if c = '\r' then ['\\', 'r']
  else if c = '\t' then ['\\', 't']
  else if c = '\x08' then ['\\', 'b']
  else if c = '\x0c' then ['\\', 'f']
  else if c.toNat < 0x20 then ['\\', 'u', '0', '0'] ++ Bytes.hexPair (UInt8.ofNat c.toNat)
  else [c]

/-- A text in quotes. -/
def writeText (s : String) : List Char := '"' :: s.toList.flatMap escapeChar ++ ['"']

/-- A quoted text; one that stands for no characters is written as the empty text. -/
def writeQuoted (s : Quoted) : List Char := writeText (s.text?.getD "")

/-- A number; one that was not plain is written with an exponent. -/
def writeNumber (n : Number) : List Char :=
  (if n.negative then ['-'] else []) ++ Nat.toDigits 10 n.digits ++
    if n.plain then [] else 'e' :: (toString n.scale).toList

mutual

/-- The shortest form of a value. -/
def writeList : Json → List Char
  | .null => "null".toList
  | .bool true => "true".toList
  | .bool false => "false".toList
  | .number n => writeNumber n
  | .string s => writeQuoted s
  | .array [] => ['[', ']']
  | .array (item :: items) => '[' :: writeList item ++ writeItems items
  | .object [] => ['\x7b', '\x7d']
  | .object ((key, value) :: entries) =>
    '\x7b' :: writeQuoted key ++ ':' :: writeList value ++ writeEntries entries

/-- The values after the first, and the closing bracket. -/
def writeItems : List Json → List Char
  | [] => [']']
  | item :: items => ',' :: writeList item ++ writeItems items

/-- The entries after the first, and the closing brace. -/
def writeEntries : List (Quoted × Json) → List Char
  | [] => ['\x7d']
  | (key, value) :: entries =>
    ',' :: writeQuoted key ++ ':' :: writeList value ++ writeEntries entries

end

/-- The shortest form of a value. -/
def write (j : Json) : String := String.ofList (writeList j)

/-- A line break and two blanks for each level. -/
def indent (level : Nat) : List Char := '\n' :: List.replicate (2 * level) ' '

mutual

/-- The indented form of a value that starts at a level. -/
def prettyList (level : Nat) : Json → List Char
  | .array (item :: items) =>
    '[' :: indent (level + 1) ++ prettyList (level + 1) item ++ prettyItems level items
  | .object ((key, value) :: entries) =>
    '\x7b' :: indent (level + 1) ++ writeQuoted key ++ ':' :: ' ' ::
      prettyList (level + 1) value ++ prettyEntries level entries
  | .null => writeList .null
  | .bool b => writeList (.bool b)
  | .number n => writeList (.number n)
  | .string s => writeList (.string s)
  | .array [] => writeList (.array [])
  | .object [] => writeList (.object [])

/-- The values after the first, one a line, and the closing bracket. -/
def prettyItems (level : Nat) : List Json → List Char
  | [] => indent level ++ [']']
  | item :: items =>
    ',' :: indent (level + 1) ++ prettyList (level + 1) item ++ prettyItems level items

/-- The entries after the first, one a line, and the closing brace. -/
def prettyEntries (level : Nat) : List (Quoted × Json) → List Char
  | [] => indent level ++ ['\x7d']
  | (key, value) :: entries =>
    ',' :: indent (level + 1) ++ writeQuoted key ++ ':' :: ' ' ::
      prettyList (level + 1) value ++ prettyEntries level entries

end

/-- The indented form of a value. -/
def pretty (j : Json) : String := String.ofList (prettyList 0 j)

end DeviceSessions.Json
