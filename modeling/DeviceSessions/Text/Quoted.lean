import DeviceSessions.Text.Lowercase
import DeviceSessions.Text.PrintableTable
import DeviceSessions.Bytes

/-!
# Quoted text

The form of a text in diagnostics: in double quotes, with backslash escapes for quotes, controls
and everything that has no visible form of its own.
-/

namespace DeviceSessions.Text

/-- A character that diagnostics show as it is. -/
def isPlain (c : Char) : Bool :=
  let n := c.toNat
  if n < 0x7f then 0x20 ≤ n
  else !inRanges unprintableRanges n && !inRanges extendingRanges n

/-- Lower case hexadecimal without leading zeros. -/
def hexNumber (n : Nat) : List Char := Nat.toDigits 16 n

/-- One character inside the quotes. -/
def quoteChar (c : Char) : List Char :=
  if c = '"' then ['\\', '"']
  else if c = '\\' then ['\\', '\\']
  else if c = '\n' then ['\\', 'n']
  else if c = '\r' then ['\\', 'r']
  else if c = '\t' then ['\\', 't']
  else if c = '\x00' then ['\\', '0']
  else if isPlain c then [c]
  else ['\\', 'u', '\x7b'] ++ hexNumber c.toNat ++ ['\x7d']

/-- The quoted form of a text. -/
def quoted (text : String) : String :=
  String.ofList ('"' :: text.toList.flatMap quoteChar ++ ['"'])

end DeviceSessions.Text
