import DeviceSessions.Bytes
import DeviceSessions.Text.Ascii

/-!
# Addresses

Which texts are addresses of the Internet protocol: four decimal numbers with points between them,
or a literal of version 6.
-/

namespace DeviceSessions.Address

open Text

/-- A number up to 255 with any number of zeros in front. -/
def isSegment (cs : List Char) : Bool := !cs.isEmpty && cs.all isDigit && decimal cs ≤ 255

/-- Four numbers up to 255 with points between them. -/
def isVersion4 (cs : List Char) : Bool :=
  let segments := splitAt '.' cs
  segments.length == 4 && segments.all isSegment

/-- A number up to 255 without zeros in front. -/
def isOctet (cs : List Char) : Bool := isSegment cs && (cs.length == 1 || cs.head? != some '0')

/-- An address of version 4 inside one of version 6. -/
def isDotted (cs : List Char) : Bool :=
  let octets := splitAt '.' cs
  octets.length == 4 && octets.all isOctet

/-- One to four hexadecimal digits. -/
def isGroup (cs : List Char) : Bool :=
  1 ≤ cs.length && cs.length ≤ 4 && cs.all fun c => (Bytes.hexValue? c).isSome

/-- How many groups the pieces stand for; a dotted address, which only the last piece may be,
stands for two. -/
def groupCount? (dotted : Bool) : List (List Char) → Option Nat
  | [] => some 0
  | [piece] =>
    if isGroup piece then some 1 else if dotted && isDotted piece then some 2 else none
  | piece :: rest => if isGroup piece then (groupCount? dotted rest).map (· + 1) else none

/-- The pieces of one side of a double colon; an empty side has none. -/
def side (cs : List Char) : List (List Char) := if cs.isEmpty then [] else splitAt ':' cs

/-- Eight groups, or fewer around one double colon. -/
def isVersion6 (cs : List Char) : Bool :=
  match cutWord [':', ':'] cs with
  | none => groupCount? true (splitAt ':' cs) == some 8
  | some (front, back) =>
    match groupCount? false (side front), groupCount? true (side back) with
    | some m, some n => m + n ≤ 7
    | _, _ => false

/-- Whether `cs` is an address; a colon marks version 6. -/
def isAddress (cs : List Char) : Bool := if cs.contains ':' then isVersion6 cs else isVersion4 cs

end DeviceSessions.Address
