import DeviceSessions.Text.Ascii
import DeviceSessions.Text.Blank
import DeviceSessions.Time.Instant

/-!
# Date and time texts

The RFC 3339 form of an instant. Writing is in UTC with as few fraction digits as lose nothing, in
groups of three. Reading is generous: white space between the parts, any offset from UTC, a space
for the `T`, years of any length behind a sign.
-/

namespace DeviceSessions.Rfc3339

open Text

/-- Two digits. -/
def twoDigits (n : Nat) : List Char := [Char.ofNat (48 + n / 10), Char.ofNat (48 + n % 10)]

/-- The decimal digits of `n`, with zeros in front up to `width`. -/
def padded (width n : Nat) : List Char :=
  let ds := Nat.toDigits 10 n
  List.replicate (width - ds.length) '0' ++ ds

/-- Four digits, or a sign and at least four digits outside the years 0 to 9999. -/
def yearText (year : Int) : List Char :=
  if 0 ≤ year ∧ year ≤ 9999 then padded 4 year.toNat
  else (if year < 0 then '-' else '+') :: padded 4 year.natAbs

/-- Nothing, or a point and three, six or nine digits. -/
def fractionText (nanos : Nat) : List Char :=
  if nanos = 0 then []
  else if nanos % 1000000 = 0 then '.' :: padded 3 (nanos / 1000000)
  else if nanos % 1000 = 0 then '.' :: padded 6 (nanos / 1000)
  else '.' :: padded 9 nanos

/-- `YYYY-MM-DD`. -/
def dateText (d : Date) : List Char :=
  yearText d.year ++ '-' :: twoDigits d.month ++ '-' :: twoDigits d.day

/-- `HH:MM:SS` for a second of the day, one more second for a leap second. -/
def clockText (second : Nat) (leap : Bool) : List Char :=
  twoDigits (second / 3600) ++ ':' :: twoDigits (second / 60 % 60) ++
    ':' :: twoDigits (second % 60 + if leap then 1 else 0)

/-- Date, `T`, time and fraction, without the offset. -/
def localText (t : Instant) : List Char :=
  dateText t.date ++ 'T' :: clockText t.secondOfDay (1000000000 ≤ t.nanos) ++
    fractionText (t.nanos % 1000000000)

/-- The text with the offset `Z`. -/
def write (t : Instant) : String := String.ofList (localText t ++ ['Z'])

/-- The text with the offset `+00:00`. -/
def writeOffset (t : Instant) : String := String.ofList (localText t ++ "+00:00".toList)

/-- One to `limit` digits. -/
def digits? (limit : Nat) (cs : List Char) : Option (Nat × List Char) :=
  let ds := (cs.take limit).takeWhile isDigit
  if ds.isEmpty then none else some (decimal ds, cs.drop ds.length)

/-- White space and a number of at most two digits. -/
def field? (cs : List Char) : Option (Nat × List Char) := digits? 2 (dropBlank cs)

/-- White space and a year: four digits, or any number of them behind a sign. -/
def year? (cs : List Char) : Option (Int × List Char) :=
  match dropBlank cs with
  | '-' :: rest => (digits? rest.length rest).map fun (n, rest) => (-n, rest)
  | '+' :: rest => (digits? rest.length rest).map fun (n, rest) => (n, rest)
  | rest => (digits? 4 rest).map fun (n, rest) => (n, rest)

/-- White space and the character `c`. -/
def mark? (c : Char) (cs : List Char) : Option (List Char) :=
  match dropBlank cs with
  | d :: rest => if d = c then some rest else none
  | [] => none

/-- A point and digits, of which nine count; nothing at all is no nanoseconds. -/
def fraction? : List Char → Option (Nat × List Char)
  | '.' :: rest =>
    let ds := (rest.take 9).takeWhile isDigit
    if ds.isEmpty then none
    else some (decimal ds * Nat.pow 10 (9 - ds.length), (rest.drop ds.length).dropWhile isDigit)
  | cs => some (0, cs)

/-- Two digits behind a sign, separators, and two digits below sixty: an offset in seconds. -/
def offsetDigits? : List Char → Option (Int × List Char)
  | h₁ :: h₂ :: rest =>
    if isDigit h₁ && isDigit h₂ then
      match rest.dropWhile fun c => c == ':' || isBlank c with
      | m₁ :: m₂ :: rest =>
        if isDigit m₁ && isDigit m₂ && decimal [m₁] < 6 then
          some (decimal [h₁, h₂] * 3600 + decimal [m₁, m₂] * 60, rest)
        else none
      | _ => none
    else none
  | _ => none

/-- The offset from UTC in seconds: `Z`, `UTC`, or a sign with hours and minutes. -/
def offset? (cs : List Char) : Option (Int × List Char) :=
  match cs with
  | u :: t :: c :: rest =>
    if [u, t, c].map asciiLower = ['u', 't', 'c'] then some (0, rest) else signed cs
  | _ => signed cs
where
  /-- `Z` or a sign; a true minus sign is one too. -/
  signed : List Char → Option (Int × List Char)
    | [] => none
    | c :: rest =>
      if c = 'Z' ∨ c = 'z' then some (0, rest)
      else if c = '+' then offsetDigits? rest
      else if c = '-' ∨ c.toNat = 0x2212 then (offsetDigits? rest).map fun (n, rest) => (-n, rest)
      else none

/-- The instant of a date and time at an offset. Second 60 is a leap second. -/
def instant? (d : Date) (hour minute second nanos : Nat) (offset : Int) : Option Instant :=
  if d.isValid ∧ -262143 ≤ d.year ∧ d.year ≤ 262142 ∧ hour < 24 ∧ minute < 60 ∧ second ≤ 60 ∧
      offset.natAbs < 86400 then
    let leap := second = 60
    let second := if leap then 59 else second
    let nanos := if leap then nanos + 1000000000 else nanos
    Instant.of? (d.toDays * 86400 + hour * 3600 + minute * 60 + second - offset) nanos
  else none

/-- Reads a date and time. -/
def readList? (cs : List Char) : Option Instant := do
  let (year, cs) ← year? cs
  let cs ← mark? '-' cs
  let (month, cs) ← field? cs
  let cs ← mark? '-' cs
  let (day, cs) ← field? cs
  let cs ←
    match cs with
    | c :: cs => if c = 'T' ∨ c = 't' ∨ c = ' ' then some cs else none
    | [] => none
  let (hour, cs) ← field? cs
  let cs ← mark? ':' cs
  let (minute, cs) ← field? cs
  let cs ← mark? ':' cs
  let (second, cs) ← field? cs
  let (nanos, cs) ← fraction? cs
  let (offset, cs) ← offset? (dropBlank cs)
  if (dropBlank cs).isEmpty then instant? ⟨year, month, day⟩ hour minute second nanos offset
  else none

/-- Reads a date and time. -/
def read? (text : String) : Option Instant := readList? text.toList

end DeviceSessions.Rfc3339
