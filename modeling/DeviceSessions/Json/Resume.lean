import DeviceSessions.Json.Buffered
import DeviceSessions.Json.Reader

/-!
# Reading on behind a fault

A reader that gives up on a value may be asked to go on with the entries around it. It then stands
where it found the fault: behind an escaped surrogate that lacks its partner, within a power of ten
that is too large, or before an item that it did not expect. Brackets and braces that were open
close first, if they can.
-/

namespace DeviceSessions.Json

open Text

/-- A value, if it was read, and the input that is left. -/
abbrev Passed := Option Json × List Symbol

/-- The number of four hexadecimal digits. -/
def hexUnit? (a b c d : Symbol) : Option Nat := do
  return 4096 * (← hexSymbol? a) + 256 * (← hexSymbol? b) + 16 * (← hexSymbol? c) +
    (← hexSymbol? d)

/-- The input behind one byte. A character of several bytes leaves some that belong to none. -/
def dropByte : List Symbol → List Symbol
  | some c :: rest => if c.toNat < 0x80 then rest else none :: rest
  | _ :: rest => rest
  | [] => []

/-- The input behind a quoted text that is given up, behind its opening quote; `none` if the text
does not have to be given up before its closing quote. -/
def quotedFault? : List Symbol → Option (List Symbol)
  | [] => none
  | some '"' :: _ => none
  | some '\\' :: some 'u' :: a :: b :: c :: d :: rest =>
    match hexUnit? a b c d with
    | none => some []
    | some n =>
      if 0xdc00 ≤ n ∧ n < 0xe000 then some rest
      else if 0xd800 ≤ n ∧ n < 0xdc00 then
        match rest with
        | some '\\' :: some 'u' :: a :: b :: c :: d :: rest =>
          match hexUnit? a b c d with
          | none => some []
          | some m => if 0xdc00 ≤ m ∧ m < 0xe000 then quotedFault? rest else some rest
        | some '\\' :: rest => some (dropByte rest)
        | rest => some (dropByte rest)
      else quotedFault? rest
  | some '\\' :: _ :: rest => quotedFault? rest
  | _ :: rest => quotedFault? rest

/-- Passes a quoted text behind its opening quote. -/
def passQuoted (cs : List Symbol) : Passed :=
  match quotedFault? cs, readQuoted cs with
  | some rest, _ => (none, rest)
  | none, some (s, rest) => (s.text?.map ofText, rest)
  | none, none => (none, [])

/-- The largest power of ten that is counted. -/
def maxExponent : Nat := 2147483647

/-- The input behind the digit with which a power of ten gets too large. -/
def exponentFault? (power : Nat) : List Symbol → Option (List Symbol)
  | some c :: rest =>
    if isDigit c then
      let power := 10 * power + decimal [c]
      if maxExponent < power then some rest else exponentFault? power rest
    else none
  | _ => none

/-- The input behind a power of ten that is too large, from the beginning of a number on. -/
def powerFault? (cs : List Symbol) : Option (List Symbol) :=
  match cs.dropWhile fun s => s.any fun c => isDigit c || c == '-' || c == '.' with
  | some c :: rest =>
    if c = 'e' ∨ c = 'E' then
      match rest with
      | some '-' :: _ => none
      | some '+' :: rest => exponentFault? 0 rest
      | rest => exponentFault? 0 rest
    else none
  | _ => none

/-- Passes a number. -/
def passNumber (cs : List Symbol) : Passed :=
  let (negative, ds) :=
    match cs with
    | some '-' :: rest => (true, rest)
    | rest => (false, rest)
  match readNumber negative ds with
  | none => (none, [])
  | some (n, rest) =>
    match powerFault? cs with
    | some stop =>
      if n.digits = 0 then (some (.number n), rest) else (none, stop)
    | none => (n.float?.map fun _ => .number n, rest)

/-- Gives up a list, with the input from the fault on. -/
def leaveList (cs : List Symbol) : Passed :=
  match skipSpace cs with
  | some ']' :: rest => (none, rest)
  | some ',' :: rest => (none, skipSpace rest)
  | rest => (none, rest)

/-- Gives up an object, with the input from the fault on. -/
def leaveObject (cs : List Symbol) : Passed :=
  match skipSpace cs with
  | some '\x7d' :: rest => (none, rest)
  | rest => (none, rest)

mutual

/-- Passes a value without white space in front, in which at most `depth` brackets and braces may
be open; `fuel` bounds the number of steps. -/
def passValue : Nat → Nat → List Symbol → Passed
  | 0, _, _ => (none, [])
  | fuel + 1, depth, cs =>
    match cs with
    | some '"' :: rest => passQuoted rest
    | some '[' :: rest =>
      match depth with
      | 0 => (none, cs)
      | depth + 1 =>
        match skipSpace rest with
        | some ']' :: rest => (some (.array []), rest)
        | rest =>
          match passItems fuel depth rest with
          | (some items, rest) => (some (.array items), rest)
          | (none, rest) => leaveList rest
    | some '\x7b' :: rest =>
      match depth with
      | 0 => (none, cs)
      | depth + 1 =>
        match skipSpace rest with
        | some '\x7d' :: rest => (some (.object []), rest)
        | rest =>
          match passEntries fuel depth rest with
          | (some entries, rest) => (some (.object entries), rest)
          | (none, rest) => leaveObject rest
    | some c :: _ =>
      if isDigit c || c == '-' then passNumber cs
      else
        match readValue 1 cs with
        | some (value, rest) => (some value, rest)
        | none => (none, [])
    | _ => (none, [])

/-- Passes the values up to the closing bracket, at least one. -/
def passItems : Nat → Nat → List Symbol → Option (List Json) × List Symbol
  | 0, _, _ => (none, [])
  | fuel + 1, depth, cs =>
    match passValue fuel depth cs with
    | (none, rest) => (none, rest)
    | (some item, rest) =>
      match skipSpace rest with
      | some ']' :: rest => (some [item], rest)
      | some ',' :: rest =>
        match passItems fuel depth (skipSpace rest) with
        | (some items, rest) => (some (item :: items), rest)
        | (none, rest) => (none, rest)
      | rest => (none, rest)

/-- Passes the entries up to the closing brace, at least one. -/
def passEntries : Nat → Nat → List Symbol → Option (List (Quoted × Json)) × List Symbol
  | 0, _, _ => (none, [])
  | fuel + 1, depth, cs =>
    match cs with
    | some '"' :: rest =>
      match passQuoted rest with
      | (some (.string key), rest) =>
        match skipSpace rest with
        | some ':' :: rest =>
          match passValue fuel depth (skipSpace rest) with
          | (none, rest) => (none, rest)
          | (some value, rest) =>
            match skipSpace rest with
            | some '\x7d' :: rest => (some [(key, value)], rest)
            | some ',' :: rest =>
              match passEntries fuel depth (skipSpace rest) with
              | (some entries, rest) => (some ((key, value) :: entries), rest)
              | (none, rest) => (none, rest)
            | rest => (none, rest)
        | rest => (none, rest)
      | (_, rest) => (none, rest)
    | rest => (none, rest)

end

/-- Passes a value of which only a number can be used: lists and objects with something inside are
given up at once. -/
def passScalar (cs : List Symbol) : Passed :=
  match cs with
  | some '[' :: rest => leaveList rest
  | some '\x7b' :: rest => leaveObject rest
  | cs => passValue 1 0 cs

end DeviceSessions.Json
