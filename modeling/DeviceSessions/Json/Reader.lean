import DeviceSessions.Bytes
import DeviceSessions.Json.Basic
import DeviceSessions.Text.Ascii

/-!
# Reading JSON

The grammar of RFC 8259, over the characters of a text. A byte that belongs to no character may
stand in quotes, and so may a surrogate without its partner; the text they stand in is kept as one
that stands for no characters. Numbers of any size and nesting of any depth are read.
-/

namespace DeviceSessions.Json

open Text

/-- A character of the input, or a byte that belongs to none. -/
abbrev Symbol := Option Char

namespace Symbol

/-- The length of the UTF-8 sequence that a byte starts. -/
def sequenceLength (b : UInt8) : Nat :=
  if b < 0x80 then 1 else if b < 0xc2 then 0 else if b < 0xe0 then 2
  else if b < 0xf0 then 3 else if b < 0xf5 then 4 else 0

/-- Reads one character; a byte that starts none is taken alone. -/
def next (b : UInt8) (rest : Bytes) : Symbol × Bytes :=
  let n := sequenceLength b
  match String.fromUTF8? ⟨(b :: rest.take (n - 1)).toArray⟩ with
  | some s => (s.toList.head?, rest.drop (n - 1))
  | none => (none, rest)

/-- Reads characters one by one, at most `fuel` of them. -/
def scan : Nat → Bytes → List Symbol
  | 0, _ | _, [] => []
  | fuel + 1, b :: rest =>
    let (symbol, rest) := next b rest
    symbol :: scan fuel rest

/-- The characters of a text. -/
def ofText (text : String) : List Symbol := text.toList.map some

/-- The characters of a byte string, with the bytes between them that belong to none. -/
def ofBytes (bs : Bytes) : List Symbol :=
  match String.fromUTF8? ⟨bs.toArray⟩ with
  | some text => ofText text
  | none => scan bs.length bs

end Symbol

/-- The white space of JSON. -/
def isSpace : Symbol → Bool
  | some c => c == ' ' || c == '\n' || c == '\t' || c == '\r'
  | none => false

/-- The input without white space in front. -/
def skipSpace (cs : List Symbol) : List Symbol := cs.dropWhile isSpace

/-- A piece of a quoted text: a character, a UTF-16 unit from an escape, or a stray byte. -/
inductive Piece where
  | char (c : Char)
  | unit (n : Nat)
  | stray
  deriving DecidableEq, Repr

/-- The character of a one-letter escape. -/
def simpleEscape? (c : Char) : Option Char :=
  if c = '"' ∨ c = '\\' ∨ c = '/' then some c
  else if c = 'b' then some '\x08'
  else if c = 'f' then some '\x0c'
  else if c = 'n' then some '\n'
  else if c = 'r' then some '\r'
  else if c = 't' then some '\t'
  else none

/-- The value of a hexadecimal digit of the input. -/
def hexSymbol? : Symbol → Option Nat
  | some c => Bytes.hexValue? c
  | none => none

/-- The pieces up to the closing quote, and the input behind it. -/
def readPieces : List Symbol → Option (List Piece × List Symbol)
  | [] => none
  | some '"' :: rest => some ([], rest)
  | some '\\' :: some 'u' :: a :: b :: c :: d :: rest => do
    let n := 4096 * (← hexSymbol? a) + 256 * (← hexSymbol? b) + 16 * (← hexSymbol? c) +
      (← hexSymbol? d)
    let (pieces, rest) ← readPieces rest
    return (.unit n :: pieces, rest)
  | some '\\' :: some e :: rest => do
    let c ← simpleEscape? e
    let (pieces, rest) ← readPieces rest
    return (.char c :: pieces, rest)
  | none :: rest => do
    let (pieces, rest) ← readPieces rest
    return (.stray :: pieces, rest)
  | some c :: rest =>
    if c = '\\' ∨ c.toNat < 0x20 then none
    else do
      let (pieces, rest) ← readPieces rest
      return (.char c :: pieces, rest)

/-- The characters of the pieces, with stray bytes between them; surrogates come in pairs. -/
def joinPieces : List Piece → Option (List Symbol)
  | [] => some []
  | .char c :: rest => (joinPieces rest).map (some c :: ·)
  | .stray :: rest => (joinPieces rest).map (none :: ·)
  | .unit n :: .unit m :: rest =>
    if 0xd800 ≤ n ∧ n < 0xdc00 then
      if 0xdc00 ≤ m ∧ m < 0xe000 then
        (joinPieces rest).map
          (some (Char.ofNat (0x10000 + (n - 0xd800) * 0x400 + (m - 0xdc00))) :: ·)
      else none
    else if 0xdc00 ≤ n ∧ n < 0xe000 then none
    else (joinPieces (.unit m :: rest)).map (some (Char.ofNat n) :: ·)
  | .unit n :: rest =>
    if 0xd800 ≤ n ∧ n < 0xe000 then none
    else (joinPieces rest).map (some (Char.ofNat n) :: ·)

/-- What the pieces stand for. -/
def quotedOf (pieces : List Piece) : Quoted :=
  match joinPieces pieces with
  | none => .loneSurrogate
  | some symbols =>
    match symbols.mapM id with
    | none => .strayBytes
    | some cs => .text (String.ofList cs)

/-- A quoted text behind its opening quote. -/
def readQuoted (cs : List Symbol) : Option (Quoted × List Symbol) := do
  let (pieces, rest) ← readPieces cs
  return (quotedOf pieces, rest)

/-- The digits in front of the input. -/
def readDigits : List Symbol → List Char × List Symbol
  | some c :: rest =>
    if isDigit c then
      let (ds, rest) := readDigits rest
      (c :: ds, rest)
    else ([], some c :: rest)
  | cs => ([], cs)

/-- The digits behind a point; no point is no digits. -/
def readFraction : List Symbol → Option (Option (List Char) × List Symbol)
  | some '.' :: rest =>
    let (ds, rest) := readDigits rest
    if ds.isEmpty then none else some (some ds, rest)
  | cs => some (none, cs)

/-- The power of ten behind an `e`. -/
def readExponent : List Symbol → Option (Option Int × List Symbol)
  | some c :: rest =>
    if c = 'e' ∨ c = 'E' then
      let (negative, rest) :=
        match rest with
        | some '-' :: rest => (true, rest)
        | some '+' :: rest => (false, rest)
        | rest => (false, rest)
      let (ds, rest) := readDigits rest
      if ds.isEmpty then none
      else some (some (if negative then -(decimal ds : Int) else decimal ds), rest)
    else some (none, some c :: rest)
  | cs => some (none, cs)

/-- A number without its sign: no zeros in front. -/
def readNumber (negative : Bool) (cs : List Symbol) : Option (Number × List Symbol) := do
  let (whole, rest) := readDigits cs
  if whole.isEmpty || (whole.head? == some '0' && whole.length ≠ 1) then none
  else
    let (fraction, rest) ← readFraction rest
    let (exponent, rest) ← readExponent rest
    let behind := fraction.getD []
    return (⟨negative, decimal (whole ++ behind), exponent.getD 0 - behind.length,
      fraction.isNone && exponent.isNone⟩, rest)

/-- The input behind `word`. -/
def readWord (word : String) (cs : List Symbol) : Option (List Symbol) :=
  let w := word.toList.map some
  if w.isPrefixOf cs then some (cs.drop w.length) else none

mutual

/-- A value without white space in front; `fuel` bounds the number of steps. -/
def readValue : Nat → List Symbol → Option (Json × List Symbol)
  | 0, _ => none
  | _, [] => none
  | fuel + 1, none :: _ => let _ := fuel; none
  | fuel + 1, some c :: rest =>
    if c = '"' then do
      let (s, rest) ← readQuoted rest
      return (.string s, rest)
    else if c = '[' then
      match skipSpace rest with
      | some ']' :: rest => some (.array [], rest)
      | rest => do
        let (items, rest) ← readItems fuel rest
        return (.array items, rest)
    else if c = '\x7b' then
      match skipSpace rest with
      | some '\x7d' :: rest => some (.object [], rest)
      | rest => do
        let (entries, rest) ← readEntries fuel rest
        return (.object entries, rest)
    else if c = '-' then do
      let (n, rest) ← readNumber true rest
      return (.number n, rest)
    else if isDigit c then do
      let (n, rest) ← readNumber false (some c :: rest)
      return (.number n, rest)
    else if c = 'n' then (readWord "ull" rest).map (Json.null, ·)
    else if c = 't' then (readWord "rue" rest).map (Json.bool true, ·)
    else if c = 'f' then (readWord "alse" rest).map (Json.bool false, ·)
    else none

/-- The values up to the closing bracket, at least one. -/
def readItems : Nat → List Symbol → Option (List Json × List Symbol)
  | 0, _ => none
  | fuel + 1, cs => do
    let (item, rest) ← readValue fuel cs
    match skipSpace rest with
    | some ']' :: rest => return ([item], rest)
    | some ',' :: rest => do
      let (items, rest) ← readItems fuel (skipSpace rest)
      return (item :: items, rest)
    | _ => none

/-- The entries up to the closing brace, at least one. -/
def readEntries : Nat → List Symbol → Option (List (Quoted × Json) × List Symbol)
  | 0, _ => none
  | fuel + 1, cs =>
    match cs with
    | some '"' :: rest => do
      let (key, rest) ← readQuoted rest
      match skipSpace rest with
      | some ':' :: rest => do
        let (value, rest) ← readValue fuel (skipSpace rest)
        match skipSpace rest with
        | some '\x7d' :: rest => return ([(key, value)], rest)
        | some ',' :: rest => do
          let (entries, rest) ← readEntries fuel (skipSpace rest)
          return ((key, value) :: entries, rest)
        | _ => none
      | _ => none
    | _ => none

end

/-- Reads a whole input: one value with white space around it. -/
def read? (cs : List Symbol) : Option Json := do
  let (value, rest) ← readValue (cs.length + 1) (skipSpace cs)
  if (skipSpace rest).isEmpty then some value else none

/-- Reads a text. -/
def ofString? (text : String) : Option Json := read? (Symbol.ofText text)

/-- Reads a byte string. -/
def ofBytes? (bs : Bytes) : Option Json := read? (Symbol.ofBytes bs)

end DeviceSessions.Json
