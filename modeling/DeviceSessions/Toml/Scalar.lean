import DeviceSessions.Bytes
import DeviceSessions.Settings.Value
import DeviceSessions.Time.Rfc3339

/-!
# Words of a TOML document

Numbers, truth values, dates and times. A date or a time is kept as a text in one spelling.
-/

namespace DeviceSessions.Toml

open Text

/-- Digits with single underscores between them, without the underscores. -/
def digits? (isDigit : Char → Bool) (cs : List Char) : Option (List Char) :=
  let groups := splitAt '_' cs
  if groups.all fun g => !g.isEmpty && g.all isDigit then some groups.flatten else none

/-- The text without its sign. -/
def signed : List Char → Bool × List Char
  | '-' :: rest => (true, rest)
  | '+' :: rest => (false, rest)
  | cs => (false, cs)

/-- An integer, if it fits 64 bits. -/
def bounded? (negative : Bool) (n : Nat) : Option Setting :=
  let i : Int := if negative then -n else n
  if Int64.minValue.toInt ≤ i ∧ i ≤ Int64.maxValue.toInt then some (.int i) else none

/-- Decimal digits without zeros in front. -/
def decimal? (cs : List Char) : Option (List Char) := do
  let ds ← digits? isDigit cs
  if ds.head? = some '0' ∧ ds.length ≠ 1 then none else some ds

/-- The number of digits in a base. -/
def inBase (base : Nat) (ds : List Char) : Nat :=
  ds.foldl (fun n c => base * n + (Bytes.hexValue? c).getD 0) 0

/-- An integer, in base 10 with a sign or in another base without. -/
def int? (cs : List Char) : Option Setting :=
  match cs with
  | '0' :: 'x' :: rest => do
    bounded? false (inBase 16 (← digits? (fun c => (Bytes.hexValue? c).isSome) rest))
  | '0' :: 'o' :: rest => do
    bounded? false (inBase 8 (← digits? (fun c => '0' ≤ c && c ≤ '7') rest))
  | '0' :: 'b' :: rest => do
    bounded? false (inBase 2 (← digits? (fun c => c == '0' || c == '1') rest))
  | cs => do
    let (negative, ds) := signed cs
    bounded? negative (decimal (← decimal? ds))

/-- A finite number that reads as one in range. -/
def finite? (x : Binary64) : Option Setting :=
  match x with
  | .infinite _ => none
  | x => some (.float x)

/-- A number with a fraction, an exponent, or both. -/
def float? (cs : List Char) : Option Setting := do
  let (negative, cs) := signed cs
  if cs = ['i', 'n', 'f'] then return .float (.infinite negative)
  if cs = ['n', 'a', 'n'] then return .float .nan
  let isMark := fun c => c == '.' || c == 'e' || c == 'E'
  let front := cs.takeWhile fun c => !isMark c
  let whole ← decimal? front
  let rest := cs.drop front.length
  let (fraction, rest) ←
    match rest with
    | '.' :: rest =>
      let ds := rest.takeWhile fun c => !isMark c
      pure (← digits? isDigit ds, rest.drop ds.length)
    | rest => if rest.isEmpty then none else pure ([], rest)
  let power : Int ←
    match rest with
    | [] => pure 0
    | c :: rest =>
      if c = 'e' ∨ c = 'E' then
        let (negative, ds) := signed rest
        let n : Int := decimal (← digits? isDigit ds)
        pure (if negative then -n else n)
      else none
  finite? (.ofDecimal negative (decimal (whole ++ fraction)) (power - fraction.length))

/-- A number of exactly `n` digits in front of the text. -/
def fixed? (n : Nat) (cs : List Char) : Option (Nat × List Char) :=
  let ds := cs.take n
  if ds.length = n ∧ ds.all isDigit then some (decimal ds, cs.drop n) else none

/-- The text behind a character that has to stand in front. -/
def behind? (mark : Char) : List Char → Option (List Char)
  | c :: rest => if c = mark then some rest else none
  | [] => none

/-- A date in front of the text. -/
def date? (cs : List Char) : Option (List Char × List Char) := do
  let (year, cs) ← fixed? 4 cs
  let cs ← behind? '-' cs
  let (month, cs) ← fixed? 2 cs
  let cs ← behind? '-' cs
  let (day, cs) ← fixed? 2 cs
  let date : Date := ⟨year, month, day⟩
  if date.isValid then some (Rfc3339.dateText date, cs) else none

/-- A fraction of a second behind a point, of which nine digits count, without zeros at its end but
one. -/
def fraction? : List Char → Option (List Char × List Char)
  | '.' :: rest => do
    let ds := rest.takeWhile isDigit
    let kept := ((ds.take 9).reverse.dropWhile (· == '0')).reverse
    if ds.isEmpty then none
    else some ('.' :: (if kept.isEmpty then ['0'] else kept), rest.drop ds.length)
  | cs => some ([], cs)

/-- A time of day in front of the text. Seconds may be left out. -/
def time? (cs : List Char) : Option (List Char × List Char) := do
  let (hour, cs) ← fixed? 2 cs
  let cs ← behind? ':' cs
  let (minute, cs) ← fixed? 2 cs
  if 24 ≤ hour ∨ 60 ≤ minute then none
  else
    let front := Rfc3339.twoDigits hour ++ ':' :: Rfc3339.twoDigits minute
    match cs with
    | ':' :: cs => do
      let (second, cs) ← fixed? 2 cs
      let (fraction, cs) ← fraction? cs
      if 60 < second then none
      else some (front ++ ':' :: Rfc3339.twoDigits second ++ fraction, cs)
    | cs => some (front, cs)

/-- An offset from UTC, or none. An offset of nothing has a plus. -/
def offset? : List Char → Option (List Char)
  | [] => some []
  | [c] => if c = 'Z' ∨ c = 'z' then some ['Z'] else none
  | c :: cs => do
    let (hour, cs) ← fixed? 2 cs
    let cs ← behind? ':' cs
    let (minute, cs) ← fixed? 2 cs
    if (c = '+' ∨ c = '-') ∧ hour < 24 ∧ minute < 60 ∧ cs.isEmpty then
      let sign := if hour = 0 ∧ minute = 0 then '+' else c
      some (sign :: Rfc3339.twoDigits hour ++ ':' :: Rfc3339.twoDigits minute)
    else none

/-- A date, a time, or a date and a time with an offset or without. -/
def moment? (cs : List Char) : Option Setting :=
  match date? cs with
  | some (date, []) => some (.text (String.ofList date))
  | some (date, c :: rest) => do
    if c = 'T' ∨ c = 't' ∨ c = ' ' then
      let (time, rest) ← time? rest
      let offset ← offset? rest
      return .text (String.ofList (date ++ 'T' :: time ++ offset))
    else none
  | none => do
    let (time, rest) ← time? cs
    if rest.isEmpty then some (.text (String.ofList time)) else none

/-- The value of a word. -/
def word? (cs : List Char) : Option Setting :=
  if cs = "true".toList then some (.bool true)
  else if cs = "false".toList then some (.bool false)
  else (int? cs).or ((float? cs).or (moment? cs))

end DeviceSessions.Toml
