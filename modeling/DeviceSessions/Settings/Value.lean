import DeviceSessions.Decimal.Binary64
import DeviceSessions.Json.Buffered
import DeviceSessions.Text.Lowercase

/-!
# Values of settings

What files and the environment say, before it is known which setting has which type. Values are
converted to the type of their setting when they are used: a number may be given as a text and a
text as a number.
-/

namespace DeviceSessions

/-- A value. The keys of a table are distinct. -/
inductive Setting where
  | nil
  | bool (b : Bool)
  | int (n : Int)
  | float (x : Binary64)
  | text (s : String)
  | list (items : List Setting)
  | table (entries : List (String × Setting))
  deriving Repr

namespace Setting

/-! ### Conversions -/

/-- The value as a text. -/
def toText? : Setting → Option String
  | text s => some s
  | bool b => some (if b then "true" else "false")
  | int n => some (toString n)
  | float x => some x.text
  | _ => none

/-- The number that a text stands for: a word for yes or no, or digits, with a plus or without. -/
def natOfText? (s : String) : Option Nat :=
  let word := Text.lower s
  if ["true", "on", "yes"].contains word then some 1
  else if ["false", "off", "no"].contains word then some 0
  else
    let ds := match s.toList with
      | '+' :: ds => ds
      | ds => ds
    if ds.isEmpty || !ds.all Text.isDigit then none else some (Text.decimal ds)

/-- The value as a natural number of 64 bits. -/
def toNat? : Setting → Option Nat
  | int n => if 0 ≤ n then some n.toNat else none
  | bool b => some (if b then 1 else 0)
  | float x => some (x.toNatBelow UInt64.size)
  | text s => (natOfText? s).filter (· < UInt64.size)
  | _ => none

/-- The value as a word of 64 bits. -/
def toUInt64? (s : Setting) : Option UInt64 := s.toNat?.map UInt64.ofNat

/-- The value as a word of 32 bits. -/
def toUInt32? (s : Setting) : Option UInt32 := (s.toNat?.filter (· < UInt32.size)).map UInt32.ofNat

/-- One of the named values, as a text or as the key of a table with one entry. -/
def toNamed? {α : Type} (values : List (String × α)) : Setting → Option α
  | text s => values.lookup s
  | table [(key, _)] => values.lookup key
  | _ => none

/-- The fields of a record, from a table or from a list in the order of the names. -/
def toRecord? (names : List String) : Setting → Option (List (String × Setting))
  | table entries => some entries
  | list items => some (names.zip items)
  | _ => none

/-! ### Layers -/

/-- One step of a path into a value. -/
inductive Step where
  | key (name : String)
  | index (i : Int)
  deriving DecidableEq, Repr

/-- The entries with one of them changed; one that is not there counts as nil. -/
def alter (name : String) (f : Setting → Setting) :
    List (String × Setting) → List (String × Setting)
  | [] => [(name, f nil)]
  | (key, value) :: rest =>
    if key = name then (key, f value) :: rest else (key, value) :: alter name f rest

/-- The items with one of them changed; a negative index counts from the end. Items up to the
index, or before the first, are filled up with nil. -/
def alterAt (i : Int) (f : Setting → Setting) (items : List Setting) : List Setting :=
  let length : Int := items.length
  let items :=
    if 0 ≤ i then items ++ List.replicate (i + 1 - length).toNat nil
    else List.replicate (-(length + i)).toNat nil ++ items
  let place := if 0 ≤ i then i.toNat else (length + i).toNat
  items.modify place f

/-- Changes the value at the end of a path. What is in the way is replaced by tables and lists. -/
def modifyAt (f : Setting → Setting) : List Step → Setting → Setting
  | [], value => f value
  | .key name :: rest, value =>
    let entries := match value with
      | table entries => entries
      | _ => []
    table (alter name (modifyAt f rest) entries)
  | .index i :: rest, value =>
    let items := match value with
      | list items => items
      | _ => []
    list (alterAt i (modifyAt f rest) items)

mutual

/-- Puts a value over one from a lower layer. Tables are merged key by key; any other value takes
the place of the lower one. -/
def overlay : Setting → Setting → Setting
  | table entries, lower =>
    let start := match lower with
      | table below => table below
      | _ => table []
    entriesOver entries start
  | value, _ => value

/-- Puts the entries of a table over a value one by one. -/
def entriesOver : List (String × Setting) → Setting → Setting
  | [], lower => lower
  | (name, value) :: rest, lower =>
    entriesOver rest (modifyAt (overlay value) [.key name] lower)

end

/-- A character of a name in a path. -/
def isNameChar (c : Char) : Bool :=
  ('a' ≤ c && c ≤ 'z') || ('A' ≤ c && c ≤ 'Z') || Text.isDigit c || c == '_' || c == '-'

/-- A space or a tab. -/
def isGap (c : Char) : Bool := c == ' ' || c == '\t'

/-- The largest index of a path, and the smallest up to one. -/
def indexLimit : Nat := Nat.pow 2 63

/-- The steps behind the first name: names behind points and numbers in brackets, which may have
gaps around them. -/
def stepsOf? : Nat → List Char → Option (List Step)
  | _, [] => some []
  | fuel + 1, '.' :: rest => do
    let name := rest.takeWhile isNameChar
    if name.isEmpty then none
    else return .key (String.ofList name) :: (← stepsOf? fuel (rest.drop name.length))
  | fuel + 1, '[' :: rest => do
    let (negative, rest) := match rest.dropWhile isGap with
      | '-' :: rest => (true, rest)
      | rest => (false, rest)
    let ds := rest.takeWhile Text.isDigit
    let n := Text.decimal ds
    match (rest.drop ds.length).dropWhile isGap with
    | ']' :: rest =>
      if ds.isEmpty || indexLimit < n || (!negative && n == indexLimit) then none
      else return .index (if negative then -(n : Int) else n) :: (← stepsOf? fuel rest)
    | _ => none
  | _, _ => none

/-- The path that a key stands for; a key that is no path stands for itself. -/
def pathOf (key : String) : List Step :=
  let cs := key.toList
  let name := cs.takeWhile isNameChar
  match stepsOf? (cs.length + 1) (cs.drop name.length) with
  | some steps => if name.isEmpty then [.key key] else .key (String.ofList name) :: steps
  | none => [.key key]

/-- Puts a layer over a value; its keys are paths. -/
def addLayer (lower : Setting) (layer : List (String × Setting)) : Setting :=
  layer.foldl (fun s entry => modifyAt (overlay entry.2) (pathOf entry.1) s) lower

end Setting

end DeviceSessions
