import DeviceSessions.Settings.Value

/-!
# Settings from the environment

Variables whose names begin with the program's name and two underscores, in any letter case. Two
underscores stand between a section and a setting. A value that reads as a truth value, an integer
or another number is taken as one.
-/

namespace DeviceSessions.Environment

/-- What the names of variables begin with. -/
def prefixText : String := "sessionkeeper__"

/-- The text with a point for every two underscores. -/
def withPoints : List Char → List Char
  | '_' :: '_' :: rest => '.' :: withPoints rest
  | c :: rest => c :: withPoints rest
  | [] => []

/-- The integer of 64 bits that a text writes, with a sign or without. -/
def int? (cs : List Char) : Option Int :=
  let (negative, ds) := match cs with
    | '-' :: ds => (true, ds)
    | '+' :: ds => (false, ds)
    | ds => (false, ds)
  let n : Int := Text.decimal ds
  let i := if negative then -n else n
  let fits := Int64.minValue.toInt ≤ i && i ≤ Int64.maxValue.toInt
  if ds.isEmpty || !ds.all Text.isDigit || !fits then none else some i

/-- The value of a variable. -/
def value (text : String) : Setting :=
  let word := Text.lower text
  if word = "true" then .bool true
  else if word = "false" then .bool false
  else
    match int? text.toList with
    | some n => .int n
    | none =>
      match Binary64.read? text.toList with
      | some x => .float x
      | none => .text text

/-- The setting that a variable sets, if it sets one. -/
def entry? (v : String × String) : Option (String × Setting) :=
  let name := (Text.lower v.1).toList
  let start := prefixText.toList
  if start.isPrefixOf name then
    some (String.ofList (withPoints (name.drop start.length)), value v.2)
  else none

/-- The layer of the environment; of variables for one setting the last counts. -/
def layer (vars : List (String × String)) : List (String × Setting) :=
  (vars.filterMap entry?).foldl
    (fun entries e => entries.filter (fun old => old.1 ≠ e.1) ++ [e]) []

end DeviceSessions.Environment
