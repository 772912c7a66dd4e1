import DeviceSessions.Json.Float

/-!
# Values kept whole

A value that is kept as a tree, rather than read as a type or passed over, has to be sound in all
its parts: texts that stand for characters, numbers in range, and a nesting that is not too deep.
-/

namespace DeviceSessions.Json

/-- How many brackets and braces may be open at once. -/
def maxDepth : Nat := 127

mutual

/-- Whether all parts are sound, with at most `depth` open brackets inside. -/
def isSound (depth : Nat) : Json → Bool
  | .null | .bool _ => true
  | .number n => (n.float?).isSome
  | .string s => s.text?.isSome
  | .array items => 0 < depth && areSound (depth - 1) items
  | .object entries => 0 < depth && entriesSound (depth - 1) entries

/-- Whether all items are sound. -/
def areSound (depth : Nat) : List Json → Bool
  | [] => true
  | item :: items => isSound depth item && areSound depth items

/-- Whether all entries are sound. -/
def entriesSound (depth : Nat) : List (Quoted × Json) → Bool
  | [] => true
  | (key, value) :: entries =>
    key.text?.isSome && isSound depth value && entriesSound depth entries

end

end DeviceSessions.Json
