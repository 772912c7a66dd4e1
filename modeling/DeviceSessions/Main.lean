import DeviceSessions.CommandLine.Run
import Std.Time.DateTime.Timestamp

/-!
# The program

The thin layer around a run: it reads the variables, the files and the clock, draws random bytes,
and prints. No database client is linked in, so every database is out of reach.
-/

namespace DeviceSessions.CommandLine

/-- The text of a file, if it can be read. -/
def readFile? (path : String) : IO (Option String) := do
  try return some (← IO.FS.readFile path) catch _ => return none

/-- The variables of the process in the order of their names, from a text in which each is ended
by a null character. -/
def varsOf (text : String) : List (String × String) :=
  let entries := (Text.splitAt '\x00' text.toList).filterMap (Text.cutFirst '=')
  (entries.map fun (name, value) => (String.ofList name, String.ofList value)).mergeSort
    fun a b => a.1 ≤ b.1

/-- The files with these names that can be read. -/
def readFiles (paths : List String) : IO (List (String × String)) :=
  paths.filterMapM fun path => do return (← readFile? path).map fun text => (path, text)

/-- The instant that it is. -/
def currentTime : IO Instant := do
  let t ← Std.Time.Timestamp.now
  return (Instant.ofNanos? t.toNanosecondsSinceUnixEpoch.toInt).getD .epoch

/-- An identifier that is all zeros. -/
def nilId : Uuid := ⟨List.replicate 16 0, rfl⟩

/-- Random bytes. -/
def randomBytes (n : Nat) : IO Bytes := do return (← IO.getRandomBytes (.ofNat n)).toList

/-- What is around this process. -/
def surroundings (words : List String) : IO Surroundings := do
  let vars := varsOf ((← readFile? "/proc/self/environ").getD "")
  let files ← readFiles (filesOf words vars)
  let id := (Uuid.random? (← randomBytes 16)).getD nilId
  let salt ← randomBytes 16
  return {
    files := fun path => files.lookup path, vars, server := none,
    now := ← currentTime, ids := fun _ => id, salts := fun _ => salt }

end DeviceSessions.CommandLine

open DeviceSessions.CommandLine in
/-- Runs the program. -/
def main (words : List String) : IO UInt32 := do
  match (run (← surroundings words) words).1 with
  | .usage status =>
    (if status = 0 then IO.println else IO.eprintln) usageText
    return .ofNat status
  | .finished status output complaint =>
    IO.print output
    if let some text := complaint then IO.eprintln ("error: " ++ text)
    return .ofNat status
