/-!
# Grammars of command lines

A command line is read word by word: options, which have a name and perhaps a letter, names of
commands within commands, and plain words. The first thing that is wrong, or asks for help or the
version, decides. An option may come once; its value is looked at when the next option of the same
command is reached, or at the end, after those of the commands within.
-/

namespace DeviceSessions.CommandLine

/-- What an option is for: to take a value, to stand for itself, or to ask for something else than
the command. -/
inductive OptionUse where
  | value (accepts : String → Bool)
  | switch
  | help
  | version

/-- An option. -/
structure OptionRule where
  name : String
  letter : Option Char := none
  use : OptionUse

/-- Which options a command has, and which commands or how many plain words follow. -/
inductive Grammar where
  | branch (options : List OptionRule) (commands : List (String × Grammar))
  | leaf (options : List OptionRule) (words : Nat)

/-- Why a command line leads to no command. -/
inductive Refusal where
  | help
  | version
  | misuse
  deriving DecidableEq, Repr

/-- What was read: the names of commands, the options with their values, and the plain words. An
option whose value is not looked at yet, or not even there, is pending; those of the commands
around, from the outermost on, wait. -/
structure Reading where
  path : List String := []
  values : List (String × String) := []
  words : List String := []
  pending : Option (OptionRule × Option String) := none
  waiting : List (OptionRule × Option String) := []

namespace Reading

/-- The value of an option. -/
def value? (r : Reading) (name : String) : Option String := r.values.lookup name

/-- Keeps the value of an option that has none yet. -/
def keep (r : Reading) (name value : String) : Except Refusal Reading :=
  if (r.value? name).isSome then .error .misuse
  else .ok { r with values := r.values ++ [(name, value)], pending := none }

/-- Keeps the value of an option that takes this one. -/
def accept (r : Reading) (rule : OptionRule) (value : String) : Except Refusal Reading :=
  match rule.use with
  | .value accepts => if accepts value then r.keep rule.name value else .error .misuse
  | _ => r.keep rule.name value

/-- Looks at the pending value. -/
def settle (r : Reading) : Except Refusal Reading :=
  match r.pending with
  | none => .ok r
  | some (rule, some value) => r.accept rule value
  | some (_, none) => .error .misuse

/-- The reading on entering a command within. -/
def enter (r : Reading) (name : String) : Reading :=
  { r with
    path := r.path ++ [name]
    pending := none
    waiting := r.waiting ++ r.pending.toList }

/-- Looks at all values that are left, from the innermost command on. -/
def settleAll (r : Reading) : Except Refusal Reading := do
  r.waiting.reverse.foldlM (fun r option => { r with pending := some option }.settle) (← r.settle)

/-- Takes an option, with a value if one is attached to it. -/
def take (r : Reading) (rule : OptionRule) (attached : Option String) :
    Except Refusal Reading := do
  match rule.use, attached with
  | .value _, some value => (← r.settle).accept rule value
  | .value _, none => return { ← r.settle with pending := some (rule, none) }
  | .switch, none => (← r.settle).keep rule.name ""
  | .help, none => let _ ← r.settle; throw .help
  | .version, none => let _ ← r.settle; throw .version
  | _, some _ => throw .misuse

/-- Takes options that are written as letters; behind the letter of one with a value stands that
value, with an equals sign in front or without. -/
def takeLetters (rules : List OptionRule) (r : Reading) : List Char → Except Refusal Reading
  | [] => .ok r
  | c :: rest =>
    match rules.find? fun rule => rule.letter == some c with
    | none => .error .misuse
    | some rule =>
      match rule.use, rest with
      | .value _, [] => r.take rule none
      | .value _, '=' :: value => r.take rule (some (String.ofList value))
      | .value _, value => r.take rule (some (String.ofList value))
      | _, rest => do takeLetters rules (← r.take rule none) rest

/-- Takes an option that is written as a name, with an equals sign before a value or without. -/
def takeNamed (rules : List OptionRule) (r : Reading) (cs : List Char) :
    Except Refusal Reading :=
  let name := cs.takeWhile (· != '=')
  match rules.find? fun rule => rule.name.toList == name with
  | none => .error .misuse
  | some rule =>
    r.take rule (if name.length < cs.length then some (String.ofList (cs.drop (name.length + 1)))
      else none)

end Reading

namespace Grammar

/-- The options of a command. -/
def options : Grammar → List OptionRule
  | branch options _ | leaf options _ => options

/-- The command of a name. -/
def command? (name : String) : Grammar → Option Grammar
  | branch _ commands => commands.lookup name
  | leaf .. => none

/-- How many plain words a command takes. -/
def wordLimit : Grammar → Nat
  | branch .. => 0
  | leaf _ words => words

/-- The word that asks for help with the commands behind it. -/
def helpWord : String := "help"

/-- What comes of asking for help with commands. -/
def helpWith : Grammar → List String → Refusal
  | _, [] => .help
  | branch _ commands, name :: names =>
    match commands.lookup name with
    | some g => g.helpWith names
    | none => if name = helpWord ∧ names = [] then .help else .misuse
  | leaf .., _ :: _ => .misuse

/-- Whether the word asks for help; only where commands follow it does. -/
def isHelp (word : String) : Grammar → Bool
  | branch .. => word == helpWord
  | leaf .. => false

/-- Takes a plain word. -/
def takeWord (g : Grammar) (r : Reading) (word : String) : Except Refusal Reading :=
  if r.words.length < g.wordLimit then .ok { r with words := r.words ++ [word] }
  else .error .misuse

/-- Ends the reading; a command has to be complete. -/
def finish (g : Grammar) (r : Reading) : Except Refusal Reading :=
  match g with
  | branch .. => .error .misuse
  | leaf .. => r.settleAll

/-- Whether a pending option still needs its value. -/
def awaits (r : Reading) : Bool :=
  match r.pending with
  | some (_, none) => true
  | _ => false

/-- The reading with the value of its pending option. -/
def provide (r : Reading) (value : String) : Reading :=
  { r with pending := r.pending.map fun (rule, _) => (rule, some value) }

/-- Reads words; behind `--` there are only plain ones. -/
def read (g : Grammar) (r : Reading) (plain : Bool) : List String → Except Refusal Reading
  | [] => g.finish r
  | word :: rest => do
    if plain then read g (← g.takeWord r word) true rest
    else if awaits r then
      match word.toList with
      | '-' :: _ :: _ => throw .misuse
      | _ => read g (provide r word) false rest
    else if g.isHelp word then throw (g.helpWith rest)
    else
      match g.command? word with
      | some inner => read inner (r.enter word) false rest
      | none =>
        match word.toList with
        | ['-', '-'] => read g r true rest
        | '-' :: '-' :: name => read g (← r.takeNamed g.options name) false rest
        | '-' :: c :: letters => read g (← r.takeLetters g.options (c :: letters)) false rest
        | _ => read g (← g.takeWord r word) false rest

end Grammar

end DeviceSessions.CommandLine
