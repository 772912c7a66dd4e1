import DeviceSessions.Text.LowercaseTable

/-!
# Lower case

Unicode's lower case mapping of a text: letter by letter, with the capital I with a dot as the one
letter that becomes two, and a sigma at the end of a word in its final form.
-/

namespace DeviceSessions.Text

/-- Whether `n` lies in one of the ranges. -/
def inRanges (ranges : List (Nat × Nat)) (n : Nat) : Bool :=
  ranges.any fun r => r.1 ≤ n && n ≤ r.2

/-- A letter that has case. -/
def isCased (c : Char) : Bool := inRanges casedRanges c.toNat

/-- A character that case rules look through. -/
def isCaseIgnorable (c : Char) : Bool := inRanges caseIgnorableRanges c.toNat

/-- The lower case of a character by the simple mapping. -/
def lowerChar (c : Char) : Char :=
  let n := c.toNat
  match lowercaseRuns.find? fun (first, last, step, _) =>
      first ≤ n && n ≤ last && (n - first) % step == 0 with
  | some (first, _, _, target) => Char.ofNat (n - first + target)
  | none => c

/-- Whether the first character that case rules do not look through is cased. -/
def meetsCased (cs : List Char) : Bool :=
  match cs.dropWhile isCaseIgnorable with
  | [] => false
  | c :: _ => isCased c

/-- The capital sigma. -/
def capitalSigma : Char := Char.ofNat 0x3a3

/-- The lower case of the character `c` between `before`, read backwards, and `after`. -/
def lowerAt (before : List Char) (c : Char) (after : List Char) : List Char :=
  if c = capitalSigma then
    [if meetsCased before && !meetsCased after then Char.ofNat 0x3c2 else Char.ofNat 0x3c3]
  else if c.toNat = 0x130 then ['i', Char.ofNat 0x307]
  else [lowerChar c]

/-- The lower case of `cs`, with `before` the characters in front of it, read backwards. -/
def lowerList (before : List Char) : List Char → List Char
  | [] => []
  | c :: cs => lowerAt before c cs ++ lowerList (c :: before) cs

/-- The lower case of a text. -/
def lower (text : String) : String := String.ofList (lowerList [] text.toList)

end DeviceSessions.Text
