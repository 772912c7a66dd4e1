import DeviceSessions.Toml.Node
import DeviceSessions.Toml.Scalar

/-!
# Reading TOML

A document is lines: headers, which say which table comes next, and keys with values. Nothing is
read from a document that breaks a rule anywhere.
-/

namespace DeviceSessions.Toml

/-- A space or a tab. -/
def isGap (c : Char) : Bool := c == ' ' || c == '\t'

/-- The text without gaps in front. -/
def skipGaps (cs : List Char) : List Char := cs.dropWhile isGap

/-- A control character other than the tab, which may stand nowhere. -/
def isControl (c : Char) : Bool := (c.toNat < 0x20 && c != '\t') || c.toNat == 0x7f

/-- The text behind a line break. -/
def lineBreak? : List Char → Option (List Char)
  | '\n' :: rest => some rest
  | '\r' :: '\n' :: rest => some rest
  | _ => none

/-- The text behind a comment, if there is one. -/
def skipComment (cs : List Char) : List Char :=
  match cs with
  | '#' :: rest => rest.dropWhile fun c => !isControl c
  | cs => cs

/-- The text behind the rest of a line, on which only a comment may stand. -/
def endLine? (cs : List Char) : Option (List Char) :=
  match skipComment (skipGaps cs) with
  | [] => some []
  | cs => lineBreak? cs

/-- The text behind gaps, comments and line breaks, at most `fuel` lines. -/
def skipLines : Nat → List Char → List Char
  | 0, cs => cs
  | fuel + 1, cs =>
    let cs := skipComment (skipGaps cs)
    match lineBreak? cs with
    | some rest => skipLines fuel rest
    | none => cs

/-- The character of `n` hexadecimal digits in front of the text. -/
def escapedChar? (n : Nat) (cs : List Char) : Option (Char × List Char) :=
  let ds := cs.take n
  let code := inBase 16 ds
  if ds.length = n ∧ ds.all (fun c => (Bytes.hexValue? c).isSome) ∧ code.isValidChar then
    some (Char.ofNat code, cs.drop n)
  else none

/-- The character of an escape behind its backslash. -/
def escape? : List Char → Option (Char × List Char)
  | 'b' :: rest => some ('\x08', rest)
  | 't' :: rest => some ('\t', rest)
  | 'n' :: rest => some ('\n', rest)
  | 'f' :: rest => some ('\x0c', rest)
  | 'r' :: rest => some ('\r', rest)
  | 'e' :: rest => some ('\x1b', rest)
  | '"' :: rest => some ('"', rest)
  | '\\' :: rest => some ('\\', rest)
  | 'x' :: rest => escapedChar? 2 rest
  | 'u' :: rest => escapedChar? 4 rest
  | 'U' :: rest => escapedChar? 8 rest
  | _ => none

/-- The text behind gaps and line breaks. -/
def skipBlank : List Char → List Char
  | '\r' :: '\n' :: rest => skipBlank rest
  | c :: rest => if isGap c || c == '\n' then skipBlank rest else c :: rest
  | [] => []

/-- The text behind a backslash that ends a line: the next line that is not blank. -/
def continued? (cs : List Char) : Option (List Char) := (lineBreak? (skipGaps cs)).map skipBlank

/-- A text on one line, behind its opening quote, up to the closing one. -/
def quoted? (escapes : Bool) (quote : Char) : Nat → List Char → Option (List Char × List Char)
  | 0, _ | _, [] => none
  | fuel + 1, c :: rest => do
    if c = quote then some ([], rest)
    else if escapes && c == '\\' then
      let (e, rest) ← escape? rest
      let (cs, rest) ← quoted? escapes quote fuel rest
      return (e :: cs, rest)
    else if isControl c then none
    else
      let (cs, rest) ← quoted? escapes quote fuel rest
      return (c :: cs, rest)

/-- A text over several lines, behind its opening quotes, up to the closing three. Two more quotes
may stand in front of those. -/
def multiline? (escapes : Bool) (quote : Char) : Nat → List Char → Option (List Char × List Char)
  | 0, _ | _, [] => none
  | fuel + 1, c :: rest => do
    let quotes := (c :: rest).takeWhile (· == quote)
    if 3 ≤ quotes.length then
      let inside := min (quotes.length - 3) 2
      return (List.replicate inside quote, (c :: rest).drop (inside + 3))
    else if escapes && c == '\\' then
      match continued? rest with
      | some rest => multiline? escapes quote fuel rest
      | none =>
        let (e, rest) ← escape? rest
        let (cs, rest) ← multiline? escapes quote fuel rest
        return (e :: cs, rest)
    else
      if isControl c && (lineBreak? (c :: rest)).isNone then none
      else
        let (cs, rest) ← multiline? escapes quote fuel rest
        return (c :: cs, rest)

/-- A quoted text with its quotes; only a value may go over several lines. -/
def text? (long : Bool) (quote : Char) (cs : List Char) : Option (List Char × List Char) :=
  let escapes := quote == '"'
  if long && [quote, quote, quote].isPrefixOf cs then
    let cs := cs.drop 3
    multiline? escapes quote (cs.length + 1) ((lineBreak? cs).getD cs)
  else quoted? escapes quote (cs.length + 1) (cs.drop 1)

/-- One name of a key. -/
def name? (cs : List Char) : Option (String × List Char) :=
  match cs with
  | '"' :: _ => (text? false '"' cs).map fun (name, rest) => (String.ofList name, rest)
  | '\'' :: _ => (text? false '\'' cs).map fun (name, rest) => (String.ofList name, rest)
  | cs =>
    let name := cs.takeWhile Setting.isNameChar
    if name.isEmpty then none else some (String.ofList name, cs.drop name.length)

/-- How many names a key may have, and how many brackets and braces of values may be open at
once. -/
def maxDepth : Nat := 80

/-- At most `count` names with points between them, the last one apart. -/
def names? : Nat → List Char → Option (List String × String × List Char)
  | 0, _ => none
  | count + 1, cs => do
    let (name, rest) ← name? (skipGaps cs)
    match skipGaps rest with
    | '.' :: rest =>
      let (path, last, rest) ← names? count rest
      return (name :: path, last, rest)
    | rest => return ([], name, rest)

/-- A key: names with points between them, the last one apart. -/
def key? (cs : List Char) : Option (List String × String × List Char) := names? maxDepth cs

/-- A character of a word. -/
def isWordChar (c : Char) : Bool := Setting.isNameChar c || c == '+' || c == '.' || c == ':'

/-- A word. A date may have a space before its time. -/
def wordAt (cs : List Char) : List Char × List Char :=
  let word := cs.takeWhile isWordChar
  let rest := cs.drop word.length
  match date? word, rest with
  | some (_, []), ' ' :: time =>
    if (fixed? 2 time).isSome then
      let time := time.takeWhile isWordChar
      (word ++ ' ' :: time, rest.drop (time.length + 1))
    else (word, rest)
  | _, _ => (word, rest)

mutual

/-- A value, with `fuel` a bound on the steps and `depth` on the brackets that it may open. -/
def value? : Nat → Nat → List Char → Option (Setting × List Char)
  | 0, _, _ => none
  | fuel + 1, depth, cs =>
    match cs, depth with
    | '"' :: _, _ => (text? true '"' cs).map fun (s, rest) => (.text (String.ofList s), rest)
    | '\'' :: _, _ => (text? true '\'' cs).map fun (s, rest) => (.text (String.ofList s), rest)
    | '[' :: rest, depth + 1 => do
      let (items, rest) ← items? fuel depth rest
      return (.list items, rest)
    | '\x7b' :: rest, depth + 1 => do
      let (entries, rest) ← inline? fuel depth [] rest
      return (.table (entriesToSettings entries), rest)
    | cs, _ => do
      let (word, rest) := wordAt cs
      return (← word? word, rest)

/-- The values of a list behind its opening bracket. -/
def items? : Nat → Nat → List Char → Option (List Setting × List Char)
  | 0, _, _ => none
  | fuel + 1, depth, cs =>
    match skipLines (cs.length + 1) cs with
    | ']' :: rest => some ([], rest)
    | cs => do
      let (item, rest) ← value? fuel depth cs
      match skipLines (rest.length + 1) rest with
      | ']' :: rest => return ([item], rest)
      | ',' :: rest => do
        let (items, rest) ← items? fuel depth rest
        return (item :: items, rest)
      | _ => none

/-- The entries of a table behind its opening brace, added to those before them. -/
def inline? : Nat → Nat → Entries → List Char → Option (Entries × List Char)
  | 0, _, _, _ => none
  | fuel + 1, depth, entries, cs =>
    match skipLines (cs.length + 1) cs with
    | '\x7d' :: rest => some (entries, rest)
    | cs => do
      let (path, name, rest) ← key? cs
      match skipLines (rest.length + 1) rest with
      | '=' :: rest => do
        let (value, rest) ← value? fuel depth (skipLines (rest.length + 1) rest)
        let entries ← entries.add? path name value
        match skipLines (rest.length + 1) rest with
        | '\x7d' :: rest => return (entries, rest)
        | ',' :: rest => inline? fuel depth entries rest
        | _ => none
      | _ => none

end

/-- A document so far: its tables, and the path of the table that keys now go to. -/
structure Document where
  entries : Entries := []
  current : List String := []
  deriving Repr

/-- Reads a header behind its opening brackets. -/
def Document.header? (d : Document) (series : Bool) (cs : List Char) :
    Option (Document × List Char) := do
  let (path, name, rest) ← key? cs
  let closing := if series then [']', ']'] else [']']
  if !closing.isPrefixOf rest then none
  else
    let entries ←
      if series then d.entries.openSeries? path name else d.entries.openTable? path name
    return (⟨entries, path ++ [name]⟩, rest.drop closing.length)

/-- Reads a key with its value. -/
def Document.entry? (d : Document) (cs : List Char) : Option (Document × List Char) := do
  let (path, name, rest) ← key? cs
  match rest with
  | '=' :: rest =>
    let (value, rest) ← value? (rest.length + 1) maxDepth (skipGaps rest)
    let entries ← d.entries.at? (Entries.add? path name value) d.current
    return ({ d with entries }, rest)
  | _ => none

/-- Reads the lines of a document, at most `fuel` of them. -/
def Document.lines? : Nat → Document → List Char → Option Document
  | 0, _, _ => none
  | fuel + 1, d, cs =>
    match skipLines (cs.length + 1) cs with
    | [] => some d
    | '[' :: '[' :: rest => do
      let (d, rest) ← d.header? true rest
      d.lines? fuel (← endLine? rest)
    | '[' :: rest => do
      let (d, rest) ← d.header? false rest
      d.lines? fuel (← endLine? rest)
    | cs => do
      let (d, rest) ← d.entry? cs
      d.lines? fuel (← endLine? rest)

/-- The text without a byte order mark. -/
def skipMark : List Char → List Char
  | '\ufeff' :: rest => rest
  | cs => cs

/-- Reads a document, which may have a byte order mark in front. -/
def read? (text : String) : Option (List (String × Setting)) := do
  let cs := skipMark text.toList
  let d ← Document.lines? (cs.length + 1) {} cs
  return entriesToSettings d.entries

end DeviceSessions.Toml
