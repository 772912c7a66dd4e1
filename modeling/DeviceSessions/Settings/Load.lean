import DeviceSessions.Json.Reader
import DeviceSessions.Settings.Environment
import DeviceSessions.Settings.Layers
import DeviceSessions.Toml.Reader

/-!
# Loading settings

Settings come in layers: a file, a file for the environment that the program runs in, and the
variables of the environment; each layer goes over those before it. A file that is not there is an
empty layer. A name may leave out the extension of its file.
-/

namespace DeviceSessions.Settings

/-- The formats of files. -/
inductive FileFormat where
  | toml
  | json
  deriving DecidableEq, Repr

/-- The formats by the extensions of their files. -/
def FileFormat.byExtension : List (String × FileFormat) := [("toml", .toml), ("json", .json)]

/-- The layer that a text of a format is. -/
def FileFormat.read? (format : FileFormat) (text : String) : Option (List (String × Setting)) :=
  match format with
  | .toml => Toml.read? text
  | .json => do
    let json ← Json.ofString? text
    match Setting.ofJson json with
    | .table entries => if json.isSound Json.maxDepth then some entries else none
    | _ => none

/-- A path read backwards, without the slashes and points at its end, which stand for nothing. -/
def dropEmptyParts : List Char → List Char
  | '/' :: rest => dropEmptyParts rest
  | '.' :: '/' :: rest => dropEmptyParts rest
  | ['.'] => []
  | path => path

/-- The name at the end of a path, behind what leads to it. A path that ends in a step back, or has
no steps, has none. -/
def fileName? (path : List Char) : Option (List Char × List Char) :=
  let backwards := dropEmptyParts path.reverse
  let name := (backwards.takeWhile (· != '/')).reverse
  if name.isEmpty || name == ['.', '.'] then none
  else some ((backwards.drop name.length).reverse, name)

/-- A name in two parts: the stem, and the extension behind its last point, unless that is the first
character. -/
def stemOf (name : List Char) : List Char × Option String :=
  match Text.cutLast '.' name with
  | some ([], _) | none => (name, none)
  | some (stem, ext) => (stem, some (String.ofList ext))

/-- The extension of a path. -/
def extension? (path : List Char) : Option String :=
  (fileName? path).bind fun (_, name) => (stemOf name).2

/-- A path with another extension. -/
def withExtension? (path : List Char) (ext : String) : Option String :=
  (fileName? path).map fun (front, name) =>
    String.ofList (front ++ (stemOf name).1 ++ '.' :: ext.toList)

/-- A file of settings: its format and its text. -/
structure File where
  format : FileFormat
  text : String
  deriving Repr

/-- The paths that a name may stand for, with their formats: the one with just that name, whose
extension need not be known, and those with an extension added. A name with an extension keeps it,
and one that ends in a slash then stands for a file without a stem. -/
def candidates (name : String) : List (String × Option FileFormat) :=
  let path := name.toList
  let ext? := extension? path
  let base := if ext?.isSome then path ++ ".placeholder".toList else path
  (name, ext?.bind fun ext => FileFormat.byExtension.lookup ext) ::
    FileFormat.byExtension.filterMap fun (ext, format) =>
      (withExtension? base ext).map fun p => (p, some format)

/-- The file of a name: the first of its candidates that is there, if its format is known. -/
def File.find? (files : String → Option String) (name : String) : Option File :=
  match (candidates name).findSome? fun (path, format) => (files path).map fun t => (format, t) with
  | some (some format, text) => some ⟨format, text⟩
  | _ => none

/-- The text without a byte order mark. -/
def withoutMark (text : String) : String :=
  match text.toList with
  | '\ufeff' :: rest => String.ofList rest
  | _ => text

/-- The layer of the file of a name, which is empty if there is no such file. -/
def fileLayer? (files : String → Option String) (name : String) :
    Option (List (String × Setting)) :=
  match File.find? files name with
  | some file => file.format.read? (withoutMark file.text)
  | none => some []

/-- The error of a file that cannot be read. -/
def buildError : Error := ⟨.configuration, "Failed to build config", false⟩

/-- The error of values that are no settings. -/
def conversionError : Error := ⟨.configuration, "Failed to deserialize config", false⟩

/-- The names of the files of settings, the lowest layer first. -/
def fileNames (name : String) (environment : Option String) : List String :=
  match environment with
  | some e => [name, "config/" ++ e]
  | none => [name]

/-- The layers of the files and of the variables, if the files can be read. -/
def layers? (files : String → Option String) (names : List String)
    (vars : List (String × String)) : Option (List (List (String × Setting))) := do
  return (← names.mapM (fileLayer? files)) ++ [Environment.layer vars]

/-- Loads settings, which have to be good. -/
def load (files : String → Option String) (name : String) (environment : Option String)
    (vars : List (String × String)) : Result Settings := do
  let some layers := layers? files (fileNames name environment) vars | throw buildError
  let some s := ofSetting? (layers.foldl Setting.addLayer (.table [])) | throw conversionError
  s.validate
  return s

end DeviceSessions.Settings
