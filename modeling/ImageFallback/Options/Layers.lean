import ImageFallback.Data.Files
import ImageFallback.Data.Setting
import ImageFallback.Options.Discovery

/-!
# Options in layers

Options may be gathered from a file and from the environment, which lies above the file. A file,
which is JSON or TOML of the first edition, is looked for in the working folder and then in every
folder above it; one that is missing is no layer. The name of a variable, after its beginning that
all have in common, is the path of an option, with dots between the names. The two layers are laid
over each other before they are read, so a name counts as it is spelled, and a fault is placed in
the layer that its part comes from.
-/

namespace ImageFallback.Layers

/-- The format of an option file. -/
inductive Format where
  | json
  | toml
  deriving DecidableEq, Repr

/-- The words for a format. -/
def Format.words : Format → String
  | .json => "JSON file"
  | .toml => "TOML file"

/-- The part of a file name after its last dot; a dot at the start does not count. -/
def extension? (name : String) : Option String :=
  match (Text.split '.' name).reverse with
  | last :: before :: more => if more.isEmpty && before.isEmpty then none else some last
  | _ => none

/-- A file with the extension `json` is JSON, and every other one is TOML. -/
def Format.ofPath (path : String) : Format :=
  match (Files.names path).getLast? with
  | some name => if name != ".." && extension? name == some "json" then .json else .toml
  | none => .toml

/-- The folder in which a path leads to a file, the working folder first. -/
def search? (files : Files) (path : String) : Nat → List String → Option (List String)
  | 0, _ => none
  | fuel + 1, folder =>
    match files.entryFrom? folder path with
    | some (.text _) | some .bytes => some folder
    | _ => if folder.isEmpty then none else search? files path fuel folder.dropLast

/-- A path to a place as seen from a folder. -/
def relative : List String → List String → List String
  | name :: place, name' :: folder =>
    if name = name' then relative place folder
    else List.replicate (folder.length + 1) ".." ++ name :: place
  | place, folder => List.replicate folder.length ".." ++ place

/-- A file that was found: its path as messages name it, its format and what it holds. -/
structure File where
  path : String
  format : Format
  entry : Entry

/-- Looks for an option file from a working folder. -/
def locate? (files : Files) (folder : List String) (path : String) : Option File := do
  let found ← search? files path (folder.length + 1) folder
  let entry ← files.entryFrom? found path
  return {
    path := String.intercalate "/" (relative (found ++ Files.names path) folder)
    format := Format.ofPath path
    entry := entry }

/-- The map that a file holds; nothing when it holds none. -/
def File.value? (file : File) : Option Value :=
  match file.entry with
  | .text content =>
    match file.format with
    | .toml => Toml.read? .first content
    | .json =>
      match Json.read? Json.fileDepth content with
      | some (.map fields) => some (.map fields)
      | _ => none
  | _ => none

/-! ## The environment -/

/-- The beginning of the names of all variables. -/
def namespaceOf : String := "WEBP_SWAP_"

/-- The path of option names that a variable sets, in small letters; nothing for the name of another
variable or for a path with an empty name. -/
def variablePath? (name : String) : Option (List String) := do
  let lower := (Text.trim name).toList.map Char.toLower
  let rest ← (namespaceOf.toList.map Char.toLower).isPrefixOf? lower
  let path := Text.split '.' (Text.trim (String.ofList rest))
  if path.any (·.isEmpty) then none else return path

/-- The map with one value at the end of a path. -/
def nest (value : Value) : List String → Value
  | [] => value
  | name :: path => .map [(name, nest value path)]

/-- The layer of the environment. -/
def environment (settings : List (String × String)) : Value :=
  settings.foldl (fun layer v =>
    match variablePath? v.1 with
    | some path => layer.overlay (nest (Setting.read v.2) path)
    | none => layer) (.map [])

/-! ## Loading -/

/-- The words for the place of a fault. A part that the environment sets comes from there, any other
one from the file. -/
def place (file : Option File) (environment : Value) (path : List Value.Step) : String :=
  let steps := path.map Value.Step.text
  match environment.at? path, file with
  | none, some file =>
    " for key " ++ Text.quoted (String.intercalate "." ("default" :: steps)) ++ " in " ++
      file.path ++ " " ++ file.format.words
  | _, _ =>
    let upper := (String.intercalate "." steps).toList.map Char.toUpper
    " for key " ++ Text.quoted (String.ofList upper) ++ " in `" ++ namespaceOf ++
      "` environment variable(s)"

/-- The words for a fault of gathered values. -/
def detail (file : Option File) (environment : Value) (fault : Fault) : String :=
  fault.gatheredMessage ++
    (if fault.path.isEmpty then "" else place file environment fault.path) ++
    "; check the options file syntax and " ++ namespaceOf ++ "* variables"

/-- Options from a file, if there is one, and from the environment. -/
def load (file : Option File) (settings : List (String × String)) :
    Except OptionsError Options :=
  let above := environment settings
  match file.map File.value? with
  | some none => .error (.gathered none)
  | lower =>
    let below := match lower with
      | some (some value) => value
      | _ => .map []
    (Options.decode .ignored (below.overlay above)).mapError fun fault =>
      .gathered (some (detail file above fault))

end ImageFallback.Layers
