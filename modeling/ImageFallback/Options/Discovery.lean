import ImageFallback.Data.Files
import ImageFallback.Log.Event
import ImageFallback.Options.Load

/-!
# Finding the options of a project

The options of a project stand in its settings file, or else in a field of its package file. The
settings file counts as soon as something has its name. The package file counts only when it can be
read and its field holds something, so a package that does not mention options is passed over.
-/

namespace ImageFallback.Discovery

/-- The two places of options. -/
inductive Source where
  | settings
  | package
  deriving DecidableEq, Repr

/-- The file name of a source. -/
def Source.fileName : Source → String
  | .settings => "webp-swap.toml"
  | .package => "package.json"

/-- The field of the package file that holds options. -/
def packageField : String := "webpSwap"

/-- The text of a file, or why there is none. -/
def readText : Entry → Except Unreadable String
  | .folder => .error .folder
  | .bytes => .error .encoding
  | .text content => .ok content

/-- A field of a value that is a map. -/
def fieldOf? (value : Value) : Option Value :=
  match value with
  | .map fields => Value.field? packageField fields
  | _ => none

/-- Whether the package file holds options. -/
def mentionsOptions (entry : Entry) : Bool :=
  match readText entry with
  | .error _ => false
  | .ok content =>
    match (Json.read? Json.fileDepth content).bind fieldOf? with
    | none => false
    | some .null => false
    | some _ => true

/-- The source of the options of a folder. -/
def find (folder : Folder) : Option Source :=
  if (folder Source.settings.fileName).isSome then some .settings
  else
    match folder Source.package.fileName with
    | some entry => if mentionsOptions entry then some .package else none
    | none => none

/-- Options from the settings file. -/
def loadSettings (entry : Entry) : Except OptionsError Options := do
  let content ← (readText entry).mapError .unreadable
  Options.ofToml content

/-- Options from the package file. -/
def loadPackage (entry : Entry) : Except OptionsError Options := do
  let content ← (readText entry).mapError .unreadable
  match Json.read? Json.fileDepth content with
  | none => .error .package
  | some value =>
    match fieldOf? value with
    | none => .error .fieldMissing
    | some .null => .error .fieldNull
    | some field => Options.ofValue field

/-- Options from a source of a folder. -/
def loadFrom (folder : Folder) (source : Source) : Except OptionsError Options :=
  match folder source.fileName with
  | none => .error .notFound
  | some entry =>
    match source with
    | .settings => loadSettings entry
    | .package => loadPackage entry

/-- The options of a folder. -/
def load (folder : Folder) : Except OptionsError Options :=
  match find folder with
  | some source => loadFrom folder source
  | none => .error .notFound

/-- The options of a folder, or the defaults when it has none. -/
def loadOrDefault (folder : Folder) : Except OptionsError Options :=
  match find folder with
  | some source => loadFrom folder source
  | none => .ok {}

/-- What is told when the options of a folder are loaded. -/
def events (root : String) (folder : Folder) : List Event :=
  match find folder with
  | some source => [.optionsLoading (Files.pathIn root source.fileName)]
  | none => [.optionsAbsent root]

end ImageFallback.Discovery
