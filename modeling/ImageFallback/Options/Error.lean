import ImageFallback.Options.Fault
import ImageFallback.Options.Validate

/-!
# Errors of options

Everything that can keep a project from getting its options, each as its cause. The wording stands
in one place, `OptionsError.message`.
-/

namespace ImageFallback

/-- Why a file could not be read as text. -/
inductive Unreadable where
  | folder
  | encoding
  deriving DecidableEq, Repr

/-- The words of the file system. -/
def Unreadable.words : Unreadable → String
  | .folder => "Is a directory (os error 21)"
  | .encoding => "stream did not contain valid UTF-8"

/-- Why there are no options. -/
inductive OptionsError where
  /-- No file holds options. -/
  | notFound
  /-- A value does not describe options. -/
  | value (fault : Fault)
  /-- A settings file is no TOML. -/
  | toml
  /-- The package file is no JSON. -/
  | package
  /-- The package file has no field for options. -/
  | fieldMissing
  /-- The field for options in the package file is null. -/
  | fieldNull
  /-- The gathered values do not describe options; `detail` words the fault and its place, and is
  missing where a file could not be understood at all. -/
  | gathered (detail : Option String)
  /-- The options break a rule. -/
  | schema (violation : Violation)
  /-- A file could not be read. -/
  | unreadable (cause : Unreadable)
  deriving Repr

namespace OptionsError

/-- The field that an invalid value was meant for. -/
def field? : OptionsError → Option String
  | value _ => some "options"
  | toml => some "toml"
  | package => some "package.json"
  | fieldMissing | fieldNull => some "webpSwap"
  | gathered _ => some "configuration"
  | _ => none

/-- The message about an invalid value of a field. -/
def invalid (field : String) (hint : Option String) : String :=
  "invalid config value for '" ++ field ++ "'" ++
    match hint with
    | some hint => ": " ++ hint
    | none => ""

/-- The message of an error. -/
def message : OptionsError → String
  | notFound => "config not found"
  | value fault => invalid "options" (some fault.message)
  | toml => invalid "toml" (some "Invalid TOML syntax")
  | package => invalid "package.json" (some "Invalid JSON")
  | fieldMissing => invalid "webpSwap" (some "Add a 'webpSwap' field to your package.json")
  | fieldNull => invalid "webpSwap" (some "The 'webpSwap' field cannot be null")
  | gathered detail => invalid "configuration" detail
  | schema violation =>
    "schema validation failed: " ++ violation.summary ++ " (" ++ violation.hint ++ ")"
  | unreadable cause => "I/O error: " ++ cause.words

end OptionsError

end ImageFallback
