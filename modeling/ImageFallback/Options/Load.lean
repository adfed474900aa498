import ImageFallback.Data.Json
import ImageFallback.Data.Toml.Document
import ImageFallback.Options.Decode
import ImageFallback.Options.Error

/-!
# Loading options from one value or document

A null value stands for the defaults. A TOML document, of the second edition, is turned into a value
first, where numbers that are not finite become null because such values have no place for them.
-/

namespace ImageFallback

namespace Value

mutual

/-- The value with every number that is not finite replaced by null. -/
def finite : Value → Value
  | .real .nan => .null
  | .real (.infinite _) => .null
  | .real x => .real x
  | .list items => .list (finiteItems items)
  | .map fields => .map (finiteFields fields)
  | .null => .null
  | .bool b => .bool b
  | .natural n => .natural n
  | .integer i => .integer i
  | .text s => .text s

/-- The items of a list with every number that is not finite replaced by null. -/
def finiteItems : List Value → List Value
  | [] => []
  | item :: rest => finite item :: finiteItems rest

/-- The fields of a map with every number that is not finite replaced by null. -/
def finiteFields : List (String × Value) → List (String × Value)
  | [] => []
  | (key, value) :: rest => (key, finite value) :: finiteFields rest

end

end Value

namespace Options

/-- Options from a single value. -/
def ofValue (value : Value) : Except OptionsError Options :=
  match value with
  | .null => .ok {}
  | value => (decode .refused value).mapError .value

/-- Options from a TOML document. -/
def ofToml (text : String) : Except OptionsError Options :=
  match Toml.read? .second text with
  | some value => ofValue value.finite
  | none => .error .toml

end Options

end ImageFallback
