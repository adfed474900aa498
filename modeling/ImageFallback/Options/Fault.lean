import ImageFallback.Data.Value
import ImageFallback.Number.Shortest
import ImageFallback.Text.Quoted

/-!
# Faults of option values

A value that does not describe options has a fault: a part of the wrong type, an option given under
two of its names, or a list with more items than there are options. The fault says where it lies and
is worded in two ways, one for a single value and one for values that were gathered from several
places.
-/

namespace ImageFallback

/-- What stands in a place of the options. -/
inductive Wanted where
  | text
  | sequence
  | truth
  | options
  | shapes
  deriving DecidableEq, Repr

/-- The words for what is wanted. -/
def Wanted.words : Wanted → String
  | .text => "a string"
  | .sequence => "a sequence"
  | .truth => "a boolean"
  | .options => "struct WebpOptions"
  | .shapes => "struct RewritableShapes"

/-- Why a value does not describe options, with the path to the part that is at fault. -/
inductive Fault where
  /-- A part has another type than the one wanted. -/
  | wrongType (path : List Value.Step) (found : Value) (wanted : Wanted)
  /-- A field occurs under two of its names in the part at the path. -/
  | duplicate (path : List Value.Step) (field : String)
  /-- A list of that length has more items than there are fields. -/
  | tooLong (length : Nat)
  deriving Repr

namespace Fault

/-- The fault seen from one step further out. -/
def under (step : Value.Step) : Fault → Fault
  | wrongType path found wanted => wrongType (step :: path) found wanted
  | duplicate path field => duplicate (step :: path) field
  | tooLong length => tooLong length

/-- The words for a value in a message about a single value. -/
def shown : Value → String
  | .null => "null"
  | .bool b => s!"boolean `{b}`"
  | .natural n => s!"integer `{n}`"
  | .integer i => s!"integer `{i}`"
  | .real x => "floating point `" ++ x.mixed ++ "`"
  | .text s => "string " ++ Text.quoted s
  | .list _ => "sequence"
  | .map _ => "map"

/-- The message about a single value. -/
def message : Fault → String
  | wrongType _ found wanted =>
    "invalid type: " ++ shown found ++ ", expected " ++ wanted.words
  | duplicate _ field => "duplicate field `" ++ field ++ "`"
  | tooLong length => s!"invalid length {length}, expected fewer elements in array"

/-- The words for a value in a message about gathered values. -/
def shownGathered : Value → String
  | .null => "unit"
  | .bool b => s!"bool {b}"
  | .natural n => s!"unsigned int `{n}`"
  | .integer i => s!"signed int `{i}`"
  | .real x => "float `" ++ x.positional ++ "`"
  | .text s => "string " ++ Text.quoted s
  | .list _ => "sequence"
  | .map _ => "map"

/-- The message about gathered values, before the place is named. -/
def gatheredMessage : Fault → String
  | wrongType _ found wanted =>
    "invalid type: found " ++ shownGathered found ++ ", expected " ++ wanted.words
  | duplicate _ field => "duplicate field `" ++ field ++ "`"
  | tooLong length => s!"invalid length {length}"

/-- The path to the part at fault. -/
def path : Fault → List Value.Step
  | wrongType path _ _ => path
  | duplicate path _ => path
  | tooLong _ => []

end Fault

end ImageFallback
