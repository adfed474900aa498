import ImageFallback.Options.Basic
import ImageFallback.Text.Alphabetic
import ImageFallback.Text.Blank
import ImageFallback.Text.Numeric
import ImageFallback.Text.Split

/-!
# Which options make sense

Options are usable when no text that is searched for is empty, the loader is an identifier, and the
path of the run-time test is a sequence of identifiers between dots. The first rule that is broken,
in this order, is the one reported.
-/

namespace ImageFallback

/-- A rule that options break. -/
inductive Violation where
  | emptyExtension
  | emptyTarget
  | blankIgnoreMarker
  | emptyInlineMarker
  | loaderNotName (loader : String)
  | predicateNotPath (predicate : String)
  deriving DecidableEq, Repr

namespace Violation

/-- What is wrong. -/
def summary : Violation → String
  | emptyExtension => "recognized extensions cannot be empty strings"
  | emptyTarget => "target extension cannot be empty"
  | blankIgnoreMarker => "ignore marker cannot be empty"
  | emptyInlineMarker => "inline marker cannot be empty"
  | loaderNotName loader => "loader '" ++ loader ++ "' is not a valid identifier"
  | predicateNotPath predicate =>
    "support predicate '" ++ predicate ++ "' is not a dotted identifier path"

/-- What to do about it. -/
def hint : Violation → String
  | emptyExtension => "Remove empty strings from 'recognized_extensions'"
  | emptyTarget => "Set 'target_extension' to something like \".webp\""
  | blankIgnoreMarker => "An empty marker would match every trailing comment"
  | emptyInlineMarker => "An empty marker would make every literal ineligible"
  | loaderNotName _ => "Use a plain callee name such as \"require\""
  | predicateNotPath _ => "Use a member path such as \"window.isSupportWebp\""

end Violation

namespace Identifier

/-- A character that may start an identifier. -/
def isStart (c : Char) : Bool := Text.isAlphabetic c || c == '_' || c == '$'

/-- A character with which an identifier may go on. -/
def isPart (c : Char) : Bool := Text.isAlphabetic c || Text.isNumeric c || c == '_' || c == '$'

/-- The characters form an identifier. -/
def isValid : List Char → Bool
  | [] => false
  | c :: rest => isStart c && rest.all isPart

end Identifier

namespace Options

/-- The names on the path of the run-time test. -/
def predicatePath (options : Options) : List String := Text.split '.' options.predicate

/-- Checks the rules in order. -/
def validate (options : Options) : Except Violation Unit :=
  if options.extensions.any (·.isEmpty) then .error .emptyExtension
  else if options.target.isEmpty then .error .emptyTarget
  else if (Text.trim options.ignoreMarker).isEmpty then .error .blankIgnoreMarker
  else if options.inlineMarker.isEmpty then .error .emptyInlineMarker
  else if !Identifier.isValid options.loader.toList then .error (.loaderNotName options.loader)
  else if !options.predicatePath.all (fun name => Identifier.isValid name.toList) then
    .error (.predicateNotPath options.predicate)
  else .ok ()

end Options

end ImageFallback
