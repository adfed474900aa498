import ImageFallback.Options.Error
import ImageFallback.Swap.Extensions
import ImageFallback.Syntax.Node

/-!
# Resolved options

Options that were checked, in the form in which the work needs them: the path of the run-time test
is split into its first name and the names of the members that follow.
-/

namespace ImageFallback

/-- What can go wrong with a source. -/
inductive SwapError where
  /-- The options cannot be used. -/
  | options (cause : OptionsError)
  /-- The source cannot be parsed. -/
  | unparsable
  /-- A template has another number of texts than one more than it has expressions. -/
  | malformedTemplate (quasis expressions : Nat)
  deriving Repr

namespace SwapError

/-- The code of an error. -/
def code : SwapError → String
  | options _ => "webp_swap::config"
  | unparsable => "webp_swap::parse"
  | malformedTemplate .. => "webp_swap::invariant"

/-- The message of an error. -/
def message : SwapError → String
  | options cause => "Invalid configuration: " ++ cause.message
  | unparsable => "Parse failed"
  | malformedTemplate quasis expressions =>
    "Invariant violated on TemplateLiteral - " ++ toString quasis ++ " quasis for " ++
      toString expressions ++ " expressions"

end SwapError

/-- Options in the form in which the work needs them. -/
structure Config where
  extensions : Extensions := {}
  ignoreMarker : String := "webp-ignore"
  inlineMarker : String := "?inline"
  shapes : Shapes := {}
  loader : String := "require"
  predicateRoot : String := "window"
  predicateMembers : List String := ["isSupportWebp"]
  deriving DecidableEq, Repr

namespace Config

/-- Checks options and splits the path of the run-time test. -/
def ofOptions (options : Options) : Except SwapError Config :=
  match options.validate with
  | .error violation => .error (.options (.schema violation))
  | .ok () => .ok {
      extensions := { recognized := options.extensions, target := options.target }
      ignoreMarker := options.ignoreMarker
      inlineMarker := options.inlineMarker
      shapes := options.shapes
      loader := options.loader
      predicateRoot := options.predicatePath.headD ""
      predicateMembers := options.predicatePath.tail }

/-- Whether arguments of a shape may be changed. -/
def allows (config : Config) : Shape → Bool
  | .plain => config.shapes.string
  | .templated => config.shapes.template
  | .conditional => config.shapes.conditional
  | .other => false

/-- The run-time test: the members one after the other, from the first name on. -/
def supportTest (config : Config) : Node :=
  config.predicateMembers.foldl
    (fun object member => .unary Span.none (.member member false) object)
    (.name Span.none config.predicateRoot)

end Config

end ImageFallback
