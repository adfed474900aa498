import ImageFallback.Log.Level
import ImageFallback.Text.Quoted
import ImageFallback.Text.Split

/-!
# Events

What a program may tell about its work, each with its level and with the part of the program that it
comes from. The log shows the level, a message, and the details by name; line breaks in a detail
that is not quoted break the line of the log too.
-/

namespace ImageFallback

/-- Something worth telling. -/
inductive Event where
  /-- A text literal was left alone. -/
  | textKept (path : String)
  /-- A text literal got a second version. -/
  | textSwapped (path newPath : String)
  /-- A template with that many stretches of text was left alone. -/
  | templateKept (quasis : Nat)
  /-- A template with that many stretches of text and expressions got a second version. -/
  | templateSwapped (quasis expressions : Nat)
  /-- The argument of the call that starts there was left alone because of a comment. -/
  | argumentSkipped (start : Nat) (marker : String)
  /-- A source was finished. -/
  | finished (calls swapped skipped : Nat)
  /-- A folder holds no options. -/
  | optionsAbsent (root : String)
  /-- Options are read from a file. -/
  | optionsLoading (path : String)
  deriving DecidableEq, Repr

namespace Event

/-- How important an event is. -/
def level : Event → Level
  | textKept _ | templateKept _ => .trace
  | finished .. => .info
  | _ => .debug

/-- The part of the program that an event comes from. -/
def target : Event → String
  | textKept _ | textSwapped .. | templateKept _ | templateSwapped .. => "webp_swap::rewriter"
  | argumentSkipped .. => "webp_swap::pass"
  | finished .. => "webp_swap::transform"
  | optionsAbsent _ | optionsLoading _ => "webp_swap_config::discovery"

/-- The message of an event. -/
def message : Event → String
  | textKept _ => "string literal left as is"
  | textSwapped .. => "rewriting string literal"
  | templateKept _ => "template literal left as is"
  | templateSwapped .. => "rewriting template literal"
  | argumentSkipped .. => "loader argument skipped by annotation"
  | finished .. => "webp rewrite finished"
  | optionsAbsent _ => "no webp-swap options found, using defaults"
  | optionsLoading _ => "loading webp-swap options"

/-- The details of an event by name, as they are shown. -/
def details : Event → List (String × String)
  | textKept path => [("path", Text.quoted path)]
  | textSwapped path newPath => [("from", Text.quoted path), ("to", newPath)]
  | templateKept quasis => [("quasis", toString quasis)]
  | templateSwapped quasis expressions =>
    [("quasis", toString quasis), ("expressions", toString expressions)]
  | argumentSkipped start marker => [("start", toString start), ("marker", Text.quoted marker)]
  | finished calls swapped skipped =>
    [("loader_calls", toString calls), ("rewritten", toString swapped),
      ("skipped", toString skipped)]
  | optionsAbsent root => [("root", root)]
  | optionsLoading path => [("path", path)]

/-- The word for a level in a line of the log, five columns wide. -/
def levelColumn : Level → String
  | .silent => "  OFF"
  | .error => "ERROR"
  | .warn => " WARN"
  | .info => " INFO"
  | .debug => "DEBUG"
  | .trace => "TRACE"

/-- The names of what an event tells: its message and its details. -/
def names (event : Event) : List String := "message" :: event.details.map Prod.fst

/-- The text of the log for an event. -/
def text (event : Event) : String :=
  event.details.foldl (fun text d => text ++ " " ++ d.1 ++ "=" ++ d.2)
    (levelColumn event.level ++ " " ++ event.message)

/-- The lines of the log for an event. -/
def lines (event : Event) : List String := Text.lines event.text

end Event

end ImageFallback
