import ImageFallback.Syntax.Node
import ImageFallback.Text.Occurrence
import ImageFallback.Text.Slice

/-!
# Comments of a source

The text of a comment is what stands between its marks. A comment is known by its span in the
source; a span that marks no slice of the source stands for no comment.
-/

namespace ImageFallback

/-- A comment with its place and its text. -/
structure Remark where
  span : Span
  body : String
  deriving DecidableEq, Repr

namespace Remark

/-- The text of a comment between its marks; the closing mark may be missing, and what has no mark
is taken as it is. -/
def bodyOf (raw : String) : String :=
  match raw.toList with
  | '/' :: '*' :: rest => String.ofList ((['*', '/'].isSuffixOf? rest).getD rest)
  | '/' :: '/' :: rest => String.ofList rest
  | _ => raw

/-- The comments of a source at the given places. -/
def ofSource (source : String) (spans : List Span) : List Remark :=
  spans.filterMap fun span =>
    (Text.slice? source span.start span.stop).map fun raw => ⟨span, bodyOf raw⟩

/-- The comments that lie between two offsets. -/
def between (remarks : List Remark) (start stop : Nat) : List Remark :=
  remarks.filter fun r => start ≤ r.span.start && r.span.stop ≤ stop

/-- One of the texts holds the marker. -/
def anyMarked (marker : String) (bodies : List String) : Bool :=
  bodies.any (Text.occursIn marker)

end Remark

end ImageFallback
