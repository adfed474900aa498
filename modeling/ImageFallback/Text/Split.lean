/-!
# Splitting at a character

The parts of a text between the occurrences of one character. A text without it is one part, and the
empty text is one empty part. The lines of a text are the parts between its line feeds, each without
the carriage return that may end it.
-/

namespace ImageFallback.Text

/-- The parts of a text between the occurrences of `mark`. -/
def split (mark : Char) (text : String) : List String :=
  (text.toList.splitOn mark).map String.ofList

/-- The characters without a carriage return at their end. -/
def dropReturn (cs : List Char) : List Char :=
  if cs.getLast? = some '\r' then cs.dropLast else cs

/-- The lines of a text. -/
def lines (text : String) : List String :=
  (text.toList.splitOn '\n').map fun cs => String.ofList (dropReturn cs)

theorem split_ne_nil (mark : Char) (text : String) : split mark text ≠ [] := by
  rw [split, ne_eq, List.map_eq_nil_iff]
  exact List.splitOn_ne_nil mark text.toList

end ImageFallback.Text
