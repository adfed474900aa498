/-!
# Slices by byte offsets

Positions in a source text count the bytes of its UTF-8 form. A slice exists only where both of its
ends fall between two characters of the text and stand in order.
-/

namespace ImageFallback.Text

/-- Parts the characters after exactly `n` bytes; there is no such place when `n` falls inside a
character or beyond the end. -/
def splitBytes : List Char → Nat → Option (List Char × List Char)
  | [], n => if n = 0 then some ([], []) else none
  | c :: rest, n =>
    if n = 0 then some ([], c :: rest)
    else if c.utf8Size ≤ n then
      (splitBytes rest (n - c.utf8Size)).map fun parts => (c :: parts.1, parts.2)
    else none

/-- The text between two byte offsets, if they mark a slice. -/
def slice? (text : String) (start stop : Nat) : Option String :=
  if start ≤ stop then do
    let (_, rest) ← splitBytes text.toList start
    let (middle, _) ← splitBytes rest (stop - start)
    return String.ofList middle
  else none

/-- The number of bytes that the characters take. -/
def byteCount : List Char → Nat
  | [] => 0
  | c :: rest => c.utf8Size + byteCount rest

end ImageFallback.Text
