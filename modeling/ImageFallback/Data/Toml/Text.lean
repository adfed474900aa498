import ImageFallback.Data.Json

/-!
# Texts and keys of TOML

Four kinds of text: between double quotes with escapes, between single quotes without, and both of
these over several lines between three quotes. A key is a bare word or a text of one line.

There are two editions of the format. The second one has two more escapes, lets a map that is
written as a value extend over several lines and end with a comma, and makes the seconds of a time
optional. It keeps the carriage return of a line break inside a text, which the first one drops.
-/

namespace ImageFallback.Toml

/-- The editions of the format. -/
inductive Edition where
  | first
  | second
  deriving DecidableEq, Repr

/-- How deep lists and maps may lie inside one another, and how many parts a key may have. -/
def Edition.depth : Edition → Nat
  | .first => 79
  | .second => 80

/-- A control character that no text or comment may hold; the tab is none. -/
def isControl (c : Char) : Bool := c != '\t' && (c.toNat < 0x20 || c.toNat == 0x7F)

/-- The blanks inside a line. -/
def isSpace (c : Char) : Bool := c == ' ' || c == '\t'

/-- The characters after the blanks of the line. -/
def skipSpace (cs : List Char) : List Char := cs.dropWhile isSpace

/-- The characters after a line break, if the list starts with one. -/
def lineBreak? : List Char → Option (List Char)
  | '\n' :: rest => some rest
  | '\r' :: '\n' :: rest => some rest
  | _ => none

/-- Drops blanks and line breaks. -/
def skipLines : List Char → List Char
  | [] => []
  | '\r' :: '\n' :: rest => skipLines rest
  | c :: rest => if isSpace c || c == '\n' then skipLines rest else c :: rest

/-- The character with a code point that a text may hold. -/
def scalar? (n : Nat) : Option Char :=
  if n < 0xD800 || (0xDFFF < n && n ≤ 0x10FFFF) then some (Char.ofNat n) else none

/-- The character of an escape after its backslash. -/
def escape? (edition : Edition) : List Char → Option (Char × List Char)
  | '"' :: rest => some ('"', rest)
  | '\\' :: rest => some ('\\', rest)
  | 'b' :: rest => some (Char.ofNat 8, rest)
  | 'f' :: rest => some (Char.ofNat 12, rest)
  | 'n' :: rest => some ('\n', rest)
  | 'r' :: rest => some ('\r', rest)
  | 't' :: rest => some ('\t', rest)
  | 'u' :: rest => sized 4 rest
  | 'U' :: rest => sized 8 rest
  | 'e' :: rest => if edition = .second then some (Char.ofNat 0x1B, rest) else none
  | 'x' :: rest => if edition = .second then sized 2 rest else none
  | _ => none
where
  sized (n : Nat) (cs : List Char) : Option (Char × List Char) :=
    if (cs.take n).length == n then
      ((Number.hexValue? (cs.take n)).bind scalar?).map (·, cs.drop n)
    else none

/-- The rest of a text of one line; `plain` texts have no escapes. -/
def lineBody (edition : Edition) (mark : Char) (plain : Bool) :
    Nat → List Char → Option (List Char × List Char)
  | 0, _ => none
  | _ + 1, [] => none
  | fuel + 1, c :: rest =>
    if c == mark then some ([], rest)
    else if c == '\\' && !plain then do
      let (c, rest) ← escape? edition rest
      let (cs, rest) ← lineBody edition mark plain fuel rest
      return (c :: cs, rest)
    else if isControl c then none
    else (lineBody edition mark plain fuel rest).map fun r => (c :: r.1, r.2)

/-- The rest of a text of several lines. Up to two marks may stand right before the closing three,
and a backslash at the end of a line takes the blanks and line breaks after it away. -/
def blockBody (edition : Edition) (mark : Char) (plain : Bool) :
    Nat → List Char → Option (List Char × List Char)
  | 0, _ => none
  | _ + 1, [] => none
  | fuel + 1, c :: rest =>
    if c == mark then
      let run := 1 + (rest.takeWhile (· == mark)).length
      if 3 ≤ run then
        let inner := min (run - 3) 2
        some (List.replicate inner mark, rest.drop (inner + 2))
      else (blockBody edition mark plain fuel rest).map fun r => (c :: r.1, r.2)
    else if c == '\\' && !plain then
      match lineBreak? (skipSpace rest) with
      | some rest => blockBody edition mark plain fuel (skipLines rest)
      | none => do
        let (c, rest) ← escape? edition rest
        let (cs, rest) ← blockBody edition mark plain fuel rest
        return (c :: cs, rest)
    else match lineBreak? (c :: rest) with
      | some rest =>
        let kept := if c == '\r' && edition = .second then ['\r', '\n'] else ['\n']
        (blockBody edition mark plain fuel rest).map fun r => (kept ++ r.1, r.2)
      | none =>
        if isControl c then none
        else (blockBody edition mark plain fuel rest).map fun r => (c :: r.1, r.2)

/-- A text of one line with its opening mark already read. -/
def line? (edition : Edition) (mark : Char) (cs : List Char) : Option (String × List Char) :=
  (lineBody edition mark (mark == '\'') (cs.length + 1) cs).map fun r => (String.ofList r.1, r.2)

/-- A text of several lines with its opening marks already read; a line break right after them is no
part of it. -/
def block? (edition : Edition) (mark : Char) (cs : List Char) : Option (String × List Char) :=
  let cs := (lineBreak? cs).getD cs
  (blockBody edition mark (mark == '\'') (cs.length + 1) cs).map fun r => (String.ofList r.1, r.2)

/-- A text of any kind. -/
def text? (edition : Edition) : List Char → Option (String × List Char)
  | '"' :: '"' :: '"' :: rest => block? edition '"' rest
  | '\'' :: '\'' :: '\'' :: rest => block? edition '\'' rest
  | '"' :: rest => line? edition '"' rest
  | '\'' :: rest => line? edition '\'' rest
  | _ => none

/-- A character of a bare key. -/
def isBare (c : Char) : Bool := c.isAlphanum || c == '_' || c == '-'

/-- One part of a key. -/
def keyPart? (edition : Edition) : List Char → Option (String × List Char)
  | '"' :: rest => line? edition '"' rest
  | '\'' :: rest => line? edition '\'' rest
  | cs =>
    let bare := cs.takeWhile isBare
    if bare.isEmpty then none else some (String.ofList bare, cs.dropWhile isBare)

/-- Up to `count` parts of a key, which points divide, and what follows the blanks after it. -/
def keyParts? (edition : Edition) : Nat → List Char → Option (List String × List Char)
  | 0, _ => none
  | count + 1, cs => do
    let (part, rest) ← keyPart? edition (skipSpace cs)
    match skipSpace rest with
    | '.' :: rest =>
      let (parts, rest) ← keyParts? edition count rest
      return (part :: parts, rest)
    | rest => return ([part], rest)

/-- The parts of a key and what follows it. -/
def key? (edition : Edition) (cs : List Char) : Option (List String × List Char) :=
  keyParts? edition edition.depth cs

end ImageFallback.Toml
