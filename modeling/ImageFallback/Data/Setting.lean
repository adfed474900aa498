import ImageFallback.Data.Toml.Text
import ImageFallback.Text.Blank
import ImageFallback.Text.Slice

/-!
# Values of environment variables

A variable holds a truth value, a map in braces, a list in brackets, a text between double quotes, a
text of one character between single quotes, or a bare word. A bare word goes on to the next comma,
brace or bracket and is a number if it reads as one. A variable that does not follow this notation
to its end is a text as it stands, so that every variable has a value.

What a text between double quotes holds before its first escape is measured twice, in characters and
in bytes: of it, as many bytes are kept as it has characters. So nothing is lost unless both a
character of several bytes and an escape after it occur.
-/

namespace ImageFallback.Setting

open Number

/-- The blanks that may stand around values. -/
def isSpace (c : Char) : Bool :=
  c == ' ' || c == '\t' || c == '\n' || c == '\r' || c.toNat == 12

/-- The characters after the blanks. -/
def skipSpace (cs : List Char) : List Char := cs.dropWhile isSpace

/-- A character that ends a bare word. -/
def isSeparator (c : Char) : Bool :=
  c == ',' || c == '\x7b' || c == '\x7d' || c == '[' || c == ']'

/-- A character of a bare key. -/
def isKeyChar (c : Char) : Bool := c.isAlphanum || c == '_' || c == '-'

/-- The number that the characters spell, if all of them are digits. -/
def natural? (cs : List Char) : Option Nat :=
  if cs.isEmpty || !cs.all Char.isDigit then none
  else some (cs.foldl (fun acc c => 10 * acc + (c.toNat - '0'.toNat)) 0)

/-- A number with a point, an optional sign and an optional exponent. -/
def real? (cs : List Char) : Option Binary64 := do
  let (negative, rest) := match cs with
    | '-' :: rest => (true, rest)
    | '+' :: rest => (false, rest)
    | rest => (false, rest)
  let isMark (c : Char) : Bool := c == 'e' || c == 'E'
  let mantissa := rest.takeWhile (fun c => !isMark c)
  let whole := mantissa.takeWhile (· != '.')
  let fraction := (mantissa.dropWhile (· != '.')).drop 1
  let power ← match rest.dropWhile (fun c => !isMark c) with
    | [] => some (0 : Int)
    | _ :: '-' :: ds => (natural? ds).map fun n => -(n : Int)
    | _ :: '+' :: ds => (natural? ds).map fun n => (n : Int)
    | _ :: ds => (natural? ds).map fun n => (n : Int)
  let digits ← natural? (whole ++ fraction)
  return Binary64.ofDecimal negative digits (power - (fraction.length : Int))

/-- A natural number of 64 bits, with an optional plus. -/
def unsigned? (cs : List Char) : Option Nat := do
  let n ← natural? (match cs with
    | '+' :: rest => rest
    | rest => rest)
  if n < Nat.pow 2 64 then return n else none

/-- A number of 64 bits with a minus. -/
def negative? : List Char → Option Int
  | '-' :: rest =>
    (natural? rest).bind fun n => if n ≤ Nat.pow 2 63 then some (-(n : Int)) else none
  | _ => none

/-- The value of a bare word. -/
def ofWord (word : String) : Value :=
  let cs := word.toList
  match (if cs.contains '.' then real? cs else none), unsigned? cs, negative? cs with
  | some x, _, _ => .real x
  | none, some n, _ => .natural n
  | none, none, some i => .integer i
  | none, none, none => .text word

/-- The character of an escape after its backslash. -/
def escape? (cs : List Char) : Option (Char × List Char) := Toml.escape? .first cs

/-- The rest of a text from its first escape on. -/
def textBody : Nat → List Char → Option (List Char × List Char)
  | 0, _ => none
  | _ + 1, [] => none
  | fuel + 1, c :: rest =>
    if c == '"' then some ([], rest)
    else if c == '\\' then do
      let (c, rest) ← escape? rest
      let (cs, rest) ← textBody fuel rest
      return (c :: cs, rest)
    else if Toml.isControl c then none
    else (textBody fuel rest).map fun r => (c :: r.1, r.2)

/-- A text between double quotes with its opening quote already read. It holds no control
characters. -/
def text? (cs : List Char) : Option (String × List Char) :=
  let isPlain (c : Char) : Bool := c != '"' && c != '\\'
  let plain := cs.takeWhile isPlain
  if plain.any Toml.isControl then none
  else match cs.dropWhile isPlain with
    | [] => none
    | '"' :: rest => some (String.ofList plain, rest)
    | rest => do
      let (kept, _) ← Text.splitBytes plain plain.length
      let (cs, rest) ← textBody (rest.length + 1) rest
      return (String.ofList (kept ++ cs), rest)

/-- A key of a map. -/
def key? : List Char → Option (String × List Char)
  | '"' :: rest => text? rest
  | cs =>
    let word := cs.takeWhile isKeyChar
    if word.isEmpty then none else some (String.ofList word, cs.dropWhile isKeyChar)

mutual

/-- A value with the blanks around it. -/
def value? : Nat → List Char → Option (Value × List Char)
  | 0, _ => none
  | fuel + 1, cs =>
    let cs := skipSpace cs
    match Json.word? "true" cs, Json.word? "false" cs with
    | some rest, _ => some (.bool true, skipSpace rest)
    | none, some rest => some (.bool false, skipSpace rest)
    | none, none =>
      match cs with
      | '\x7b' :: rest =>
        (fields? fuel rest).map fun r => (Value.ofFields r.1, skipSpace r.2)
      | '[' :: rest => (items? fuel rest).map fun r => (Value.list r.1, skipSpace r.2)
      | '"' :: rest => (text? rest).map fun r => (Value.text r.1, skipSpace r.2)
      | '\'' :: c :: '\'' :: rest => some (.text (String.singleton c), skipSpace rest)
      | '\'' :: _ => none
      | cs =>
        let word := Text.trim (String.ofList (cs.takeWhile (fun c => !isSeparator c)))
        some (ofWord word, skipSpace (cs.dropWhile (fun c => !isSeparator c)))

/-- The items of a list; a comma may stand after the last one. -/
def items? : Nat → List Char → Option (List Value × List Char)
  | 0, _ => none
  | _ + 1, ']' :: rest => some ([], rest)
  | fuel + 1, cs => do
    let (item, rest) ← value? fuel cs
    match rest with
    | ',' :: rest =>
      let (items, rest) ← items? fuel rest
      return (item :: items, rest)
    | ']' :: rest => return ([item], rest)
    | _ => none

/-- The fields of a map; a comma may stand after the last one. -/
def fields? : Nat → List Char → Option (List (String × Value) × List Char)
  | 0, _ => none
  | _ + 1, '\x7d' :: rest => some ([], rest)
  | fuel + 1, cs => do
    let (key, rest) ← key? (skipSpace cs)
    let rest ← Json.word? "=" (skipSpace rest)
    let (value, rest) ← value? fuel rest
    match rest with
    | ',' :: rest =>
      let (fields, rest) ← fields? fuel rest
      return ((key, value) :: fields, rest)
    | '\x7d' :: rest => return ([(key, value)], rest)
    | _ => none

end

/-- The value of a variable. -/
def read (text : String) : Value :=
  let cs := text.toList
  match value? (2 * cs.length + 2) cs with
  | some (value, []) => value
  | _ => .text text

end ImageFallback.Setting
