import ImageFallback.Number.Compact
import ImageFallback.Syntax.Cooking

/-!
# Spelling literals

How a text literal, a number, a template and a directive are written. A text literal always stands
between double quotes. In every literal the end of a script element is kept from standing as it is,
because a page that holds the source would end there; a backslash before its slash changes nothing
else.
-/

namespace ImageFallback.Spelling

open Cooking

/-- The characters start with the end of a script element, in letters of either case. -/
def startsScriptEnd (cs : List Char) : Bool :=
  (cs.take 8).map Char.toLower == "</script".toList

/-- The characters with a backslash in every end of a script element. -/
def guarded : List Char → List Char
  | [] => []
  | c :: rest =>
    if startsScriptEnd (c :: rest) then c :: '\\' :: guarded rest else c :: guarded rest

/-- The text with a backslash in every end of a script element. -/
def guard (text : String) : String := String.ofList (guarded text.toList)

/-- The pieces of an encoded text: the replacement character and four digits stand for half a
surrogate pair, or for the replacement character if the digits are its own. -/
def decoded : List Char → List Piece
  | [] => []
  | [a] => [.whole a]
  | [a, b] => [.whole a, .whole b]
  | [a, b, c] => [.whole a, .whole b, .whole c]
  | [a, b, c, d] => [.whole a, .whole b, .whole c, .whole d]
  | first :: a :: b :: c :: d :: rest =>
    if first == replacement then
      match Number.hexValue? [a, b, c, d] with
      | some n => pieceOf n :: decoded rest
      | none => .whole first :: decoded (a :: b :: c :: d :: rest)
    else .whole first :: decoded (a :: b :: c :: d :: rest)
termination_by cs => cs.length

/-- The pieces of the text of a literal. -/
def piecesOf (lone : Bool) (value : String) : List Piece :=
  if lone then decoded value.toList else value.toList.map .whole

/-- The piece is a digit. -/
def isDigit : Piece → Bool
  | .whole c => c.isDigit
  | .half _ => false

/-- The characters for a piece of a text literal, given the piece after it: a null before a digit is
written at full length. -/
def piece (following : Option Piece) : Piece → List Char
  | .half n => '\\' :: 'u' :: fourDigits n
  | .whole c =>
    match c.toNat with
    | 0 => if (following.map isDigit).getD false then "\\x00".toList else "\\0".toList
    | 7 => "\\x07".toList
    | 8 => "\\b".toList
    | 10 => "\\n".toList
    | 11 => "\\v".toList
    | 12 => "\\f".toList
    | 13 => "\\r".toList
    | 27 => "\\x1B".toList
    | 34 => "\\\"".toList
    | 92 => "\\\\".toList
    | 0xA0 => "\\xA0".toList
    | 0x2028 => "\\u2028".toList
    | 0x2029 => "\\u2029".toList
    | _ => [c]

/-- The characters for the pieces of a text literal. -/
def pieces : List Piece → List Char
  | [] => []
  | first :: rest => piece rest.head? first ++ pieces rest

/-- A text literal. -/
def text (value : String) (lone : Bool) : String :=
  "\"" ++ String.ofList (guarded (pieces (piecesOf lone value))) ++ "\""

/-- A whole number. -/
def number (value : Int) : String :=
  if value < 0 then "-" ++ Number.compact value.natAbs else Number.compact value.natAbs

/-- A whole number as the key of a property; an infinite one is a name, and has to be computed. -/
def key (value : Int) : String :=
  let text := number value
  if text.toList.any Char.isDigit then text else "[" ++ text ++ "]"

/-- The text is a number that would take a point after it for its own. -/
def takesPoint (text : String) : Bool := text.toList.all Char.isDigit

/-- The stretches of a template with its expressions between them; what is left over of either is
left out, except for the stretches. -/
def interleave : List String → List String → String
  | [], _ => ""
  | quasi :: quasis, [] => quasi ++ interleave quasis []
  | quasi :: quasis, part :: parts =>
    quasi ++ "$\x7b" ++ part ++ "\x7d" ++ interleave quasis parts

/-- A template, given its expressions as they are written. -/
def template (quasis : List Quasi) (parts : List String) : String :=
  "\x60" ++ interleave (quasis.map (fun q => guard q.raw)) parts ++ "\x60"

/-- The text holds a double quote before any single quote, escapes left aside. -/
def needsSingleQuotes : List Char → Bool
  | [] => false
  | ['\\'] => false
  | '\\' :: _ :: rest => needsSingleQuotes rest
  | c :: rest => if c == '"' then true else if c == '\'' then false else needsSingleQuotes rest

/-- A directive, whose text stays as it was written. -/
def directive (raw : String) : String :=
  let mark := if needsSingleQuotes raw.toList then "'" else "\""
  mark ++ raw ++ mark

end ImageFallback.Spelling
