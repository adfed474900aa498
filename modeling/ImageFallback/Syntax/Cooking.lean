import ImageFallback.Syntax.Node
import ImageFallback.Data.Json
import ImageFallback.Text.Quoted

/-!
# Resolving escapes

The text that a literal stands for, once its escapes are resolved. Escapes can name half of a
surrogate pair, which no character is. Two matching halves in a row make one character. If a half is
left over, the text is encoded: the replacement character followed by the four hexadecimal digits of
a half stands for it, and a replacement character of the text itself is followed by its own digits.

In a template an escape without meaning leaves the text without a value, while a text literal with
such an escape is no literal at all. Old octal escapes have a meaning in text literals only.
-/

namespace ImageFallback.Cooking

/-- A piece of resolved text. -/
inductive Piece where
  | whole (c : Char)
  | half (n : Nat)
  deriving DecidableEq, Repr

/-- A line break inside a literal. -/
def isLineEnd (c : Char) : Bool :=
  c == '\n' || c == '\r' || c.toNat == 0x2028 || c.toNat == 0x2029

/-- The piece of a code point. -/
def pieceOf (n : Nat) : Piece :=
  if 0xD800 ≤ n && n ≤ 0xDFFF then .half n else .whole (Char.ofNat n)

/-- The piece of a code point between braces. -/
def braced? (cs : List Char) : Option (Piece × List Char) :=
  let digits := cs.takeWhile (· != '\x7d')
  match cs.dropWhile (· != '\x7d') with
  | _ :: rest => do
    if digits.isEmpty then none
    else
      let n ← Number.hexValue? digits
      if n ≤ 0x10FFFF then return (pieceOf n, rest) else none
  | [] => none

/-- The piece of four digits, where a pair of them may make one character. -/
def quad? (cs : List Char) : Option (Piece × List Char) := do
  let (first, rest) ← Json.unit? cs
  let alone := (pieceOf first, rest)
  if 0xD800 ≤ first && first ≤ 0xDBFF then
    match rest with
    | '\\' :: 'u' :: after =>
      match Json.unit? after with
      | some (second, after) =>
        if 0xDC00 ≤ second && second ≤ 0xDFFF then
          let code := 0x10000 + (first - 0xD800) * 0x400 + (second - 0xDC00)
          return (.whole (Char.ofNat code), after)
        else return alone
      | none => return alone
    | _ => return alone
  else return alone

/-- The value of an octal digit. -/
def octal? (c : Char) : Option Nat :=
  if '0' ≤ c && c ≤ '7' then some (c.toNat - '0'.toNat) else none

/-- The piece of an octal escape of up to three digits that start with `first`. -/
def octalPiece (first : Nat) (cs : List Char) : Piece × List Char :=
  match cs with
  | a :: rest =>
    match octal? a with
    | none => (pieceOf first, cs)
    | some a =>
      match rest with
      | b :: after =>
        match octal? b with
        | some b => if first ≤ 3 then (pieceOf (64 * first + 8 * a + b), after)
                    else (pieceOf (8 * first + a), rest)
        | none => (pieceOf (8 * first + a), rest)
      | [] => (pieceOf (8 * first + a), rest)
  | [] => (pieceOf first, cs)

/-- The pieces of an escape after its backslash; a backslash at the end of a line stands for
nothing. -/
def escape? (inTemplate : Bool) : List Char → Option (List Piece × List Char)
  | [] => none
  | 'b' :: rest => some ([pieceOf 8], rest)
  | 'f' :: rest => some ([pieceOf 12], rest)
  | 'n' :: rest => some ([pieceOf 10], rest)
  | 'r' :: rest => some ([pieceOf 13], rest)
  | 't' :: rest => some ([pieceOf 9], rest)
  | 'v' :: rest => some ([pieceOf 11], rest)
  | 'x' :: rest =>
    match rest with
    | a :: b :: rest => (Number.hexValue? [a, b]).map fun n => ([pieceOf n], rest)
    | _ => none
  | 'u' :: rest =>
    match rest with
    | '\x7b' :: rest => (braced? rest).map fun r => ([r.1], r.2)
    | rest => (quad? rest).map fun r => ([r.1], r.2)
  | '\r' :: '\n' :: rest => some ([], rest)
  | c :: rest =>
    if isLineEnd c then some ([], rest)
    else if c.isDigit then
      let goesOn := match rest with
        | d :: _ => d.isDigit
        | [] => false
      if c == '0' && !goesOn then some ([pieceOf 0], rest)
      else if inTemplate then none
      else match octal? c with
        | some n =>
          let (piece, rest) := octalPiece n rest
          some ([piece], rest)
        | none => some ([.whole c], rest)
    else some ([.whole c], rest)

/-- The pieces of the characters of a literal. -/
def pieces? (inTemplate : Bool) : Nat → List Char → Option (List Piece)
  | _, [] => some []
  | 0, _ => none
  | fuel + 1, c :: rest =>
    if c == '\\' then do
      let (first, rest) ← escape? inTemplate rest
      let others ← pieces? inTemplate fuel rest
      return first ++ others
    else (pieces? inTemplate fuel rest).map (.whole c :: ·)

/-- The piece is half a surrogate pair. -/
def Piece.isHalf : Piece → Bool
  | .half _ => true
  | .whole _ => false

/-- The replacement character. -/
def replacement : Char := Char.ofNat 0xFFFD

/-- The four digits of a half. -/
def fourDigits (n : Nat) : List Char :=
  let digits := Text.hexDigits n
  List.replicate (4 - digits.length) '0' ++ digits

/-- The encoding of a piece in a text with halves. -/
def Piece.encoded : Piece → List Char
  | .half n => replacement :: fourDigits n
  | .whole c => if c == replacement then replacement :: fourDigits 0xFFFD else [c]

/-- The piece as a character of a text without halves. -/
def Piece.plain : Piece → List Char
  | .half _ => []
  | .whole c => [c]

/-- The text of the pieces, and whether it is encoded because it has halves. -/
def textOf (pieces : List Piece) : String × Bool :=
  if pieces.any Piece.isHalf then (String.ofList (pieces.flatMap Piece.encoded), true)
  else (String.ofList (pieces.flatMap Piece.plain), false)

/-- The text that the characters of a literal stand for. -/
def resolve? (inTemplate : Bool) (cs : List Char) : Option (String × Bool) :=
  (pieces? inTemplate cs.length cs).map textOf

/-- Line breaks of every kind as single line feeds. -/
def unifyLines : List Char → List Char
  | [] => []
  | '\r' :: '\n' :: rest => '\n' :: unifyLines rest
  | c :: rest => (if c == '\r' then '\n' else c) :: unifyLines rest

/-- A stretch of a template as it stands in the source. Its line breaks are unified, unless it has
an escape without meaning. -/
def quasi (cs : List Char) (span : Span) : Quasi :=
  let unified := unifyLines cs
  let cooked := resolve? true unified
  { raw := String.ofList (if cooked.isSome then unified else cs)
    cooked := cooked.map Prod.fst
    lone := (cooked.map Prod.snd).getD false
    span := span }

end ImageFallback.Cooking
