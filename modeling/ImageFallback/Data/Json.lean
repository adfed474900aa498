import ImageFallback.Data.Value
import ImageFallback.Number.Digits

/-!
# Reading JSON

A strict reader: one value with blanks around it and nothing else. Maps keep the last of several
fields with one key. Half a surrogate pair is refused, and so is a number whose magnitude no
floating point number has.

A number without a fraction or exponent is whole as long as it fits 64 bits. Any other number is
`significand · 10 ^ exponent`, where digits that no longer fit a significand of 64 bits are dropped.
Its value is the significand, rounded, times or over the power of ten, rounded, and rounded once
more; this can differ from the nearest number in the last bit.
-/

namespace ImageFallback.Json

open Number

/-- The blanks between tokens. -/
def isSpace (c : Char) : Bool := c == ' ' || c == '\t' || c == '\n' || c == '\r'

/-- The characters after the blanks. -/
def skipSpace (cs : List Char) : List Char := cs.dropWhile isSpace

/-- The value of a decimal digit. -/
def digit? (c : Char) : Option Nat :=
  if '0' ≤ c && c ≤ '9' then some (c.toNat - '0'.toNat) else none

/-! ## Texts -/

/-- The number of a four digit escape and the characters after it. -/
def unit? : List Char → Option (Nat × List Char)
  | a :: b :: c :: d :: rest => (hexValue? [a, b, c, d]).map (·, rest)
  | _ => none

/-- The character of a four digit escape, for which a pair of surrogates takes two of them. -/
def escapedUnit? (cs : List Char) : Option (Char × List Char) := do
  let (first, rest) ← unit? cs
  if first < 0xD800 || 0xDFFF < first then return (Char.ofNat first, rest)
  else if 0xDC00 ≤ first then none
  else match rest with
    | '\\' :: 'u' :: rest =>
      let (second, rest) ← unit? rest
      if 0xDC00 ≤ second && second ≤ 0xDFFF then
        return (Char.ofNat (0x10000 + (first - 0xD800) * 0x400 + (second - 0xDC00)), rest)
      else none
    | _ => none

/-- The character that stands for a one letter escape. -/
def escapedLetter? : Char → Option Char
  | '"' => some '"'
  | '\\' => some '\\'
  | '/' => some '/'
  | 'b' => some (Char.ofNat 8)
  | 'f' => some (Char.ofNat 12)
  | 'n' => some '\n'
  | 'r' => some '\r'
  | 't' => some '\t'
  | _ => none

/-- The rest of a text after its opening quote. -/
def textBody : Nat → List Char → Option (List Char × List Char)
  | 0, _ => none
  | _ + 1, [] => none
  | fuel + 1, c :: rest =>
    if c == '"' then some ([], rest)
    else if c == '\\' then
      match rest with
      | 'u' :: rest => do
        let (c, rest) ← escapedUnit? rest
        let (cs, rest) ← textBody fuel rest
        return (c :: cs, rest)
      | e :: rest => do
        let c ← escapedLetter? e
        let (cs, rest) ← textBody fuel rest
        return (c :: cs, rest)
      | [] => none
    else if c.toNat < 0x20 then none
    else (textBody fuel rest).map fun r => (c :: r.1, r.2)

/-- A text with its opening quote already read. -/
def text? (cs : List Char) : Option (String × List Char) :=
  (textBody (cs.length + 1) cs).map fun r => (String.ofList r.1, r.2)

/-! ## Numbers -/

/-- The greatest significand. -/
def greatestSignificand : Nat := Nat.pow 2 64 - 1

/-- `significand · 10 ^ exponent`, rounded step by step; nothing when it is too large. The fuel
bounds the number of times that the greatest power of ten is divided out. -/
def scale? (value : Binary64) : Nat → Int → Option Binary64
  | 0, _ => some value
  | fuel + 1, exponent =>
    if exponent.natAbs ≤ 308 then
      let power := Binary64.ofDecimal false 1 (exponent.natAbs : Int)
      if 0 ≤ exponent then
        match value.times power with
        | .infinite _ => none
        | product => some product
      else some (value.dividedBy power)
    else if value.isZero then some value
    else if 0 ≤ exponent then none
    else scale? (value.dividedBy (Binary64.ofDecimal false 1 308)) fuel (exponent + 308)

/-- The floating point number of a significand and an exponent. -/
def real? (negative : Bool) (significand : Nat) (exponent : Int) : Option Value :=
  (scale? (Binary64.ofRatio negative significand 1) 12 (max exponent (-4000))).map Value.real

/-- Collects digits into a significand as long as it fits, and counts the digits taken and
dropped. -/
def collect (significand : Nat) : List Char → Nat × Nat × Nat
  | [] => (significand, 0, 0)
  | c :: rest =>
    let next := 10 * significand + (c.toNat - '0'.toNat)
    if greatestSignificand < next then (significand, 0, rest.length + 1)
    else
      let (value, taken, dropped) := collect next rest
      (value, taken + 1, dropped)

/-- The optional exponent of a number: its sign and digits. -/
def exponent? : List Char → Option (Int × List Char)
  | c :: rest =>
    if c == 'e' || c == 'E' then
      let (negative, rest) := match rest with
        | '+' :: rest => (false, rest)
        | '-' :: rest => (true, rest)
        | rest => (false, rest)
      let digits := rest.takeWhile Char.isDigit
      if digits.isEmpty then none
      else
        let value : Int := ((collect 0 digits).1 : Nat)
        some (if negative then -value else value, rest.dropWhile Char.isDigit)
    else some (0, c :: rest)
  | [] => some (0, [])

/-- A number without its sign. -/
def unsigned? (negative : Bool) (cs : List Char) : Option (Value × List Char) := do
  let whole := cs.takeWhile Char.isDigit
  let rest := cs.dropWhile Char.isDigit
  if whole.isEmpty || (whole.head? == some '0' && 1 < whole.length) then none
  else
    let (significand, _, dropped) := collect 0 whole
    match rest with
    | '.' :: rest =>
      let fraction := rest.takeWhile Char.isDigit
      if fraction.isEmpty then none
      else
        let (significand, taken, _) := collect significand fraction
        let (power, rest) ← exponent? (rest.dropWhile Char.isDigit)
        let value ← real? negative significand ((dropped : Int) - (taken : Int) + power)
        return (value, rest)
    | rest =>
      let marked := match rest with
        | c :: _ => c == 'e' || c == 'E'
        | [] => false
      let (power, rest) ← exponent? rest
      if marked || dropped != 0 then
        let value ← real? negative significand ((dropped : Int) + power)
        return (value, rest)
      else if !negative then return (.natural significand, rest)
      else if significand == 0 || Nat.pow 2 63 < significand then
        return (.real (Binary64.ofRatio true significand 1), rest)
      else return (.integer (-(significand : Int)), rest)

/-- A number. -/
def number? : List Char → Option (Value × List Char)
  | '-' :: rest => unsigned? true rest
  | cs => unsigned? false cs

/-! ## Values -/

/-- Drops `word` from the front of the characters. -/
def word? (word : String) (cs : List Char) : Option (List Char) := word.toList.isPrefixOf? cs

mutual

/-- A value, with at most `depth` lists and maps inside one another. -/
def value? : Nat → Nat → List Char → Option (Value × List Char)
  | 0, _, _ => none
  | fuel + 1, depth, cs =>
    match skipSpace cs with
    | 'n' :: rest => (word? "ull" rest).map (Value.null, ·)
    | 't' :: rest => (word? "rue" rest).map (Value.bool true, ·)
    | 'f' :: rest => (word? "alse" rest).map (Value.bool false, ·)
    | '"' :: rest => (text? rest).map fun r => (Value.text r.1, r.2)
    | '[' :: rest =>
      match depth, skipSpace rest with
      | 0, _ => none
      | _ + 1, ']' :: rest => some (.list [], rest)
      | depth + 1, rest => (items? fuel depth rest).map fun r => (Value.list r.1, r.2)
    | '\x7b' :: rest =>
      match depth, skipSpace rest with
      | 0, _ => none
      | _ + 1, '\x7d' :: rest => some (.map [], rest)
      | depth + 1, rest => (fields? fuel depth rest).map fun r => (Value.ofFields r.1, r.2)
    | cs => number? cs

/-- The items of a list and its closing bracket. -/
def items? : Nat → Nat → List Char → Option (List Value × List Char)
  | 0, _, _ => none
  | fuel + 1, depth, cs => do
    let (item, rest) ← value? fuel depth cs
    match skipSpace rest with
    | ',' :: rest =>
      let (items, rest) ← items? fuel depth rest
      return (item :: items, rest)
    | ']' :: rest => return ([item], rest)
    | _ => none

/-- The fields of a map and its closing brace. -/
def fields? : Nat → Nat → List Char → Option (List (String × Value) × List Char)
  | 0, _, _ => none
  | fuel + 1, depth, cs =>
    match skipSpace cs with
    | '"' :: rest => do
      let (key, rest) ← text? rest
      match skipSpace rest with
      | ':' :: rest =>
        let (value, rest) ← value? fuel depth rest
        match skipSpace rest with
        | ',' :: rest =>
          let (fields, rest) ← fields? fuel depth rest
          return ((key, value) :: fields, rest)
        | '\x7d' :: rest => return ([(key, value)], rest)
        | _ => none
      | _ => none
    | _ => none

end

/-- The greatest number of lists and maps inside one another in a file. -/
def fileDepth : Nat := 127

/-- Reads a text that holds one value and blanks, with at most `depth` lists and maps inside one
another. -/
def read? (depth : Nat) (text : String) : Option Value :=
  let cs := text.toList
  match value? (2 * cs.length + 2) depth cs with
  | some (value, rest) => if (skipSpace rest).isEmpty then some value else none
  | none => none

end ImageFallback.Json
