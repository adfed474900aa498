import ImageFallback.Data.Toml.Text

/-!
# Numbers and dates of TOML

A number or date is one run of characters. Underscores may stand between two digits, a whole number
has no leading zero and fits 64 bits with a sign, and a number with a fraction or exponent is finite
unless it is spelled as infinite; the first edition also takes a negative one that is out of range
for infinite. A date or time has to exist; its value is a map with one field that holds its text.
-/

namespace ImageFallback.Toml

open Number

/-- The sign of a number and what follows it. -/
def sign : List Char → Bool × List Char
  | '-' :: rest => (true, rest)
  | '+' :: rest => (false, rest)
  | cs => (false, cs)

/-- A whole number if 64 bits with a sign hold it. -/
def whole? (negative : Bool) (n : Nat) : Option Value :=
  if negative then (if n ≤ Nat.pow 2 63 then some (.integer (-(n : Int))) else none)
  else if n < Nat.pow 2 63 then some (.integer n) else none

/-- Digits without a leading zero. -/
def leading? (cs : List Char) : Option (List Char) := do
  let ds ← digits? 10 cs
  if 1 < ds.length && ds.head? == some '0' then none else return ds

/-- A whole number in one of four bases. -/
def integer? : List Char → Option Value
  | '0' :: 'x' :: rest => (digits? 16 rest).bind fun ds => whole? false (inBase 16 ds)
  | '0' :: 'o' :: rest =>
    (digits? 8 rest).bind fun ds => whole? false (inBase 8 ds)
  | '0' :: 'b' :: rest =>
    (digits? 2 rest).bind fun ds => whole? false (inBase 2 ds)
  | cs =>
    let (negative, rest) := sign cs
    (leading? rest).bind fun ds => whole? negative (inBase 10 ds)

/-- The exponent of a number after its letter. -/
def power? (cs : List Char) : Option Int := do
  let (negative, rest) := sign cs
  let ds ← digits? 10 rest
  let n : Int := (inBase 10 ds : Nat)
  return if negative then -n else n

/-- A number with a fraction, an exponent or both, or one of the three special ones. -/
def float? (edition : Edition) (cs : List Char) : Option Value :=
  let (negative, rest) := sign cs
  if rest == "inf".toList then some (.real (.infinite negative))
  else if rest == "nan".toList then some (.real .nan)
  else do
    let isMark (c : Char) : Bool := c == 'e' || c == 'E'
    let mantissa := rest.takeWhile (fun c => !isMark c)
    let power ← match rest.dropWhile (fun c => !isMark c) with
      | [] => some 0
      | _ :: rest => power? rest
    let before := mantissa.takeWhile (· != '.')
    let whole ← leading? before
    let fraction ← match mantissa.dropWhile (· != '.') with
      | [] => if mantissa.length == rest.length then none else some []
      | _ :: rest => digits? 10 rest
    let value := Binary64.ofDecimal negative (inBase 10 (whole ++ fraction))
      (power - (fraction.length : Int))
    match value with
    | .infinite negative =>
      if negative && edition = .first then return .real value else none
    | value => return .real value

/-! ## Dates and times -/

/-- A number of exactly `n` digits. -/
def fixed? (n : Nat) (cs : List Char) : Option (Nat × List Char) :=
  if (cs.take n).length == n && (cs.take n).all Char.isDigit then
    some (inBase 10 (cs.take n), cs.drop n)
  else none

/-- The number of days of a month. -/
def daysIn (year month : Nat) : Nat :=
  if month == 2 then
    if year % 4 == 0 && (year % 100 != 0 || year % 400 == 0) then 29 else 28
  else if month == 4 || month == 6 || month == 9 || month == 11 then 30
  else 31

/-- What follows a date that exists. -/
def date? (cs : List Char) : Option (List Char) := do
  let (year, rest) ← fixed? 4 cs
  let rest ← Json.word? "-" rest
  let (month, rest) ← fixed? 2 rest
  let rest ← Json.word? "-" rest
  let (day, rest) ← fixed? 2 rest
  if 1 ≤ month && month ≤ 12 && 1 ≤ day && day ≤ daysIn year month then return rest else none

/-- What follows the seconds of a time; there may be a leap second, and a fraction. -/
def seconds? (cs : List Char) : Option (List Char) := do
  let (second, rest) ← fixed? 2 cs
  if 60 < second then none
  else match rest with
    | '.' :: rest =>
      if (rest.takeWhile Char.isDigit).isEmpty then none else return rest.dropWhile Char.isDigit
    | rest => return rest

/-- What follows a time that exists. -/
def time? (edition : Edition) (cs : List Char) : Option (List Char) := do
  let (hour, rest) ← fixed? 2 cs
  let rest ← Json.word? ":" rest
  let (minute, rest) ← fixed? 2 rest
  if 23 < hour || 59 < minute then none
  else match Json.word? ":" rest with
    | some rest => seconds? rest
    | none => if edition = .second then return rest else none

/-- The distance from universal time at the end of a date. -/
def isOffset (cs : List Char) : Bool :=
  match cs with
  | [] => true
  | ['Z'] => true
  | ['z'] => true
  | c :: rest =>
    (c == '+' || c == '-') && (do
      let (hour, rest) ← fixed? 2 rest
      let rest ← Json.word? ":" rest
      let (minute, rest) ← fixed? 2 rest
      return rest.isEmpty && hour ≤ 23 && minute ≤ 59).getD false

/-- The characters are a date, a time or both. -/
def isMoment (edition : Edition) (cs : List Char) : Bool :=
  match date? cs with
  | some [] => true
  | some (c :: rest) =>
    (c == 'T' || c == 't' || c == ' ') && ((time? edition rest).map isOffset).getD false
  | none => time? edition cs == some []

/-- The key under which a date or time is kept. -/
def momentKey : String := "$__toml_private_datetime"

/-- The value of a run of characters that is neither a text nor a list nor a map. -/
def scalarOf? (edition : Edition) (cs : List Char) : Option Value :=
  if cs == "true".toList then some (.bool true)
  else if cs == "false".toList then some (.bool false)
  else if isMoment edition cs then some (.map [(momentKey, .text (String.ofList cs))])
  else (integer? cs).orElse fun _ => float? edition cs

/-- A character of such a run. -/
def isRun (c : Char) : Bool := isBare c || c == '+' || c == '.' || c == ':'

/-- The run at the start of the characters. A blank between a date and a time belongs to it. -/
def run (cs : List Char) : List Char × List Char :=
  let first := cs.takeWhile isRun
  match cs.dropWhile isRun with
  | ' ' :: c :: rest =>
    if date? first == some [] && c.isDigit then
      (first ++ ' ' :: (c :: rest).takeWhile isRun, (c :: rest).dropWhile isRun)
    else (first, ' ' :: c :: rest)
  | rest => (first, rest)

end ImageFallback.Toml
