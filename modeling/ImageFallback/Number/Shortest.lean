import ImageFallback.Number.Binary64

/-!
# Shortest decimal digits

The digits of a floating point number are the fewest that read back as the same number, and of those
the nearest. The decimals that read back form an interval around the number; its ends belong to it
when the mantissa is even. For one digit, two digits and so on, the two neighbours of the number on
that decimal grid are tried, and the first grid with a hit decides.

Two notations are built on these digits. `Binary64.positional` writes every digit in its place.
`Binary64.mixed` keeps a point in every number and turns to an exponent for numbers far from one.
They differ too when both neighbours are equally near: the one takes the greater, the other the one
with an even last digit.
-/

namespace ImageFallback.Binary64

/-- A decimal `digits · 10 ^ exponent`. -/
structure Decimal where
  digits : Nat
  exponent : Int
  deriving DecidableEq, Repr

/-- The interval of a finite number that is not zero, scaled by four: its lower end, the number
itself and its upper end over one denominator. The lower gap is half as wide at a power of two. -/
structure Interval where
  low : Nat
  middle : Nat
  high : Nat
  den : Nat
  closed : Bool

/-- The decimals that read back as `mantissa · 2 ^ exponent`. -/
def interval (mantissa : Nat) (exponent : Int) : Interval :=
  let unit := Nat.pow 2 exponent.toNat
  let below := if mantissa == Nat.pow 2 52 && leastExponent < exponent then 1 else 2
  { low := (4 * mantissa - below) * unit
    middle := 4 * mantissa * unit
    high := (4 * mantissa + 2) * unit
    den := Nat.pow 2 (-exponent).toNat
    closed := mantissa % 2 == 0 }

/-- `4 · digits · 10 ^ exponent` over the denominator of the interval, as a fraction. -/
def Interval.place (i : Interval) (d : Decimal) : Nat × Nat :=
  if d.exponent < 0 then (4 * d.digits * i.den, Nat.pow 10 (-d.exponent).toNat)
  else (4 * d.digits * i.den * Nat.pow 10 d.exponent.toNat, 1)

/-- The decimal lies in the interval. -/
def Interval.has (i : Interval) (d : Decimal) : Bool :=
  let (num, den) := i.place d
  if i.closed then i.low * den ≤ num && num ≤ i.high * den
  else i.low * den < num && num < i.high * den

/-- The distance of the decimal from the number, scaled by a factor common to decimals of one
exponent. -/
def Interval.distance (i : Interval) (d : Decimal) : Nat :=
  let (num, den) := i.place d
  let middle := i.middle * den
  if num ≤ middle then middle - num else num - middle

/-- The exponent of the first digit of the fraction `num / den`, searched from `guess` downwards. -/
def firstPlace (num den : Nat) : Nat → Int → Int
  | 0, guess => guess
  | fuel + 1, guess =>
    let reached :=
      if guess < 0 then den ≤ num * Nat.pow 10 (-guess).toNat
      else den * Nat.pow 10 guess.toNat ≤ num
    if reached then guess else firstPlace num den fuel (guess - 1)

/-- The two neighbours of the number on the grid of decimals with the exponent `place`. -/
def Interval.neighbours (i : Interval) (place : Int) : Decimal × Decimal :=
  let below :=
    if place < 0 then i.middle * Nat.pow 10 (-place).toNat / (4 * i.den)
    else i.middle / (4 * i.den * Nat.pow 10 place.toNat)
  (⟨below, place⟩, ⟨below + 1, place⟩)

/-- Which of two equally near neighbours is taken. -/
inductive Halfway where
  | greater
  | even
  deriving DecidableEq, Repr

/-- Of two equally near neighbours the greater one is taken. -/
def Halfway.isUp (halfway : Halfway) (below : Decimal) : Bool :=
  match halfway with
  | .greater => true
  | .even => below.digits % 2 == 1

/-- The better of the two neighbours on one grid, if one of them reads back. -/
def Interval.onGrid (halfway : Halfway) (i : Interval) (place : Int) : Option Decimal :=
  let (below, above) := i.neighbours place
  match below.digits != 0 && i.has below, i.has above with
  | true, true =>
    if i.distance above < i.distance below then some above
    else if i.distance below < i.distance above then some below
    else if halfway.isUp below then some above
    else some below
  | true, false => some below
  | false, true => some above
  | false, false => none

/-- Tries finer and finer grids. -/
def Interval.search (halfway : Halfway) (i : Interval) : Nat → Int → Decimal
  | 0, place => (i.neighbours place).1
  | fuel + 1, place => (i.onGrid halfway place).getD (i.search halfway fuel (place - 1))

/-- Moves the zeros at the end of the digits into the exponent. -/
def Decimal.trimmed : Nat → Decimal → Decimal
  | 0, d => d
  | fuel + 1, d =>
    if d.digits != 0 && d.digits % 10 == 0 then trimmed fuel ⟨d.digits / 10, d.exponent + 1⟩ else d

/-- The shortest decimal of a finite number that is not zero. -/
def shortest (halfway : Halfway) (mantissa : Nat) (exponent : Int) : Decimal :=
  let i := interval mantissa exponent
  let first := firstPlace i.middle (4 * i.den) 700 309
  (i.search halfway 18 first).trimmed 20

/-- The digits of a natural number. -/
def decimalText (n : Nat) : List Char := Nat.toDigits 10 n

/-- The digits of a decimal in their places, without a point when there is no fraction. -/
def Decimal.inPlaces (d : Decimal) : List Char :=
  let digits := decimalText d.digits
  if 0 ≤ d.exponent then digits ++ List.replicate d.exponent.toNat '0'
  else
    let fraction := (-d.exponent).toNat
    if fraction < digits.length then
      digits.take (digits.length - fraction) ++ '.' :: digits.drop (digits.length - fraction)
    else '0' :: '.' :: List.replicate (fraction - digits.length) '0' ++ digits

/-- The digits of a decimal with a point after the first one and an exponent, which has the sign
`plus` if it is not negative. -/
def Decimal.withExponent (plus : List Char) (d : Decimal) : List Char :=
  let digits := decimalText d.digits
  let place := d.exponent + (digits.length : Int) - 1
  let fraction := match digits.drop 1 with
    | [] => []
    | rest => '.' :: rest
  digits.take 1 ++ fraction ++ 'e' :: (if place < 0 then ['-'] else plus) ++
    decimalText place.natAbs

/-- The sign in front of the digits. -/
def signed (negative : Bool) (digits : List Char) : String :=
  String.ofList (if negative then '-' :: digits else digits)

/-- Every digit in its place, and no point in a whole number. -/
def positional : Binary64 → String
  | .nan => "NaN"
  | .infinite negative => signed negative "inf".toList
  | .finite negative mantissa exponent =>
    if mantissa == 0 then signed negative ['0']
    else signed negative (shortest .greater mantissa exponent).inPlaces

/-- A point in every number without an exponent, and an exponent for numbers of more than sixteen
places before the point or of five zeros after it. -/
def mixed : Binary64 → String
  | .nan => "NaN"
  | .infinite negative => signed negative "inf".toList
  | .finite negative mantissa exponent =>
    if mantissa == 0 then signed negative "0.0".toList
    else
      let d := shortest .even mantissa exponent
      let place := d.exponent + ((decimalText d.digits).length : Int) - 1
      if place < -5 || 15 < place then signed negative (d.withExponent ['+'])
      else if 0 ≤ d.exponent then signed negative (d.inPlaces ++ ['.', '0'])
      else signed negative d.inPlaces

end ImageFallback.Binary64
