/-!
# Binary floating point numbers of 64 bits

A finite number is `mantissa · 2 ^ exponent` with a sign. The mantissa has at most 53 bits, and as
many as that unless the exponent is the least one, so each number has one form. `Binary64.ofRatio`
rounds a fraction of natural numbers to the nearest number, a tie to the even mantissa, in exact
arithmetic; everything else that rounds goes through it.
-/

namespace ImageFallback

/-- A floating point number of 64 bits. -/
inductive Binary64 where
  | nan
  | infinite (negative : Bool)
  | finite (negative : Bool) (mantissa : Nat) (exponent : Int)
  deriving DecidableEq, Repr

namespace Binary64

/-- The exponent of the finest numbers. -/
def leastExponent : Int := -1074

/-- The greatest exponent of a finite number. -/
def greatestExponent : Int := 971

/-- Zero with the given sign. -/
def zero (negative : Bool) : Binary64 := .finite negative 0 leastExponent

/-- The number is a zero of either sign. -/
def isZero : Binary64 → Bool
  | .finite _ mantissa _ => mantissa == 0
  | _ => false

/-- `num / den · 2 ^ (-exponent)` as a fraction. -/
def scaled (num den : Nat) (exponent : Int) : Nat × Nat :=
  if exponent < 0 then (num * Nat.pow 2 (-exponent).toNat, den)
  else (num, den * Nat.pow 2 exponent.toNat)

/-- The quotient rounded to the nearest natural number, a tie to the even one. -/
def divideToEven (num den : Nat) : Nat :=
  let quotient := num / den
  let twice := 2 * (num % den)
  if den < twice || (twice == den && quotient % 2 == 1) then quotient + 1 else quotient

/-- The exponent that leaves 53 bits before the point, or the least one. -/
def exponentOf (num den : Nat) : Int :=
  let guess : Int := (num.log2 : Int) - (den.log2 : Int) - 53
  let parts := scaled num den guess
  let exponent := if parts.1 / parts.2 < Nat.pow 2 53 then guess else guess + 1
  if exponent < leastExponent then leastExponent else exponent

/-- The number nearest to `num / den`. -/
def ofRatio (negative : Bool) (num den : Nat) : Binary64 :=
  if num == 0 then zero negative
  else
    let exponent := exponentOf num den
    let parts := scaled num den exponent
    let mantissa := divideToEven parts.1 parts.2
    let (mantissa, exponent) :=
      if mantissa == Nat.pow 2 53 then (Nat.pow 2 52, exponent + 1) else (mantissa, exponent)
    if greatestExponent < exponent then .infinite negative
    else .finite negative mantissa exponent

/-- The number nearest to `digits · 10 ^ exponent`. Exponents that can only give a zero or an
infinite number are settled without building the power. -/
def ofDecimal (negative : Bool) (digits : Nat) (exponent : Int) : Binary64 :=
  if digits == 0 then zero negative
  else if 310 < exponent then .infinite negative
  else if exponent < -(400 + (digits.log2 : Int)) then zero negative
  else if exponent < 0 then ofRatio negative digits (Nat.pow 10 (-exponent).toNat)
  else ofRatio negative (digits * Nat.pow 10 exponent.toNat) 1

/-- The magnitude of a finite number as a fraction. -/
def ratio (mantissa : Nat) (exponent : Int) : Nat × Nat :=
  if exponent < 0 then (mantissa, Nat.pow 2 (-exponent).toNat)
  else (mantissa * Nat.pow 2 exponent.toNat, 1)

/-- The product of the magnitudes, rounded, with the sign of the first number. -/
def times : Binary64 → Binary64 → Binary64
  | .finite negative m e, .finite _ m' e' =>
    let a := ratio m e
    let b := ratio m' e'
    ofRatio negative (a.1 * b.1) (a.2 * b.2)
  | x, _ => x

/-- The quotient of the magnitudes, rounded, with the sign of the first number; the second one is
not zero. -/
def dividedBy : Binary64 → Binary64 → Binary64
  | .finite negative m e, .finite _ m' e' =>
    let a := ratio m e
    let b := ratio m' e'
    ofRatio negative (a.1 * b.2) (a.2 * b.1)
  | x, _ => x

end Binary64

end ImageFallback
