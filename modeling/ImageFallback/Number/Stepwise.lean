import ImageFallback.Number.Binary64
import ImageFallback.Number.Digits

/-!
# Rounding while reading digits

A long number can be read digit by digit into a floating point number, which is rounded after each
digit. A half that one digit leaves behind is settled before the next digit is seen, so the result
may lie beside the number nearest to the digits as a whole.
-/

namespace ImageFallback.Number

open Binary64

/-- The whole number nearest to `n` among those with at most 53 bits before their zeros, a tie to
the even one. -/
def toFiftyThreeBits (n : Nat) : Nat :=
  let unit := Nat.pow 2 (n.log2 - 52)
  divideToEven n unit * unit

/-- The number that digits spell in a base, rounded after each digit if there are more than `places`
of them. -/
def stepwise (base places : Nat) (cs : List Char) : Nat :=
  if cs.length ≤ places then inBase base cs
  else cs.foldl (fun n c => toFiftyThreeBits (base * n + (hexDigit? c).getD 0)) 0

end ImageFallback.Number
