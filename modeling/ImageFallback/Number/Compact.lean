import ImageFallback.Number.Shortest

/-!
# Compact whole numbers

A source text holds whole numbers as floating point numbers, so a long one is rounded first. It is
written in few characters: in base ten with all digits, or with an exponent from twenty-two digits
on; in base sixteen if that is shorter; and otherwise with the zeros at its end, or the digits
behind its point, counted by an exponent if that is shorter still. Numbers below a thousand keep
their digits.
-/

namespace ImageFallback.Number

open Binary64

/-- The greatest number that is written in base sixteen; greater ones are taken for it. -/
def hexLimit : Nat := Nat.pow 2 128 - 1

/-- A whole number in base sixteen with its mark. -/
def hexText (n : Nat) : List Char := '0' :: 'x' :: Nat.toDigits 16 (min n hexLimit)

/-- A decimal without a fraction in base ten. -/
def wholeText (d : Decimal) : List Char :=
  if (decimalText d.digits).length + d.exponent.toNat ≤ 21 then d.inPlaces else d.withExponent []

/-- The digits of a decimal without a fraction, with an exponent for the zeros after them. -/
def foldedText (d : Decimal) : List Char :=
  if d.exponent ≤ 0 then decimalText d.digits
  else decimalText d.digits ++ 'e' :: decimalText d.exponent.toNat

/-- The shorter of two texts, and the first of two equally long ones. -/
def shorter (first second : List Char) : List Char :=
  if second.length < first.length then second else first

/-- A whole number as it is written in a source text. -/
def compact (n : Nat) : String :=
  match ofRatio false n 1 with
  | .finite _ mantissa exponent =>
    if n < 1000 then toString n
    else
      let d := shortest .even mantissa exponent
      let plain := wholeText d
      let hex := hexText (mantissa * Nat.pow 2 exponent.toNat / Nat.pow 2 (-exponent).toNat)
      String.ofList (if hex.length < plain.length then hex else shorter plain (foldedText d))
  | _ => "Infinity"

end ImageFallback.Number
