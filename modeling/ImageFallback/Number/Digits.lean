/-!
# Digits

The numbers that digits spell, in bases up to sixteen. In a run of digits single underscores may
stand between two digits for the eye.
-/

namespace ImageFallback.Number

/-- The value of a hexadecimal digit. -/
def hexDigit? (c : Char) : Option Nat :=
  if '0' ≤ c && c ≤ '9' then some (c.toNat - '0'.toNat)
  else if 'a' ≤ c && c ≤ 'f' then some (c.toNat - 'a'.toNat + 10)
  else if 'A' ≤ c && c ≤ 'F' then some (c.toNat - 'A'.toNat + 10)
  else none

/-- The number that the characters spell in base sixteen. -/
def hexValue? (cs : List Char) : Option Nat :=
  cs.foldlM (fun acc c => (hexDigit? c).map (16 * acc + ·)) 0

/-- The character is a digit of a base. -/
def isDigitIn (base : Nat) (c : Char) : Bool := (hexDigit? c).any (· < base)

/-- The number that digits spell in a base. -/
def inBase (base : Nat) (cs : List Char) : Nat :=
  cs.foldl (fun acc c => base * acc + (hexDigit? c).getD 0) 0

/-- The digits of a run in which single underscores stand between digits only. -/
def digits? (base : Nat) : List Char → Option (List Char)
  | [] => none
  | [c] => if isDigitIn base c then some [c] else none
  | c :: '_' :: rest => if isDigitIn base c then (digits? base rest).map (c :: ·) else none
  | c :: rest => if isDigitIn base c then (digits? base rest).map (c :: ·) else none

end ImageFallback.Number
