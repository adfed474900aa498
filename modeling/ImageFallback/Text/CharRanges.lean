/-!
# Character classes as ranges of code points

A class of characters is a list of inclusive ranges of code points in increasing order. Membership
stops at the first range that starts beyond the character, so the order matters for the answer and
for the speed alike.
-/

namespace ImageFallback.Text

/-- Inclusive ranges of code points, in increasing order. -/
abbrev CharRanges := List (Nat × Nat)

namespace CharRanges

/-- Whether the code point `n` lies in one of the ranges. -/
def hasCode : CharRanges → Nat → Bool
  | [], _ => false
  | (lo, hi) :: rest, n => if n < lo then false else n ≤ hi || hasCode rest n

/-- Whether the character lies in one of the ranges. -/
def has (ranges : CharRanges) (c : Char) : Bool := ranges.hasCode c.toNat

end CharRanges

end ImageFallback.Text
