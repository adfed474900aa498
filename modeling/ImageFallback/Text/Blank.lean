import ImageFallback.Text.CharRanges

/-!
# Blank characters

The characters of the property `White_Space`, and the text that is left when those at both ends are
taken away.
-/

namespace ImageFallback.Text

/-- Ranges of the characters with the property `White_Space`. -/
def blank : CharRanges := [
  (0x9, 0xD), (0x20, 0x20), (0x85, 0x85), (0xA0, 0xA0), (0x1680, 0x1680), (0x2000, 0x200A),
  (0x2028, 0x2029), (0x202F, 0x202F), (0x205F, 0x205F), (0x3000, 0x3000)]

/-- The character is white space in some script. -/
def isBlank (c : Char) : Bool := blank.has c

/-- The text without the blank characters at its two ends. -/
def trim (text : String) : String :=
  String.ofList ((text.toList.dropWhile isBlank).reverse.dropWhile isBlank).reverse

theorem isEmpty_dropWhile (p : Char → Bool) (cs : List Char) :
    (cs.dropWhile p).isEmpty = cs.all p := by
  induction cs with
  | nil => rfl
  | cons c cs ih => cases h : p c <;> simp [List.dropWhile, h, ih]

theorem all_dropWhile (p : Char → Bool) (cs : List Char) : (cs.dropWhile p).all p = cs.all p := by
  induction cs with
  | nil => rfl
  | cons c cs ih => cases h : p c <;> simp [List.dropWhile, h, ih]

/-- Nothing is left of a text exactly when all of its characters are blank. -/
theorem isEmpty_trim (text : String) : (trim text).isEmpty = text.toList.all isBlank := by
  have shown (cs : List Char) : (String.ofList cs).isEmpty = cs.isEmpty := by
    rw [Bool.eq_iff_iff, String.isEmpty_iff, ← String.toList_inj, String.toList_ofList]
    simp
  rw [trim, shown, List.isEmpty_reverse, isEmpty_dropWhile, List.all_reverse, all_dropWhile]

end ImageFallback.Text
