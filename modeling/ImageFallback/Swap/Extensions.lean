import ImageFallback.Text.Occurrence

/-!
# Image extensions

A set of extensions that count as images and the extension that takes their place. An extension
matches wherever it occurs in a text, not only at its end, and of several extensions that occur the
first one in the list is taken, wherever the others stand. Its first occurrence is the one
exchanged.

A literal is a list of fragments. It is eligible when some fragment has an extension and none has
the marker of literals that are to be inlined.
-/

namespace ImageFallback

/-- The extensions that count as images, and the one that takes their place. -/
structure Extensions where
  recognized : List String := [".png", ".jpg", ".jpeg"]
  target : String := ".webp"
  deriving DecidableEq, Repr

namespace Extensions

/-- The first extension of the list that occurs in the text. -/
def firstMatch (extensions : Extensions) (text : String) : Option String :=
  extensions.recognized.find? (Text.occursIn · text)

/-- Some extension occurs in the text. -/
def containsAny (extensions : Extensions) (text : String) : Bool :=
  (extensions.firstMatch text).isSome

/-- The path with the target in the place of the extension that matches first. -/
def swapPath (extensions : Extensions) (path : String) : String :=
  match extensions.firstMatch path with
  | some ext => Text.replaceFirst ext extensions.target path
  | none => path

/-- Goes through fragments up to the first one with the inline marker. `found` says whether one
before them had an extension. -/
def isEligibleFrom (extensions : Extensions) (inlineMarker : String) : Bool → List String → Bool
  | found, [] => found
  | found, fragment :: rest =>
    if Text.occursIn inlineMarker fragment then false
    else isEligibleFrom extensions inlineMarker (found || extensions.containsAny fragment) rest

/-- Some fragment has an extension, and none has the inline marker. -/
def isEligible (extensions : Extensions) (inlineMarker : String) (fragments : List String) : Bool :=
  isEligibleFrom extensions inlineMarker false fragments

theorem isEligibleFrom_eq (extensions : Extensions) (inlineMarker : String) (found : Bool)
    (fragments : List String) :
    isEligibleFrom extensions inlineMarker found fragments =
      (fragments.all (fun fragment => !Text.occursIn inlineMarker fragment) &&
        (found || fragments.any extensions.containsAny)) := by
  induction fragments generalizing found with
  | nil => simp [isEligibleFrom]
  | cons fragment rest ih =>
      rw [isEligibleFrom, ih]
      cases marked : Text.occursIn inlineMarker fragment with
      | true => simp [marked]
      | false => simp [marked, Bool.or_assoc]

/-- Where the walk over the fragments stops early makes no difference. -/
theorem isEligible_eq (extensions : Extensions) (inlineMarker : String) (fragments : List String) :
    extensions.isEligible inlineMarker fragments =
      (fragments.all (fun fragment => !Text.occursIn inlineMarker fragment) &&
        fragments.any extensions.containsAny) := by
  rw [isEligible, isEligibleFrom_eq, Bool.false_or]

end Extensions

end ImageFallback
