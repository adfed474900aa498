/-!
# Options

What a project may choose: the extensions that count as images, the extension that takes their
place, the two markers that leave a literal alone, the shapes of a loader argument that may be
changed, the name of the loader, and the path of the value that tells at run time whether the new
format can be shown.
-/

namespace ImageFallback

/-- The shapes of a loader argument that may be changed. -/
structure Shapes where
  string : Bool := true
  template : Bool := true
  conditional : Bool := true
  deriving DecidableEq, Repr

namespace Shapes

/-- No shape at all. -/
def none : Shapes := { string := false, template := false, conditional := false }

end Shapes

/-- The options of a project. -/
structure Options where
  extensions : List String := [".png", ".jpg", ".jpeg"]
  target : String := ".webp"
  ignoreMarker : String := "webp-ignore"
  inlineMarker : String := "?inline"
  shapes : Shapes := {}
  loader : String := "require"
  predicate : String := "window.isSupportWebp"
  deriving DecidableEq, Repr

end ImageFallback
