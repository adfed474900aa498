/-!
# The first occurrence of a word in a text

`cut word text` parts a text at the first occurrence of a word: it gives what stands before it and
what stands after it, or nothing when the word does not occur. The empty word occurs at the start of
every text. Whether a word occurs and the text with its first occurrence exchanged are read off
`cut`.
-/

namespace ImageFallback.Text

/-- The parts of a list of characters before and after the first occurrence of `word`. -/
def cut (word : List Char) : List Char → Option (List Char × List Char)
  | [] => if word.isEmpty then some ([], []) else none
  | c :: rest =>
    match word.isPrefixOf? (c :: rest) with
    | some after => some ([], after)
    | none => (cut word rest).map fun parts => (c :: parts.1, parts.2)

/-- The word occurs somewhere in the text. -/
def occursIn (word text : String) : Bool := (cut word.toList text.toList).isSome

/-- The text with the first occurrence of `word` exchanged for `other`. -/
def replaceFirst (word other text : String) : String :=
  match cut word.toList text.toList with
  | some (before, after) => String.ofList (before ++ other.toList ++ after)
  | none => text

end ImageFallback.Text
