import ImageFallback.Swap.Extensions
import Mathlib.Data.List.Infix

/-!
# Where a path is changed

A path is changed at one place, its `Site`: at the first occurrence of the first extension of the
list that occurs at all. Changing it is exchanging the extension there for the target
(`swapPath_of_site`), and a path has a site exactly when some extension occurs in it.

`Text.FirstOccurrence` says what a first occurrence is without searching for it. There is at most
one (`FirstOccurrence.unique`), so it decides what becomes of a text
(`swapPath_of_firstOccurrence`).
-/

namespace ImageFallback

namespace Text

theorem append_of_cut {word text before after : List Char}
    (h : cut word text = some (before, after)) : text = before ++ word ++ after := by
  induction text generalizing before with
  | nil =>
      rw [cut] at h
      split at h
      · rename_i empty
        cases h
        rw [List.isEmpty_iff.1 empty]
        rfl
      · cases h
  | cons c rest ih =>
      rw [cut] at h
      split at h
      · rename_i found
        cases h
        exact (List.isPrefixOf?_eq_some_iff_append_eq.1 found).symm
      · obtain ⟨⟨first, last⟩, found, same⟩ := Option.map_eq_some_iff.1 h
        cases same
        rw [ih found]
        rfl

theorem cut_eq_none_iff {word text : List Char} : cut word text = none ↔ ¬ word <:+: text := by
  induction text with
  | nil => cases word <;> simp [cut]
  | cons c rest ih =>
      rw [cut, List.infix_cons_iff, not_or, ← ih]
      cases found : word.isPrefixOf? (c :: rest) with
      | some after =>
          have starts : word <+: c :: rest :=
            ⟨after, List.isPrefixOf?_eq_some_iff_append_eq.1 found⟩
          simp [starts]
      | none =>
          have other : ¬ word <+: c :: rest := by
            rintro ⟨after, same⟩
            rw [List.isPrefixOf?_eq_some_iff_append_eq.2 same] at found
            cases found
          simp [other]

/-- The word occurs in the text. -/
def Occurs (word text : String) : Prop := ∃ before after, text = before ++ word ++ after

/-- The text is the word between `before` and `after`, and the word does not occur with less before
it. -/
structure FirstOccurrence (word text before after : String) : Prop where
  parts : text = before ++ word ++ after
  first : ∀ before' after', text = before' ++ word ++ after' → before.length ≤ before'.length

theorem infix_toList_iff {word text : String} :
    word.toList <:+: text.toList ↔ Occurs word text := by
  constructor
  · rintro ⟨before, after, parts⟩
    refine ⟨String.ofList before, String.ofList after, ?_⟩
    rw [← String.toList_inj, ← parts]
    simp
  · rintro ⟨before, after, rfl⟩
    exact ⟨before.toList, after.toList, by simp⟩

theorem occursIn_iff {word text : String} : occursIn word text = true ↔ Occurs word text := by
  rw [occursIn, Option.isSome_iff_ne_none, ne_eq, cut_eq_none_iff, not_not, infix_toList_iff]

/-- A text is cut where the word has the least before it. -/
theorem length_le_of_cut {word text before after : List Char}
    (h : cut word text = some (before, after)) {before' after' : List Char}
    (parts : text = before' ++ word ++ after') : before.length ≤ before'.length := by
  induction text generalizing before before' with
  | nil =>
      have empty := append_of_cut h
      simp_all
  | cons c rest ih =>
      rw [cut] at h
      split at h
      · cases h
        exact Nat.zero_le _
      · rename_i nowhere
        obtain ⟨⟨first, last⟩, found, same⟩ := Option.map_eq_some_iff.1 h
        cases same
        cases before' with
        | nil =>
            have starts := List.isPrefixOf?_eq_some_iff_append_eq.2 parts.symm
            rw [List.nil_append, nowhere] at starts
            cases starts
        | cons d before' =>
            rw [List.cons_append, List.cons_append, List.cons.injEq] at parts
            exact Nat.succ_le_succ (ih found parts.2)

theorem firstOccurrence_of_cut {word text : String} {before after : List Char}
    (h : cut word.toList text.toList = some (before, after)) :
    FirstOccurrence word text (String.ofList before) (String.ofList after) where
  parts := by
    rw [← String.toList_inj, append_of_cut h]
    simp
  first before' after' parts := by
    have parts' : text.toList = before'.toList ++ word.toList ++ after'.toList := by
      rw [parts, String.toList_append, String.toList_append]
    rw [String.length_ofList, ← String.length_toList]
    exact length_le_of_cut h parts'

theorem FirstOccurrence.unique {word text before after before' after' : String}
    (h : FirstOccurrence word text before after) (h' : FirstOccurrence word text before' after') :
    before = before' ∧ after = after' := by
  have length : before.length = before'.length :=
    le_antisymm (h.first before' after' h'.parts) (h'.first before after h.parts)
  have same : before ++ (word ++ after) = before' ++ (word ++ after') := by
    rw [← String.append_assoc, ← String.append_assoc, ← h.parts, ← h'.parts]
  rw [← String.toList_inj] at same
  simp only [String.toList_append] at same
  have split := List.append_inj same (by rwa [String.length_toList, String.length_toList])
  constructor
  · exact String.toList_inj.1 split.1
  · exact String.toList_inj.1 (List.append_cancel_left split.2)

end Text

namespace Extensions

/-- The place of a path at which it is changed. -/
structure Site where
  before : List Char
  extension : String
  after : List Char
  deriving DecidableEq

/-- The place of a path at which it is changed: the first occurrence of the extension that matches
first. -/
def site? (extensions : Extensions) (path : String) : Option Site :=
  (extensions.firstMatch path).bind fun extension =>
    (Text.cut extension.toList path.toList).map fun parts => ⟨parts.1, extension, parts.2⟩

variable {extensions : Extensions} {path : String}

theorem append_of_site {site : Site} (h : extensions.site? path = some site) :
    path.toList = site.before ++ site.extension.toList ++ site.after := by
  obtain ⟨extension, -, h⟩ := Option.bind_eq_some_iff.1 h
  obtain ⟨⟨before, after⟩, found, rfl⟩ := Option.map_eq_some_iff.1 h
  exact Text.append_of_cut found

theorem mem_of_site {site : Site} (h : extensions.site? path = some site) :
    site.extension ∈ extensions.recognized := by
  obtain ⟨extension, found, h⟩ := Option.bind_eq_some_iff.1 h
  obtain ⟨⟨before, after⟩, -, rfl⟩ := Option.map_eq_some_iff.1 h
  exact List.mem_of_find?_eq_some found

theorem site?_eq_none_iff_firstMatch :
    extensions.site? path = none ↔ extensions.firstMatch path = none := by
  constructor
  · intro nowhere
    cases found : extensions.firstMatch path with
    | none => rfl
    | some extension =>
        have occurs : Text.occursIn extension path = true :=
          List.find?_some (p := (Text.occursIn · path)) found
        simp only [site?, found, Option.bind_some, Option.map_eq_none_iff] at nowhere
        rw [Text.occursIn, nowhere] at occurs
        cases occurs
  · intro nothing
    rw [site?, nothing, Option.bind_none]

/-- A path has no site exactly when no extension occurs in it. -/
theorem site?_eq_none_iff :
    extensions.site? path = none ↔
      ∀ extension ∈ extensions.recognized, ¬ extension.toList <:+: path.toList := by
  simp only [site?_eq_none_iff_firstMatch, firstMatch, List.find?_eq_none, Text.occursIn,
    Option.not_isSome_iff_eq_none, Text.cut_eq_none_iff]

theorem swapPath_of_site {site : Site} (h : extensions.site? path = some site) :
    extensions.swapPath path =
      String.ofList (site.before ++ extensions.target.toList ++ site.after) := by
  obtain ⟨extension, found, h⟩ := Option.bind_eq_some_iff.1 h
  obtain ⟨⟨before, after⟩, cut, rfl⟩ := Option.map_eq_some_iff.1 h
  simp only [swapPath, found, Text.replaceFirst, cut]

theorem swapPath_of_no_site (h : extensions.site? path = none) :
    extensions.swapPath path = path := by
  simp only [swapPath, site?_eq_none_iff_firstMatch.1 h]

/-! ## The match and the result -/

open Text

variable {text ext : String}

/-- The extension is the first of the list that occurs in the text. -/
def FirstListed (extensions : Extensions) (text ext : String) : Prop :=
  ∃ earlier later, extensions.recognized = earlier ++ ext :: later ∧ Occurs ext text ∧
    ∀ other ∈ earlier, ¬Occurs other text

theorem firstMatch_eq_some_iff :
    extensions.firstMatch text = some ext ↔ extensions.FirstListed text ext := by
  rw [firstMatch, List.find?_eq_some_iff_append, FirstListed]
  simp only [Bool.not_eq_true', ← Bool.not_eq_true, occursIn_iff]
  constructor
  · rintro ⟨occurs, earlier, later, listed, nowhere⟩
    exact ⟨earlier, later, listed, occurs, nowhere⟩
  · rintro ⟨earlier, later, listed, occurs, nowhere⟩
    exact ⟨occurs, earlier, later, listed, nowhere⟩

theorem firstMatch_eq_none_iff :
    extensions.firstMatch text = none ↔ ∀ ext ∈ extensions.recognized, ¬Occurs ext text := by
  rw [firstMatch, List.find?_eq_none]
  simp only [occursIn_iff]

/-- An extension that matches has a first occurrence. -/
theorem exists_firstOccurrence (found : extensions.firstMatch text = some ext) :
    ∃ before after, FirstOccurrence ext text before after := by
  have occurs : occursIn ext text = true := List.find?_some (p := (occursIn · text)) found
  obtain ⟨parts, cut⟩ := Option.isSome_iff_exists.1 occurs
  exact ⟨_, _, firstOccurrence_of_cut cut⟩

/-- The target takes the place of the extension at its first occurrence. -/
theorem swapPath_of_firstOccurrence (found : extensions.firstMatch text = some ext)
    {before after : String} (place : FirstOccurrence ext text before after) :
    extensions.swapPath text = before ++ extensions.target ++ after := by
  cases parted : cut ext.toList text.toList with
  | none =>
      have nowhere : ¬Occurs ext text := by
        rw [← infix_toList_iff]
        exact cut_eq_none_iff.1 parted
      exact absurd ⟨before, after, place.parts⟩ nowhere
  | some parts =>
      obtain ⟨rfl, rfl⟩ := place.unique (firstOccurrence_of_cut parted)
      simp [swapPath, found, replaceFirst, parted, String.append_assoc]

/-- A text keeps its form only where the target is what stands there already. -/
theorem swapPath_eq_self_iff (found : extensions.firstMatch text = some ext) :
    extensions.swapPath text = text ↔ ext = extensions.target := by
  obtain ⟨before, after, place⟩ := exists_firstOccurrence found
  rw [swapPath_of_firstOccurrence found place]
  constructor
  · intro same
    have same' := same.trans place.parts
    rw [← String.toList_inj] at same'
    simp only [String.toList_append, List.append_assoc] at same'
    have rest := List.append_cancel_right (List.append_cancel_left same')
    exact (String.toList_inj.1 rest).symm
  · intro same
    rw [← same]
    exact place.parts.symm

theorem swapPath_of_firstMatch_eq_none (h : extensions.firstMatch text = none) :
    extensions.swapPath text = text :=
  swapPath_of_no_site (site?_eq_none_iff_firstMatch.2 h)

theorem swapPath_ne_self_iff :
    extensions.swapPath text ≠ text ↔
      ∃ ext, extensions.firstMatch text = some ext ∧ ext ≠ extensions.target := by
  cases found : extensions.firstMatch text with
  | none => simp [swapPath_of_firstMatch_eq_none found]
  | some ext => simp [swapPath_eq_self_iff found]

theorem eq_empty_of_swapPath (target : extensions.target ≠ "")
    (empty : extensions.swapPath text = "") : text = "" ∧ extensions.firstMatch text = none := by
  cases found : extensions.firstMatch text with
  | none =>
      rw [swapPath_of_firstMatch_eq_none found] at empty
      exact ⟨empty, rfl⟩
  | some ext =>
      obtain ⟨before, after, place⟩ := exists_firstOccurrence found
      rw [swapPath_of_firstOccurrence found place] at empty
      simp [target] at empty

theorem isEligible_iff {marker : String} {fragments : List String} :
    extensions.isEligible marker fragments = true ↔
      (∀ fragment ∈ fragments, ¬Occurs marker fragment) ∧
        ∃ fragment ∈ fragments, (extensions.firstMatch fragment).isSome = true := by
  simp only [isEligible_eq, Bool.and_eq_true, List.all_eq_true, List.any_eq_true, Bool.not_eq_true',
    ← Bool.not_eq_true, occursIn_iff, containsAny]

theorem isEligible_perm {marker : String} {fragments others : List String}
    (same : fragments.Perm others) :
    extensions.isEligible marker others = extensions.isEligible marker fragments := by
  apply Bool.eq_iff_iff.2
  rw [isEligible_iff, isEligible_iff]
  simp only [same.mem_iff]

/-- Order in the list comes before order in the text: the first extension of the list that occurs is
exchanged, and it is exchanged where it occurs first. Everything else is read off the match. -/
theorem swapPath_at_first_occurrence (extensions : Extensions) :
    (∀ text, (∃ ext ∈ extensions.recognized, Occurs ext text) →
      ∃ ext before after, extensions.FirstListed text ext ∧ extensions.firstMatch text = some ext ∧
        FirstOccurrence ext text before after ∧
        (∀ before' after', FirstOccurrence ext text before' after' →
          before' = before ∧ after' = after) ∧
        extensions.swapPath text = before ++ extensions.target ++ after) ∧
    (∀ text, (∀ ext ∈ extensions.recognized, ¬Occurs ext text) →
      extensions.firstMatch text = none ∧ extensions.swapPath text = text) ∧
    (∀ text, extensions.swapPath text ≠ text ↔
      ∃ ext, extensions.firstMatch text = some ext ∧ ext ≠ extensions.target) ∧
    (extensions.target ≠ "" → ∀ text, extensions.swapPath text = "" →
      text = "" ∧ extensions.firstMatch text = none) ∧
    ∀ marker fragments,
      (extensions.isEligible marker fragments = true ↔
        (∀ fragment ∈ fragments, ¬Occurs marker fragment) ∧
          ∃ fragment ∈ fragments, (extensions.firstMatch fragment).isSome = true) ∧
      ∀ others, fragments.Perm others →
        extensions.isEligible marker others = extensions.isEligible marker fragments := by
  constructor
  · intro text occurs
    cases found : extensions.firstMatch text with
    | none =>
        obtain ⟨ext, listed, occurs⟩ := occurs
        exact absurd occurs (firstMatch_eq_none_iff.1 found ext listed)
    | some ext =>
        obtain ⟨before, after, place⟩ := exists_firstOccurrence found
        exact ⟨ext, before, after, firstMatch_eq_some_iff.1 found, rfl, place,
          fun before' after' place' => place'.unique place, swapPath_of_firstOccurrence found place⟩
  constructor
  · intro text nowhere
    have none := firstMatch_eq_none_iff.2 nowhere
    exact ⟨none, swapPath_of_firstMatch_eq_none none⟩
  constructor
  · exact fun text => swapPath_ne_self_iff
  constructor
  · exact fun target text empty => eq_empty_of_swapPath target empty
  · exact fun marker fragments => ⟨isEligible_iff, fun others same => isEligible_perm same⟩

/-- Two places overlap, and an empty extension that would match earlier comes later in the list. -/
theorem swapPath_at_overlapping_extensions :
    let extensions : Extensions := { recognized := [".jpg", "aa", ""] }
    let others : Extensions := { recognized := [".jpg", "aa"] }
    ((∃ ext ∈ extensions.recognized, Occurs ext "baaa") ∧ extensions.FirstListed "baaa" "aa" ∧
      FirstOccurrence "aa" "baaa" "b" "a" ∧ extensions.swapPath "baaa" = "b.webpa") ∧
    (others.target ≠ "" ∧ others.swapPath "" = "" ∧ others.firstMatch "" = none) := by
  intro extensions others
  have occurs : ∃ ext ∈ extensions.recognized, Occurs ext "baaa" :=
    ⟨"aa", by decide, "b", "a", rfl⟩
  have place : FirstOccurrence "aa" "baaa" "b" "a" := firstOccurrence_of_cut (by decide)
  have matched : extensions.firstMatch "baaa" = some "aa" := by decide
  have target : others.target ≠ "" := by decide
  have empty : others.swapPath "" = "" := by decide
  constructor
  · obtain ⟨ext, before, after, listed, found, -, only, swapped⟩ :=
      extensions.swapPath_at_first_occurrence.1 "baaa" occurs
    cases matched.symm.trans found
    obtain ⟨rfl, rfl⟩ := only "b" "a" place
    exact ⟨occurs, listed, place, swapped⟩
  · obtain ⟨-, -, -, emptied, -⟩ := others.swapPath_at_first_occurrence
    exact ⟨target, empty, (emptied target "" empty).2⟩

end Extensions

end ImageFallback
