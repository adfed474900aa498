import ImageFallback.Proofs.Swap.Paths
import Mathlib.Algebra.BigOperators.Group.Finset.Piecewise

/-!
# At how many positions an extension occurs

`positions` are the places of a text at which some extension occurs. They are counted from left to
right along the text (`card_positions`). Where extensions start with a dot and have no other one, a
dot parts a text into two that are counted by themselves (`startCount_append_dot`): an occurrence
before the dot cannot reach it. So exchanging one such word for another changes the count at the
place of the word and nowhere else (`startCount_word`).

If also no extension starts another one or the target, and the target starts none, the target that
takes the place of an extension is none, and nothing that follows can make it one
(`starts_target`). Each change then takes away one position (`card_positions_swapPath`).
-/

namespace ImageFallback

namespace Text

/-- The word occurs in the text with `position` characters before it. -/
def OccursAt (word text : String) (position : Nat) : Prop :=
  ∃ before after, text = before ++ word ++ after ∧ before.length = position

theorem occursAt_iff {word text : String} {position : Nat} :
    OccursAt word text position ↔
      position ≤ text.length ∧ word.toList <+: text.toList.drop position := by
  constructor
  · rintro ⟨before, after, rfl, rfl⟩
    constructor
    · rw [String.length_append, String.length_append]
      omega
    · rw [String.toList_append, String.toList_append, List.append_assoc, ← String.length_toList,
        List.drop_left]
      exact List.prefix_append _ _
  · rintro ⟨inside, after, rest⟩
    refine ⟨String.ofList (text.toList.take position), String.ofList after, ?_, ?_⟩
    · rw [← String.toList_inj]
      simp [rest]
    · rw [String.length_ofList, List.length_take, String.length_toList, min_eq_left inside]

instance (word text : String) (position : Nat) : Decidable (OccursAt word text position) :=
  decidable_of_iff _ occursAt_iff.symm

end Text

namespace Extensions

open Text

/-- The positions of a text at which some extension occurs. -/
def positions (extensions : Extensions) (text : String) : Finset Nat :=
  (Finset.range (text.length + 1)).filter fun position =>
    ∃ ext ∈ extensions.recognized, OccursAt ext text position

/-- Some extension occurs at the start of the characters. -/
def starts (extensions : Extensions) (tail : List Char) : Bool :=
  extensions.recognized.any fun ext => ext.toList.isPrefixOf tail

/-- At how many places of the characters some extension starts. -/
def startCount (extensions : Extensions) (cs : List Char) : Nat := cs.tails.countP extensions.starts

variable {extensions : Extensions}

theorem starts_iff {tail : List Char} :
    extensions.starts tail = true ↔ ∃ ext ∈ extensions.recognized, ext.toList <+: tail := by
  simp [starts]

theorem startCount_cons (c : Char) (cs : List Char) :
    extensions.startCount (c :: cs) =
      extensions.startCount cs + if extensions.starts (c :: cs) then 1 else 0 := by
  rw [startCount, List.tails_cons, List.countP_cons, startCount]

theorem mem_positions_iff {text : String} {position : Nat} :
    position ∈ extensions.positions text ↔
      ∃ ext ∈ extensions.recognized, OccursAt ext text position := by
  rw [positions, Finset.mem_filter, Finset.mem_range, and_iff_right_iff_imp]
  rintro ⟨ext, -, occurs⟩
  exact Nat.lt_succ_of_le (occursAt_iff.1 occurs).1

theorem card_filter_drop (p : List Char → Bool) (cs : List Char) :
    ((Finset.range (cs.length + 1)).filter fun i => p (cs.drop i) = true).card =
      cs.tails.countP p := by
  rw [Finset.card_filter]
  induction cs with
  | nil => simp [List.countP_cons]
  | cons c cs ih =>
      rw [List.length_cons, Finset.sum_range_succ', List.tails_cons, List.countP_cons, ← ih]
      simp

/-- The positions are counted from left to right. -/
theorem card_positions (extensions : Extensions) (text : String) :
    (extensions.positions text).card = extensions.startCount text.toList := by
  rw [startCount, ← card_filter_drop, positions, String.length_toList]
  congr 1
  apply Finset.filter_congr
  intro position inside
  rw [Finset.mem_range, Nat.lt_succ_iff] at inside
  simp only [starts_iff, occursAt_iff, inside, true_and]

/-! ## Words that start with a dot -/

/-- The word starts with a dot and has no other dot and no slash. -/
def IsDotted (word : String) : Prop :=
  word.toList.head? = some '.' ∧ '.' ∉ word.toList.tail ∧ '/' ∉ word.toList.tail

instance (word : String) : Decidable (IsDotted word) := inferInstanceAs (Decidable (_ ∧ _ ∧ _))

theorem IsDotted.exists_letters {word : String} (dotted : IsDotted word) :
    ∃ letters, word.toList = '.' :: letters ∧ '.' ∉ letters ∧ '/' ∉ letters :=
  ⟨word.toList.tail, List.eq_cons_of_mem_head? dotted.1, dotted.2⟩

/-- Extensions of which each starts with a dot and has no other dot and no slash, the target
included. None of them starts another one, or the target, and the target starts none. -/
structure PrefixFree (extensions : Extensions) : Prop where
  dotted : ∀ ext ∈ extensions.recognized, IsDotted ext
  target : IsDotted extensions.target
  apart : ∀ ext ∈ extensions.recognized, ∀ other ∈ extensions.recognized,
    ext.toList <+: other.toList → ext = other
  other : ∀ ext ∈ extensions.recognized,
    ¬ext.toList <+: extensions.target.toList ∧ ¬extensions.target.toList <+: ext.toList

theorem prefixFree_default : ({} : Extensions).PrefixFree where
  dotted := by decide +kernel
  target := by decide +kernel
  apart := by decide +kernel
  other := by decide +kernel

/-- Letters before a dot cannot reach it. -/
theorem prefix_append_dot_iff {letters : List Char} (dots : '.' ∉ letters)
    (before rest : List Char) :
    letters <+: before ++ '.' :: rest ↔ letters <+: before := by
  constructor
  · intro starts
    rcases List.prefix_or_prefix_of_prefix starts (List.prefix_append _ _) with
      within | ⟨after, rfl⟩
    · exact within
    · rw [List.prefix_append_right_inj] at starts
      cases after with
      | nil => rw [List.append_nil]
      | cons c after =>
          obtain ⟨rfl, -⟩ := List.cons_prefix_cons.1 starts
          simp at dots
  · exact fun starts => starts.trans (List.prefix_append _ _)

theorem starts_of_mem {ext : String} (known : ext ∈ extensions.recognized) (after : List Char) :
    extensions.starts (ext.toList ++ after) = true :=
  starts_iff.2 ⟨ext, known, List.prefix_append _ _⟩

namespace PrefixFree

variable (free : extensions.PrefixFree)

include free

theorem startCount_nil : extensions.startCount [] = 0 := by
  rw [startCount, List.tails, List.countP_singleton, ite_eq_right_iff, starts_iff]
  rintro ⟨ext, known, starts⟩
  obtain ⟨letters, form, -⟩ := (free.dotted ext known).exists_letters
  simp [form] at starts

theorem starts_cons_of_ne {c : Char} (ne : c ≠ '.') (rest : List Char) :
    extensions.starts (c :: rest) = false := by
  rw [← Bool.not_eq_true, starts_iff]
  rintro ⟨ext, known, starts⟩
  obtain ⟨letters, form, -⟩ := (free.dotted ext known).exists_letters
  rw [form, List.cons_prefix_cons] at starts
  exact ne starts.1.symm

/-- What starts before a dot ends before it. -/
theorem starts_append_dot (c : Char) (before rest : List Char) :
    extensions.starts (c :: before ++ '.' :: rest) = extensions.starts (c :: before) := by
  rw [Bool.eq_iff_iff, starts_iff, starts_iff]
  apply exists_congr
  intro ext
  apply and_congr_right
  intro known
  obtain ⟨letters, form, dots, -⟩ := (free.dotted ext known).exists_letters
  rw [form, List.cons_append, List.cons_prefix_cons, List.cons_prefix_cons,
    prefix_append_dot_iff dots]

/-- A dot parts a text into two that are counted by themselves. -/
theorem startCount_append_dot (before rest : List Char) :
    extensions.startCount (before ++ '.' :: rest) =
      extensions.startCount before + extensions.startCount ('.' :: rest) := by
  induction before with
  | nil => rw [List.nil_append, free.startCount_nil, Nat.zero_add]
  | cons c before ih =>
      rw [List.cons_append, startCount_cons, ih, ← List.cons_append, free.starts_append_dot,
        startCount_cons c before]
      omega

/-- Nothing occurs where there is no dot. -/
theorem startCount_letters {letters : List Char} (dots : '.' ∉ letters) (rest : List Char) :
    extensions.startCount (letters ++ rest) = extensions.startCount rest := by
  induction letters with
  | nil => rfl
  | cons c letters ih =>
      rw [List.mem_cons, not_or] at dots
      rw [List.cons_append, startCount_cons, free.starts_cons_of_ne (Ne.symm dots.1), ih dots.2]
      rfl

/-- A word that starts with a dot is counted at its own place, and what stands around it by
itself. -/
theorem startCount_word {word : String} (dotted : IsDotted word) (before after : List Char) :
    extensions.startCount (before ++ word.toList ++ after) =
      extensions.startCount before + extensions.startCount after +
        if extensions.starts (word.toList ++ after) then 1 else 0 := by
  obtain ⟨letters, form, dots, -⟩ := dotted.exists_letters
  rw [List.append_assoc, form, List.cons_append, free.startCount_append_dot, startCount_cons,
    free.startCount_letters dots]
  omega

/-- No extension occurs where the target stands, whatever follows it. -/
theorem starts_target (after : List Char) :
    extensions.starts (extensions.target.toList ++ after) = false := by
  rw [← Bool.not_eq_true, starts_iff]
  rintro ⟨ext, known, starts⟩
  have other := free.other ext known
  rcases List.prefix_or_prefix_of_prefix starts (List.prefix_append _ _) with within | around
  · exact other.1 within
  · exact other.2 around

/-- A change takes away one position. -/
theorem card_positions_swapPath {text : String}
    (occurs : ∃ ext ∈ extensions.recognized, Occurs ext text) :
    (extensions.positions (extensions.swapPath text)).card + 1 =
      (extensions.positions text).card := by
  cases place : extensions.site? text with
  | none =>
      obtain ⟨ext, known, occurs⟩ := occurs
      exact absurd (infix_toList_iff.2 occurs) (site?_eq_none_iff.1 place ext known)
  | some site =>
      have known := mem_of_site place
      rw [card_positions, card_positions, append_of_site place, swapPath_of_site place,
        String.toList_ofList, free.startCount_word (free.dotted _ known),
        free.startCount_word free.target, free.starts_target, starts_of_mem known]
      rfl

/-! ## Paths with one extension -/

/-- The dot with which a relative path starts is none of an extension. An extension that is a dot
alone would start the target. -/
theorem starts_slash (rest : List Char) : extensions.starts ('.' :: '/' :: rest) = false := by
  rw [← Bool.not_eq_true, starts_iff]
  rintro ⟨ext, known, starts⟩
  obtain ⟨letters, form, -, slashes⟩ := (free.dotted ext known).exists_letters
  rw [form, List.cons_prefix_cons] at starts
  cases letters with
  | nil =>
      obtain ⟨others, target, -⟩ := free.target.exists_letters
      have alone := (free.other ext known).1
      rw [form, target] at alone
      exact alone (List.cons_prefix_cons.2 ⟨rfl, List.nil_prefix⟩)
  | cons c letters =>
      obtain ⟨rfl, -⟩ := List.cons_prefix_cons.1 starts.2
      simp at slashes

/-- In a relative path with one dot besides the first character extensions occur after the stem or
nowhere. -/
theorem card_positions_path {stem word : String} (dots : '.' ∉ stem.toList)
    (dotted : IsDotted word) :
    (extensions.positions ("./" ++ stem ++ word)).card =
      if extensions.starts word.toList then 1 else 0 := by
  have slash : '.' ∉ '/' :: stem.toList := by simp [dots]
  have before : ("./" ++ stem).toList = '.' :: ('/' :: stem.toList ++ []) := by simp
  have inStem : extensions.startCount ("./" ++ stem).toList = 0 := by
    rw [before, startCount_cons, free.startCount_letters slash, free.startCount_nil,
      List.cons_append, free.starts_slash]
    rfl
  have parts := free.startCount_word dotted ("./" ++ stem).toList []
  rw [inStem, free.startCount_nil, List.append_nil, List.append_nil] at parts
  rw [card_positions, String.toList_append, parts, Nat.zero_add]

/-- A relative path with one extension has the target in its place afterwards. -/
theorem swapPath_path {stem ext : String} (dots : '.' ∉ stem.toList)
    (known : ext ∈ extensions.recognized) :
    extensions.swapPath ("./" ++ stem ++ ext) = "./" ++ stem ++ extensions.target := by
  have single := free.card_positions_path dots (free.dotted ext known)
  have atStem : ("./" ++ stem).length ∈ extensions.positions ("./" ++ stem ++ ext) :=
    mem_positions_iff.2 ⟨ext, known, "./" ++ stem, "", by simp, rfl⟩
  cases place : extensions.site? ("./" ++ stem ++ ext) with
  | none =>
      have absent := site?_eq_none_iff.1 place ext known
      exact absurd (infix_toList_iff.2 ⟨"./" ++ stem, "", by simp⟩) absent
  | some site =>
      have parts := append_of_site place
      have atSite : site.before.length ∈ extensions.positions ("./" ++ stem ++ ext) :=
        mem_positions_iff.2 ⟨site.extension, mem_of_site place, String.ofList site.before,
          String.ofList site.after, by rw [← String.toList_inj, parts]; simp, by simp⟩
      -- There is one position only, so the path is changed where the stem ends.
      have length := Finset.card_le_one.1 (by rw [single]; split <;> simp) _ atStem _ atSite
      rw [String.toList_append, List.append_assoc] at parts
      obtain ⟨start, rest⟩ := List.append_inj parts (by rwa [String.length_toList])
      have same := free.apart _ (mem_of_site place) ext known ⟨site.after, rest.symm⟩
      rw [same, List.self_eq_append_right] at rest
      rw [swapPath_of_site place, ← start, rest, ← String.toList_inj]
      simp

/-- No extension occurs in a relative path that has the target after a stem without a dot. -/
theorem not_occurs_path {stem ext : String} (dots : '.' ∉ stem.toList)
    (known : ext ∈ extensions.recognized) :
    ¬Occurs ext ("./" ++ stem ++ extensions.target) := by
  rintro ⟨before, after, parts⟩
  have nowhere := free.card_positions_path dots free.target
  have kept := free.starts_target []
  rw [List.append_nil] at kept
  rw [kept, if_neg Bool.false_ne_true, Finset.card_eq_zero] at nowhere
  have found : before.length ∈ extensions.positions ("./" ++ stem ++ extensions.target) :=
    mem_positions_iff.2 ⟨ext, known, before, after, parts, rfl⟩
  simp [nowhere] at found

end PrefixFree

end Extensions

end ImageFallback
