import ImageFallback.Proofs.Swap.Paths
import ImageFallback.Proofs.Syntax.Cooking
import ImageFallback.Swap.Swapper
import Mathlib.Data.List.Forall2

/-!
# Raw and cooked text of a changed template

A stretch of a template has its text as it is written and the text that it stands for once escapes
are resolved. The two are in step when the second is what the first stands for. A change of the
template changes both, each by itself: the extension that counts is looked for in each of them anew.
So they stay in step exactly when both searches meet the same occurrence (`inStep_swapQuasi_iff`),
which an escape that spells out part of an extension prevents.
-/

namespace ImageFallback

open Cooking

/-- The cooked text is what the raw text stands for. -/
def Quasi.InStep (quasi : Quasi) : Prop :=
  resolve? true quasi.raw.toList = quasi.cooked.map fun cooked => (cooked, quasi.lone)

instance (quasi : Quasi) : Decidable quasi.InStep := inferInstanceAs (Decidable (_ = _))

namespace Extensions

/-- Extensions that start with a dot and have no other one in them, and of which none is the
target. -/
structure Dotted (extensions : Extensions) : Prop where
  recognized : ∀ extension ∈ extensions.recognized, isDotWord extension.toList = true
  target : isDotWord extensions.target.toList = true
  other : extensions.target ∉ extensions.recognized

/-- A raw and a cooked text are changed at the same occurrence of the same extension, or neither of
them is. What follows the extension in the cooked text is then the cooking of what follows it
in the raw text. -/
def SamePlace (lone : Bool) : Option Site → Option Site → Prop
  | none, none => True
  | some inRaw, some inCooked =>
    inRaw.extension = inCooked.extension ∧ spelled? lone inRaw.after = some inCooked.after
  | _, _ => False

instance (lone : Bool) : (inRaw inCooked : Option Site) → Decidable (SamePlace lone inRaw inCooked)
  | none, none => isTrue trivial
  | some _, some _ => inferInstanceAs (Decidable (_ ∧ _))
  | none, some _ | some _, none => isFalse id

theorem SamePlace.isSome_eq {lone : Bool} {inRaw inCooked : Option Site}
    (h : SamePlace lone inRaw inCooked) : inRaw.isSome = inCooked.isSome := by
  cases inRaw with
  | none =>
      cases inCooked with
      | none => rfl
      | some _ => exact h.elim
  | some _ =>
      cases inCooked with
      | none => exact h.elim
      | some _ => rfl

/-- Both texts of a stretch are changed at the same place. -/
def Meets (extensions : Extensions) (quasi : Quasi) : Prop :=
  ∀ cooked ∈ quasi.cooked,
    SamePlace quasi.lone (extensions.site? quasi.raw) (extensions.site? cooked)

instance (extensions : Extensions) (quasi : Quasi) : Decidable (extensions.Meets quasi) :=
  inferInstanceAs (Decidable (∀ cooked ∈ quasi.cooked, SamePlace _ _ _))

end Extensions

/-! ## One exchange -/

theorem takeWhile_append_dot (before after : List Char) :
    (before ++ '.' :: after).takeWhile (· != '.') = before.takeWhile (· != '.') := by
  induction before with
  | nil => rfl
  | cons c before ih => rw [List.cons_append, List.takeWhile_cons, List.takeWhile_cons, ih]

theorem takeWhile_letters {letters : List Char} (dots : '.' ∉ letters) (rest : List Char) :
    (letters ++ rest).takeWhile (· != '.') = letters ++ rest.takeWhile (· != '.') := by
  apply List.takeWhile_append_of_pos
  intro c mem
  exact bne_iff_ne.2 fun same => dots (same ▸ mem)

theorem eq_of_shifted {shift word word' after after' target : List Char}
    (dotted : isDotWord word = true) (dotted' : isDotWord word' = true)
    (targetDotted : isDotWord target = true) (different : word ≠ target)
    (same : word ++ after = shift ++ (word' ++ after'))
    (exchanged : target ++ after = shift ++ (target ++ after')) :
    word = word' ∧ after = after' := by
  obtain ⟨letters, rfl, dots, -⟩ := exists_of_isDotWord dotted
  obtain ⟨letters', rfl, -⟩ := exists_of_isDotWord dotted'
  obtain ⟨others, rfl, dots', -⟩ := exists_of_isDotWord targetDotted
  cases shift with
  | nil =>
      have rest : after = after' := List.append_cancel_left exchanged
      subst rest
      exact ⟨List.append_cancel_right same, rfl⟩
  | cons c shift =>
      -- Up to the next dot both texts are the shift, so the words cannot differ.
      simp only [List.cons_append, List.cons.injEq] at same exchanged
      have first := congrArg (List.takeWhile (· != '.')) same.2
      have second := congrArg (List.takeWhile (· != '.')) exchanged.2
      rw [takeWhile_append_dot, takeWhile_letters dots] at first
      rw [takeWhile_append_dot, takeWhile_letters dots'] at second
      have equal := List.append_cancel_right (first.trans second.symm)
      rw [equal] at different
      exact absurd rfl different

/-- A text with one word and the same text with a target in its place show which word it is and what
follows it. -/
theorem eq_of_exchanged {before before' word word' after after' target : List Char}
    (dotted : isDotWord word = true) (dotted' : isDotWord word' = true)
    (targetDotted : isDotWord target = true) (different : word ≠ target)
    (different' : word' ≠ target)
    (same : before ++ word ++ after = before' ++ word' ++ after')
    (exchanged : before ++ target ++ after = before' ++ target ++ after') :
    word = word' ∧ after = after' := by
  simp only [List.append_assoc] at same exchanged
  rcases List.append_eq_append_iff.1 same with ⟨shift, rfl, rest⟩ | ⟨shift, rfl, rest⟩
  · rw [List.append_assoc] at exchanged
    exact eq_of_shifted dotted dotted' targetDotted different rest
      (List.append_cancel_left exchanged)
  · rw [List.append_assoc] at exchanged
    have found := eq_of_shifted dotted' dotted targetDotted different' rest
      (List.append_cancel_left exchanged).symm
    exact ⟨found.1.symm, found.2.symm⟩

/-! ## One stretch -/

namespace Extensions.Dotted

variable {extensions : Extensions} (dotted : extensions.Dotted)

include dotted

theorem ne_target {path : String} {site : Site}
    (h : extensions.site? path = some site) :
    site.extension.toList ≠ extensions.target.toList := by
  intro same
  apply dotted.other
  rw [← String.toList_inj.1 same]
  exact mem_of_site h

/-- A path is changed exactly when it has a site. -/
theorem swapPath_ne_iff {path : String} :
    extensions.swapPath path ≠ path ↔ (extensions.site? path).isSome = true := by
  cases found : extensions.site? path with
  | none => simp [swapPath_of_no_site found]
  | some site =>
      have changed : extensions.swapPath path ≠ path := by
        intro same
        have parts := append_of_site found
        rw [← same, swapPath_of_site found, String.toList_ofList] at parts
        have word := List.append_cancel_left (List.append_cancel_right parts)
        exact dotted.ne_target found word.symm
      simp [changed]

/-- A text is changed where one of its extensions stands exactly when that is its site. -/
theorem exchanged_eq_swapPath_iff {text : String} {site : Site}
    (place : extensions.site? text = some site) {extension : String}
    (known : extension ∈ extensions.recognized) {before after : List Char}
    (parts : text.toList = before ++ extension.toList ++ after) :
    String.ofList (before ++ extensions.target.toList ++ after) = extensions.swapPath text ↔
      extension = site.extension ∧ after = site.after := by
  have parts' := append_of_site place
  rw [swapPath_of_site place, String.ofList_inj]
  constructor
  · intro exchanged
    have other : extension.toList ≠ extensions.target.toList := by
      intro same
      exact dotted.other (String.toList_inj.1 same ▸ known)
    have found := eq_of_exchanged (dotted.recognized _ known)
      (dotted.recognized _ (mem_of_site place)) dotted.target other
      (dotted.ne_target place) (parts.symm.trans parts') exchanged
    exact ⟨String.toList_inj.1 found.1, found.2⟩
  · rintro ⟨rfl, rfl⟩
    have start := List.append_cancel_right (List.append_cancel_right (parts.symm.trans parts'))
    rw [start]

theorem inStep_of_site {quasi : Quasi} (inStep : quasi.InStep)
    {site : Site} (place : extensions.site? quasi.raw = some site) :
    (Swapper.swapQuasi extensions quasi).InStep ↔ extensions.Meets quasi := by
  obtain ⟨raw, cooked, lone, span⟩ := quasi
  have known := mem_of_site place
  simp only [Quasi.InStep, Swapper.swapQuasi, Meets, place,
    append_of_site place, swapPath_of_site place,
    String.toList_ofList] at inStep ⊢
  rcases resolve?_around site.before site.after with
    refused | ⟨before, after, lone', later, resolved⟩
  · rw [refused _ (dotted.recognized _ known)] at inStep
    rw [refused _ dotted.target]
    cases cooked with
    | none => simp
    | some cooked => cases inStep
  · rw [resolved _ (dotted.recognized _ known)] at inStep
    rw [resolved _ dotted.target]
    cases cooked with
    | none => cases inStep
    | some cooked =>
        cases inStep
        -- The extension of the raw text occurs in the cooked one too, so that one has a site.
        have parts : (String.ofList (before ++ site.extension.toList ++ after)).toList =
            before ++ site.extension.toList ++ after := String.toList_ofList
        generalize String.ofList (before ++ site.extension.toList ++ after) = text at parts ⊢
        cases place' : extensions.site? text with
        | none =>
            have absent := site?_eq_none_iff.1 place' _ known
            rw [parts] at absent
            exact absurd ⟨before, after, rfl⟩ absent
        | some site' =>
            have same := dotted.exchanged_eq_swapPath_iff place' known parts
            simp only [Option.map_some, Option.some.injEq, Prod.mk.injEq, and_true, same,
              Option.mem_def, forall_eq', place', SamePlace, later]

/-- Both texts of a stretch that are in step stay so exactly when both are changed at the same
place. -/
theorem inStep_swapQuasi_iff {quasi : Quasi} (inStep : quasi.InStep) :
    (Swapper.swapQuasi extensions quasi).InStep ↔ extensions.Meets quasi := by
  cases place : extensions.site? quasi.raw with
  | some site => exact dotted.inStep_of_site inStep place
  | none =>
      simp only [Quasi.InStep, Swapper.swapQuasi, Meets, place,
        swapPath_of_no_site place] at inStep ⊢
      rw [inStep]
      cases quasi.cooked with
      | none => simp
      | some cooked =>
          cases place' : extensions.site? cooked with
          | none => simp [swapPath_of_no_site place', place', SamePlace]
          | some site =>
              have changed : extensions.swapPath cooked ≠ cooked :=
                dotted.swapPath_ne_iff.2 (place' ▸ rfl)
              simp [place', Ne.symm changed, SamePlace]

/-- Texts that are changed at the same place are changed both or neither. -/
theorem changed_iff {quasi : Quasi} {cooked : String}
    (h : quasi.cooked = some cooked) (meets : extensions.Meets quasi) :
    extensions.swapPath quasi.raw ≠ quasi.raw ↔ extensions.swapPath cooked ≠ cooked := by
  rw [dotted.swapPath_ne_iff, dotted.swapPath_ne_iff, (meets cooked h).isSome_eq]

end Extensions.Dotted

/-- A raw text without escapes is its own cooked text, and both are changed alike, whatever the
extensions are. -/
theorem inStep_swapQuasi_of_plain {extensions : Extensions} {quasi : Quasi}
    (inStep : quasi.InStep) (plain : '\\' ∉ quasi.raw.toList)
    (target : '\\' ∉ extensions.target.toList) :
    (Swapper.swapQuasi extensions quasi).InStep ∧ quasi.cooked = some quasi.raw := by
  obtain ⟨raw, cooked, lone, span⟩ := quasi
  simp only [Quasi.InStep, Swapper.swapQuasi] at inStep plain ⊢
  rw [resolve?_plain plain, String.ofList_toList] at inStep
  cases cooked with
  | none => cases inStep
  | some cooked =>
      cases inStep
      have kept : '\\' ∉ (extensions.swapPath raw).toList := by
        cases place : extensions.site? raw with
        | none =>
            rw [Extensions.swapPath_of_no_site place]
            exact plain
        | some site =>
            rw [Extensions.append_of_site place] at plain
            simp only [List.mem_append, not_or] at plain
            rw [Extensions.swapPath_of_site place, String.toList_ofList]
            simp [plain, target]
      rw [resolve?_plain kept, String.ofList_toList]
      exact ⟨rfl, rfl⟩

/-! ## A whole template -/

/-- What is known of a stretch and the changed one. Without escapes it stays in step, and where
extensions start with a dot, it does so exactly when both texts are changed at the same place. Then
it is changed in both texts or in neither. -/
structure ChangesTo (extensions : Extensions) (quasi changed : Quasi) : Prop where
  plain : '\\' ∉ extensions.target.toList → '\\' ∉ quasi.raw.toList →
    changed.InStep ∧ (changed.raw ≠ quasi.raw ↔ changed.cooked ≠ quasi.cooked)
  meets : extensions.Dotted → (changed.InStep ↔ extensions.Meets quasi)
  both : extensions.Dotted → changed.InStep → quasi.cooked.isSome = true →
    (changed.raw ≠ quasi.raw ↔ changed.cooked ≠ quasi.cooked)

theorem swapTemplate_of_eligible {config : Config} {quasis : List Quasi} (id : NodeId) (span : Span)
    (parts : List Node) (s : Swapper)
    (eligible : config.extensions.isEligible config.inlineMarker (quasis.map Quasi.raw) = true) :
    ∃ choiceId newId newParts, (s.swapTemplate config id span quasis parts).1 =
      .conditional choiceId span config.supportTest
        (.template newId span (quasis.map (Swapper.swapQuasi config.extensions)) newParts)
        (.template id span quasis parts) := by
  unfold Swapper.swapTemplate
  rw [if_pos eligible]
  exact ⟨_, _, _, rfl⟩

/-- An eligible template whose texts are in step is changed stretch by stretch into the first branch
of a choice. -/
theorem swapTemplate_inStep (config : Config) (id : NodeId) (span : Span) (quasis : List Quasi)
    (parts : List Node) (s : Swapper)
    (eligible : config.extensions.isEligible config.inlineMarker (quasis.map Quasi.raw) = true)
    (inStep : ∀ quasi ∈ quasis, quasi.InStep) :
    ∃ choiceId newId newQuasis newParts,
      (s.swapTemplate config id span quasis parts).1 =
        .conditional choiceId span config.supportTest (.template newId span newQuasis newParts)
          (.template id span quasis parts) ∧
      List.Forall₂ (ChangesTo config.extensions) quasis newQuasis := by
  obtain ⟨choiceId, newId, newParts, built⟩ := swapTemplate_of_eligible id span parts s eligible
  refine ⟨choiceId, newId, _, newParts, built, ?_⟩
  rw [List.forall₂_map_right_iff, List.forall₂_same]
  intro quasi mem
  constructor
  · intro target plain
    obtain ⟨changed, held⟩ := inStep_swapQuasi_of_plain (inStep quasi mem) plain target
    exact ⟨changed, by simp [Swapper.swapQuasi, held]⟩
  · intro dotted
    exact dotted.inStep_swapQuasi_iff (inStep quasi mem)
  · intro dotted changed some
    obtain ⟨cooked, held⟩ := Option.isSome_iff_exists.1 some
    have meets := (dotted.inStep_swapQuasi_iff (inStep quasi mem)).1 changed
    have alike := dotted.changed_iff held meets
    simpa [Swapper.swapQuasi, held] using alike

theorem dotted_default : ({} : Extensions).Dotted where
  recognized := by decide +kernel
  target := by decide +kernel
  other := by decide +kernel

/-- An escape before the extension does no harm. -/
theorem swapTemplate_inStep_before :
    let quasis : List Quasi := [
      { raw := "\\x61", cooked := some "a" }, { raw := "\\x62.png", cooked := some "b.png" }]
    ∃ choiceId newId newQuasis newParts,
      (Swapper.swapTemplate {} 0 {} quasis [.name {} "x"] {}).1 =
        .conditional choiceId {} ({} : Config).supportTest
          (.template newId {} newQuasis newParts) (.template 0 {} quasis [.name {} "x"]) ∧
      ∀ quasi ∈ newQuasis, quasi.InStep := by
  intro quasis
  obtain ⟨choiceId, newId, newQuasis, newParts, built, changes⟩ :=
    swapTemplate_inStep {} 0 {} quasis [.name {} "x"] {} (by decide +kernel) (by decide +kernel)
  refine ⟨choiceId, newId, newQuasis, newParts, built, ?_⟩
  change List.Forall₂ _ [_, _] newQuasis at changes
  rcases changes with _ | ⟨first, _ | ⟨second, ⟨⟩⟩⟩
  simp only [List.mem_cons, List.not_mem_nil, or_false, forall_eq_or_imp, forall_eq]
  exact ⟨(first.meets dotted_default).2 (by decide +kernel),
    (second.meets dotted_default).2 (by decide +kernel)⟩

/-- An escape for the dot of an extension hides it in the raw text only. The template is eligible by
another stretch, and the cooked text of this one is changed without its raw text. -/
theorem swapTemplate_out_of_step :
    let quasis : List Quasi := [
      { raw := "./a\\x2epng", cooked := some "./a.png" }, { raw := ".png", cooked := some ".png" }]
    (∀ quasi ∈ quasis, quasi.InStep) ∧ ∃ choiceId newId newQuasis newParts,
      (Swapper.swapTemplate {} 0 {} quasis [.name {} "x"] {}).1 =
        .conditional choiceId {} ({} : Config).supportTest
          (.template newId {} newQuasis newParts) (.template 0 {} quasis [.name {} "x"]) ∧
      newQuasis.head? = some { raw := "./a\\x2epng", cooked := some "./a.webp" } ∧
      ∃ quasi ∈ newQuasis, ¬ quasi.InStep := by
  intro quasis
  have eligible : ({} : Config).extensions.isEligible ({} : Config).inlineMarker
      (quasis.map Quasi.raw) = true := by decide +kernel
  obtain ⟨choiceId, newId, newParts, built⟩ :=
    swapTemplate_of_eligible 0 {} [.name {} "x"] {} eligible
  refine ⟨by decide +kernel, choiceId, newId, _, newParts, built, ?_, ?_⟩
  · decide +kernel
  · decide +kernel

end ImageFallback
