import ImageFallback.Proofs.Data.Readers
import ImageFallback.Proofs.Options.Record

/-!
# Options from a file and from the environment

A file and the variables of the environment may each give options. When each of them can be read on
its own, they can be read together exactly when they spell alike what both of them give
(`load_layers_iff`): the layers are laid over each other by keys, and a field that then goes by two
of its names is refused. Where they can be read together, the environment has its way in every option
that it gives, and the file in all others. The shapes are one option, but two maps of shapes are laid
over each other switch by switch, again by keys.
-/

namespace ImageFallback

open Decode

/-- The entries of a map; any other value has none. -/
def Value.entries : Value → List (String × Value)
  | .map entries => entries
  | _ => []

namespace Layers

/-- The entries that a file gives. -/
def File.entries (file : File) : List (String × Value) := (file.value?.getD .null).entries

/-- The entries that the environment gives. -/
def settingEntries (settings : List (String × String)) : List (String × Value) :=
  (environment settings).entries

/-- The switches that entries give one by one. -/
def switches (entries : List (String × Value)) : List (String × Value) :=
  ((given Field.ofKey? .shapes entries).getD .null).entries

/-- A switch shows through where a map that does not name it lies over another map. -/
def showsThrough (switch : Switch) : Value → Value → Bool
  | .map _, .map entries => (given Switch.ofKey? switch entries).isNone
  | _, _ => false

/-- A switch of the lower layer shows where the upper one gives no shapes, or where it shows
through them. -/
def shows (lower upper : List (String × Value)) (switch : Switch) : Bool :=
  match given Field.ofKey? .shapes lower, given Field.ofKey? .shapes upper with
  | _, none => true
  | none, some _ => false
  | some bottom, some top => showsThrough switch bottom top

/-! ## Loading as reading entries -/

theorem mapError_eq_ok_iff {ε ε' α : Type} {f : ε → ε'} {result : Except ε α} {a : α} :
    result.mapError f = .ok a ↔ result = .ok a := by
  cases result <;> simp [Except.mapError]

/-- Both layers are maps in order, and they are read as one. -/
theorem load_some_iff {file : File} {settings : List (String × String)} {options : Options} :
    load (some file) settings = .ok options ↔
      (∃ lower, file.value? = some (.map lower)) ∧
        fields Field.ofKey? Field.canonical (storeField .ignored) [] {}
          (Value.overlayFields file.entries (settingEntries settings)) = .ok options := by
  obtain ⟨upper, isMap, -⟩ := ordered_environment settings
  simp only [load, Option.map_some, File.entries, settingEntries, isMap, Value.entries]
  cases found : file.value? with
  | none => simp
  | some layer =>
      obtain ⟨⟨lower, rfl⟩, -⟩ := ordered_of_value? found
      simp [mapError_eq_ok_iff, Value.overlay, Options.decode, record]

theorem ordered_fileEntries (file : File) : (Value.map file.entries).Ordered := by
  unfold File.entries
  cases found : file.value? with
  | none => exact Value.ordered_map_nil
  | some layer =>
      obtain ⟨⟨lower, rfl⟩, ordered⟩ := ordered_of_value? found
      exact ordered

theorem ordered_settingEntries (settings : List (String × String)) :
    (Value.map (settingEntries settings)).Ordered := by
  obtain ⟨upper, isMap, ordered⟩ := ordered_environment settings
  rw [settingEntries, isMap]
  exact ordered

theorem load_alone_iff {file : File} {options : Options} :
    load (some file) [] = .ok options ↔
      (∃ lower, file.value? = some (.map lower)) ∧
        fields Field.ofKey? Field.canonical (storeField .ignored) [] {} file.entries =
          .ok options := by
  rw [load_some_iff]
  simp [settingEntries, environment, Value.entries, Value.overlayFields]

theorem load_none_iff {settings : List (String × String)} {options : Options} :
    load none settings = .ok options ↔
      fields Field.ofKey? Field.canonical (storeField .ignored) [] {} (settingEntries settings) =
        .ok options := by
  obtain ⟨upper, isMap, ordered⟩ := ordered_environment settings
  have same : Value.overlayFields [] upper = upper := Value.overlayFields_of_lt ordered.keys
  simp [load, settingEntries, isMap, Value.entries, mapError_eq_ok_iff, Value.overlay, same,
    Options.decode, record]

/-! ## Shapes over shapes -/

/-- Shapes that can be read each on their own can be read over each other exactly when their
switches are spelled alike, and each switch comes from above unless it shows through. -/
theorem shapes_overlay {bottom top : Value} (below : bottom.Ordered) (above : top.Ordered)
    {low high : Shapes} (fromBelow : shapes .ignored bottom = .ok low)
    (fromAbove : shapes .ignored top = .ok high) :
    ((∃ found, shapes .ignored (bottom.overlay top) = .ok found) ↔
        SpelledAlike Switch.ofKey? bottom.entries top.entries) ∧
      ∀ found, shapes .ignored (bottom.overlay top) = .ok found → ∀ switch,
        found.get switch = if showsThrough switch bottom top then low.get switch
          else high.get switch := by
  by_cases maps : ∃ lower upper, bottom = .map lower ∧ top = .map upper
  · obtain ⟨lower, upper, rfl, rfl⟩ := maps
    have laid : (Value.map lower).overlay (.map upper) = .map (Value.overlayFields lower upper) := by
      rw [Value.overlay]
    simp only [laid, shapes, record, Value.entries] at fromBelow fromAbove ⊢
    refine ⟨?_, fun found h switch => ?_⟩
    · rw [exists_fields_overlay_iff below above shapesRecord fromBelow fromAbove]
      refine and_iff_left fun switch older newer _ there => ?_
      have readable := ((exists_record_iff shapesRecord).1 ⟨high, fromAbove⟩).2 switch newer there
      obtain ⟨b, read⟩ := readable
      exact ⟨b, by rw [overlay_of_read_switch read, read]⟩
    · have held : found.get switch = if (given Switch.ofKey? switch upper).isSome
          then high.get switch else low.get switch :=
        get_overlay below above shapesRecord fromBelow fromAbove overlay_of_read_switch h
      cases there : given Switch.ofKey? switch upper with
      | none => simpa [showsThrough, there] using held
      | some newer => simpa [showsThrough, there] using held
  · have laid : bottom.overlay top = top := by
      cases top with
      | map upper =>
          cases bottom with
          | map lower => exact (maps ⟨lower, upper, rfl, rfl⟩).elim
          | _ => simp [Value.overlay]
      | _ => exact Value.overlay_of_not_map (by simp)
    have alike : SpelledAlike Switch.ofKey? bottom.entries top.entries := by
      intro key mem other mem'
      cases bottom with
      | map lower =>
          cases top with
          | map upper => exact (maps ⟨lower, upper, rfl, rfl⟩).elim
          | _ => cases mem'
      | _ => cases mem
    have hidden : ∀ switch, showsThrough switch bottom top = false := by
      intro switch
      unfold showsThrough
      split
      · exact (maps ⟨_, _, rfl, rfl⟩).elim
      · rfl
    rw [laid]
    refine ⟨iff_of_true ⟨high, fromAbove⟩ alike, fun found h switch => ?_⟩
    rw [Except.ok.inj (h.symm.trans fromAbove), hidden]
    rfl

/-! ## Options over options -/

section

variable {file : File} {settings : List (String × String)} {fromFile fromSettings : Options}
  (fileAlone : load (some file) [] = .ok fromFile)
  (settingsAlone : load none settings = .ok fromSettings)

include fileAlone settingsAlone

/-- The shapes of both layers, one over the other. -/
theorem read_shapes {bottom top : Value}
    (lower : given Field.ofKey? .shapes file.entries = some bottom)
    (upper : given Field.ofKey? .shapes (settingEntries settings) = some top) :
    bottom.Ordered ∧ top.Ordered ∧ shapes .ignored bottom = .ok fromFile.shapes ∧
      shapes .ignored top = .ok fromSettings.shapes := by
  obtain ⟨-, below⟩ := load_alone_iff.1 fileAlone
  have above := load_none_iff.1 settingsAlone
  have readBelow := fields_given (optionsRecord .ignored) below .shapes
  have readAbove := fields_given (optionsRecord .ignored) above .shapes
  rw [lower] at readBelow
  rw [upper] at readAbove
  obtain ⟨_, -, mem⟩ := exists_of_given lower
  obtain ⟨_, -, mem'⟩ := exists_of_given upper
  exact ⟨(ordered_fileEntries file).each _ mem, (ordered_settingEntries settings).each _ mem',
    readBelow, readAbove⟩

theorem exists_load_iff :
    (∃ options, load (some file) settings = .ok options) ↔
      SpelledAlike Field.ofKey? file.entries (settingEntries settings) ∧
        SpelledAlike Switch.ofKey? (switches file.entries)
          (switches (settingEntries settings)) := by
  obtain ⟨isMap, below⟩ := load_alone_iff.1 fileAlone
  have above := load_none_iff.1 settingsAlone
  simp only [load_some_iff, isMap, true_and]
  rw [exists_fields_overlay_iff (ordered_fileEntries file) (ordered_settingEntries settings)
    (optionsRecord .ignored) below above]
  refine and_congr_right fun _ => ?_
  constructor
  · intro readable
    unfold switches
    cases lower : given Field.ofKey? .shapes file.entries with
    | none => exact fun _ mem => by cases mem
    | some bottom =>
        cases upper : given Field.ofKey? .shapes (settingEntries settings) with
        | none => exact fun _ _ _ mem => by cases mem
        | some top =>
            obtain ⟨ordered, ordered', low, high⟩ := read_shapes fileAlone settingsAlone lower upper
            exact (shapes_overlay ordered ordered' low high).1.1 (readable _ _ _ lower upper)
  · intro alike field bottom top lower upper
    by_cases other : field = .shapes
    · subst other
      obtain ⟨ordered, ordered', low, high⟩ := read_shapes fileAlone settingsAlone lower upper
      simp only [switches, lower, upper, Option.getD_some] at alike
      exact (shapes_overlay ordered ordered' low high).1.2 alike
    · obtain ⟨found, read⟩ :=
        ((exists_record_iff (optionsRecord .ignored)).1 ⟨_, above⟩).2 field top upper
      exact ⟨found, by rw [overlay_of_read_field other read, read]⟩

theorem get_load {options : Options} (h : load (some file) settings = .ok options) {field : Field}
    (other : field ≠ .shapes) :
    options.get field =
      if (given Field.ofKey? field (settingEntries settings)).isSome then fromSettings.get field
      else fromFile.get field :=
  get_overlay (ordered_fileEntries file) (ordered_settingEntries settings) (optionsRecord .ignored)
    (load_alone_iff.1 fileAlone).2 (load_none_iff.1 settingsAlone) (overlay_of_read_field other)
    (load_some_iff.1 h).2

theorem get_shapes_load {options : Options} (h : load (some file) settings = .ok options)
    (switch : Switch) :
    options.shapes.get switch =
      if shows file.entries (settingEntries settings) switch then fromFile.shapes.get switch
      else fromSettings.shapes.get switch := by
  have held := fields_overlay (ordered_fileEntries file) (ordered_settingEntries settings)
    (optionsRecord .ignored) (load_alone_iff.1 fileAlone).2 (load_none_iff.1 settingsAlone)
    (load_some_iff.1 h).2 .shapes
  unfold shows
  cases upper : given Field.ofKey? .shapes (settingEntries settings) with
  | none =>
      have same : options.shapes = fromFile.shapes := by
        cases lower : given Field.ofKey? .shapes file.entries with
        | none | some _ =>
            rw [lower, upper] at held
            exact held
      simp [same]
  | some top =>
      cases lower : given Field.ofKey? .shapes file.entries with
      | none =>
          rw [lower, upper] at held
          have same : options.shapes = fromSettings.shapes := held
          simp [same]
      | some bottom =>
          rw [lower, upper] at held
          obtain ⟨ordered, ordered', low, high⟩ := read_shapes fileAlone settingsAlone lower upper
          exact (shapes_overlay ordered ordered' low high).2 _ held switch

end

/-- A file and the environment that can be read each on its own can be read together exactly when
they spell alike what both give; then the environment decides what it gives, and the file the rest. -/
theorem load_layers_iff {file : File} {settings : List (String × String)}
    {fromFile fromSettings : Options} (fileAlone : load (some file) [] = .ok fromFile)
    (settingsAlone : load none settings = .ok fromSettings) :
    ((∃ options, load (some file) settings = .ok options) ↔
        SpelledAlike Field.ofKey? file.entries (settingEntries settings) ∧
          SpelledAlike Switch.ofKey? (switches file.entries)
            (switches (settingEntries settings))) ∧
      ∀ options, load (some file) settings = .ok options →
        (∀ field, field ≠ .shapes → options.get field =
          if (given Field.ofKey? field (settingEntries settings)).isSome
          then fromSettings.get field else fromFile.get field) ∧
        ∀ switch, options.shapes.get switch =
          if shows file.entries (settingEntries settings) switch
          then fromFile.shapes.get switch else fromSettings.shapes.get switch := by
  refine ⟨exists_load_iff fileAlone settingsAlone, fun options h => ⟨?_, ?_⟩⟩
  · exact fun field other => get_load fileAlone settingsAlone h other
  · exact get_shapes_load fileAlone settingsAlone h

theorem eq_ok_of_toOption {ε α : Type} {result : Except ε α} {a : α}
    (h : result.toOption = some a) : result = .ok a := by
  cases result with
  | error e => cases h
  | ok b => exact congrArg Except.ok (Option.some.inj h)

/-- A file and a variable that give different options. -/
theorem load_layers_apart :
    let file : File := {
      path := "x.toml", format := .toml, entry := .text "supportExt = [\".gif\"]\n" }
    let settings := [("WEBP_SWAP_LOADER", "load")]
    load (some file) [] = .ok { extensions := [".gif"] } ∧
      load none settings = .ok { loader := "load" } ∧
      ∃ options, load (some file) settings = .ok options ∧ options.get .loader = "load" ∧
        options.get .extensions = [".gif"] := by
  intro file settings
  have fileAlone : load (some file) [] = .ok { extensions := [".gif"] } :=
    eq_ok_of_toOption (by decide +kernel)
  have settingsAlone : load none settings = .ok { loader := "load" } :=
    eq_ok_of_toOption (by decide +kernel)
  obtain ⟨readable, held⟩ := load_layers_iff fileAlone settingsAlone
  obtain ⟨options, h⟩ := readable.2 (by decide +kernel)
  have set : (given Field.ofKey? .loader (settingEntries settings)).isSome = true := by
    decide +kernel
  have unset : (given Field.ofKey? .extensions (settingEntries settings)).isSome = false := by
    decide +kernel
  refine ⟨fileAlone, settingsAlone, options, h, ?_, ?_⟩
  · rw [(held options h).1 .loader (by decide), set]
    rfl
  · rw [(held options h).1 .extensions (by decide), unset]
    rfl

/-- Two spellings of one option, in the file and in the environment, cannot be read together. -/
theorem load_two_spellings :
    let file : File := {
      path := "x.toml", format := .toml, entry := .text "ignoreMarker = \"f\"\n" }
    let settings := [("WEBP_SWAP_IGNORE_MARKER", "e")]
    load (some file) [] = .ok { ignoreMarker := "f" } ∧
      load none settings = .ok { ignoreMarker := "e" } ∧
      ∀ options, load (some file) settings ≠ .ok options := by
  intro file settings
  refine ⟨eq_ok_of_toOption (by decide +kernel), eq_ok_of_toOption (by decide +kernel), ?_⟩
  intro options h
  have refused : (load (some file) settings).toOption = none := by decide +kernel
  rw [h] at refused
  cases refused

end Layers

end ImageFallback
