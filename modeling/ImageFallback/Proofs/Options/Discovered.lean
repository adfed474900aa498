import ImageFallback.Options.Discovery

/-!
# Options that were found can be loaded

Looking for the options of a folder and loading them read the same files one after the other, and
they treat what is wrong with a file differently: looking passes over a package file that it cannot
use, while loading reports why. In a folder that does not change the two agree (`load_of_find`):
options are missing exactly when none were found, a settings file hides the package file, and once
the package file was found only the options in it can be refused.
-/

namespace ImageFallback

namespace Options

/-- Only the value itself can keep it from being options. -/
theorem error_of_ofValue {value : Value} {error : OptionsError} (h : ofValue value = .error error) :
    ∃ fault, error = .value fault := by
  unfold ofValue at h
  split at h
  · cases h
  · cases read : decode .refused value with
    | ok options =>
        rw [read] at h
        cases h
    | error fault =>
        rw [read] at h
        cases h
        exact ⟨fault, rfl⟩

theorem ofToml_ne_notFound (text : String) : ofToml text ≠ .error .notFound := by
  intro h
  unfold ofToml at h
  split at h
  · obtain ⟨fault, impossible⟩ := error_of_ofValue h
    cases impossible
  · cases h

end Options

namespace Discovery

variable {folder : Folder}

/-- The package file holds options exactly when it is the text of a map with something but null in
the field for them. -/
theorem mentionsOptions_iff {entry : Entry} :
    mentionsOptions entry = true ↔ ∃ content fields field, entry = .text content ∧
      Json.read? Json.fileDepth content = some (.map fields) ∧
        Value.field? packageField fields = some field ∧ field ≠ .null := by
  constructor
  · intro mentions
    cases entry with
    | folder | bytes => cases mentions
    | text content =>
        simp only [mentionsOptions, readText] at mentions
        cases read : Json.read? Json.fileDepth content with
        | none =>
            rw [read] at mentions
            cases mentions
        | some value =>
            cases value with
            | map fields =>
                simp only [read, Option.bind_some, fieldOf?] at mentions
                split at mentions
                · cases mentions
                · cases mentions
                · rename_i field present found
                  exact ⟨content, fields, field, rfl, read, found, fun null => present (null ▸ rfl)⟩
            | _ =>
                rw [read] at mentions
                cases mentions
  · rintro ⟨content, fields, field, rfl, read, found, present⟩
    simp only [mentionsOptions, readText, read, Option.bind_some, fieldOf?, found]

theorem find_settings_iff :
    find folder = some .settings ↔ ∃ entry, folder Source.settings.fileName = some entry := by
  cases settings : folder Source.settings.fileName with
  | some entry => simp [find, settings]
  | none =>
      cases package : folder Source.package.fileName with
      | none => simp [find, settings, package]
      | some entry => simp [find, settings, package]

theorem find_package_iff :
    find folder = some .package ↔ folder Source.settings.fileName = none ∧
      ∃ entry, folder Source.package.fileName = some entry ∧ mentionsOptions entry = true := by
  cases settings : folder Source.settings.fileName with
  | some entry => simp [find, settings]
  | none =>
      cases package : folder Source.package.fileName with
      | none => simp [find, settings, package]
      | some entry => simp [find, settings, package]

theorem loadSettings_ne_notFound (entry : Entry) : loadSettings entry ≠ .error .notFound := by
  cases entry with
  | folder | bytes => exact fun h => by cases h
  | text content => exact Options.ofToml_ne_notFound content

/-- A package file that was found is loaded as the value of its field. -/
theorem load_package (h : find folder = some .package) :
    ∃ content fields field, folder Source.package.fileName = some (.text content) ∧
      Json.read? Json.fileDepth content = some (.map fields) ∧
        Value.field? packageField fields = some field ∧ field ≠ .null ∧
          load folder = Options.ofValue field := by
  obtain ⟨-, entry, there, mentions⟩ := find_package_iff.1 h
  obtain ⟨content, fields, field, rfl, read, found, present⟩ := mentionsOptions_iff.1 mentions
  refine ⟨content, fields, field, there, read, found, present, ?_⟩
  have loaded : load folder = loadPackage (.text content) := by
    simp only [load, h, loadFrom, there]
  have given : (readText (.text content)).mapError OptionsError.unreadable = .ok content := rfl
  rw [loaded]
  cases field with
  | null => exact absurd rfl present
  | _ => simp only [loadPackage, given, bind, Except.bind, read, fieldOf?, found]

theorem load_settings {entry : Entry} (h : folder Source.settings.fileName = some entry) :
    load folder = loadSettings entry := by
  simp only [load, find_settings_iff.2 ⟨entry, h⟩, loadFrom, h]

theorem load_ne_notFound {source : Source} (h : find folder = some source) :
    load folder ≠ .error .notFound := by
  intro missing
  cases source with
  | settings =>
      obtain ⟨entry, there⟩ := find_settings_iff.1 h
      exact loadSettings_ne_notFound entry (load_settings there ▸ missing)
  | package =>
      obtain ⟨_, _, field, -, -, -, -, loaded⟩ := load_package h
      obtain ⟨fault, impossible⟩ := Options.error_of_ofValue (loaded ▸ missing)
      cases impossible

theorem load_eq_notFound_iff : load folder = .error .notFound ↔ find folder = none := by
  constructor
  · intro missing
    cases found : find folder with
    | none => rfl
    | some source => exact absurd missing (load_ne_notFound found)
  · intro nothing
    simp only [load, nothing]

theorem loadOrDefault_of_find {source : Source} (h : find folder = some source) :
    loadOrDefault folder = load folder := by
  simp only [loadOrDefault, load, h]

/-- Loading with a default differs from loading only where nothing is found. -/
theorem loadOrDefault_eq (folder : Folder) :
    loadOrDefault folder =
      match load folder with
      | .error .notFound => .ok {}
      | result => result := by
  cases found : find folder with
  | none => simp only [loadOrDefault, load, found]
  | some source =>
      rw [loadOrDefault_of_find found]
      split
      · rename_i missing
        exact absurd missing (load_ne_notFound found)
      · rfl

/-- In a folder that does not change, looking for options and loading them agree. -/
theorem load_of_find (folder : Folder) :
    (load folder = .error .notFound ↔ find folder = none) ∧
      (loadOrDefault folder =
        match load folder with
        | .error .notFound => .ok {}
        | result => result) ∧
      ((folder Source.settings.fileName).isSome = true → ∀ other : Folder,
        other Source.settings.fileName = folder Source.settings.fileName →
          find other = find folder ∧ load other = load folder ∧
            loadOrDefault other = loadOrDefault folder) ∧
      (find folder = some .package → ∃ content fields field,
        folder Source.package.fileName = some (.text content) ∧
          Json.read? Json.fileDepth content = some (.map fields) ∧
          Value.field? packageField fields = some field ∧ field ≠ .null ∧
          load folder = Options.ofValue field ∧ loadOrDefault folder = Options.ofValue field ∧
          ∀ error, load folder = .error error → ∃ fault, error = .value fault) := by
  refine ⟨load_eq_notFound_iff, loadOrDefault_eq folder, ?_, ?_⟩
  · intro there other same
    obtain ⟨entry, here⟩ := Option.isSome_iff_exists.1 there
    rw [here] at same
    have loaded : load other = load folder := by rw [load_settings same, load_settings here]
    refine ⟨?_, loaded, ?_⟩
    · rw [find_settings_iff.2 ⟨entry, same⟩, find_settings_iff.2 ⟨entry, here⟩]
    · rw [loadOrDefault_eq, loadOrDefault_eq, loaded]
  · intro found
    obtain ⟨content, fields, field, there, read, held, present, loaded⟩ := load_package found
    refine ⟨content, fields, field, there, read, held, present, loaded, ?_, ?_⟩
    · rw [loadOrDefault_of_find found, loaded]
    · intro error failed
      exact Options.error_of_ofValue (loaded ▸ failed)

/-- A package file whose field holds no options is found, and its options are what is refused. A
settings file beside it hides it, even one that is a folder and cannot be read. -/
theorem load_of_find_package :
    let folder : Folder := fun name =>
      if name = "package.json" then some (.text "\x7b\"webpSwap\": 7\x7d") else none
    let hidden : Folder := fun name => if name = "webp-swap.toml" then some .folder else folder name
    let settings : Folder := fun name => if name = "webp-swap.toml" then some .folder else none
    find folder = some .package ∧
      (∃ fault, load folder = .error (.value fault) ∧ loadOrDefault folder = load folder) ∧
      find hidden = some .settings ∧ load hidden = load settings := by
  intro folder hidden settings
  have found : find folder = some .package := by decide +kernel
  obtain ⟨content, fields, field, -, -, -, -, loaded, loaded', refused⟩ :=
    (load_of_find folder).2.2.2 found
  obtain ⟨error, failed⟩ : ∃ error, load folder = .error error := by
    cases result : load folder with
    | error error => exact ⟨error, rfl⟩
    | ok options =>
        have none : (load folder).toOption = none := by decide +kernel
        rw [result] at none
        cases none
  obtain ⟨fault, rfl⟩ := refused error failed
  obtain ⟨same, loadSame, -⟩ := (load_of_find settings).2.2.1 (by decide) hidden (by decide)
  exact ⟨found, ⟨fault, failed, loaded'.trans loaded.symm⟩, same.trans (by decide), loadSame⟩

end Discovery

end ImageFallback
