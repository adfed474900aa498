import ImageFallback.Proofs.Options.Accepted

/-!
# Options written and read back

`Options.encode` writes every option under its canonical name, and no other key. What it writes is
read back as the options that were written, whatever their texts are (`ofValue_encode`). So what it
writes is a canonical form of all values that describe the same options: it does not depend on how
they are spelled, and it is its own canonical form.

Reading back is an instance of a fact about records: a map with each field once, under its canonical
name and with a value that means what the record holds, is read as that record
(`Schema.fields_written`). The shapes are such a record inside the options.
-/

namespace ImageFallback

namespace Decode

variable {φ σ : Type} [DecidableEq φ] {named : String → Option φ} {canonical : φ → String}
  {store : φ → Value → σ → Except Fault σ} {record : Record store}

omit [DecidableEq φ] in
theorem ordered_written {order : List φ} {write : φ → Value}
    (keys : (order.map canonical).Pairwise (· < ·)) (each : ∀ field, (write field).Ordered) :
    (Value.map (order.map fun field => (canonical field, write field))).Ordered := by
  refine .map ?_ fun entry mem => ?_
  · rw [List.map_map]
    exact keys
  · obtain ⟨field, -, rfl⟩ := List.mem_map.1 mem
    exact each field

/-- A map that gives each field what the record holds, under its canonical name, is read as that
record. -/
theorem Schema.fields_written (schema : Schema record named)
    (spelled : ∀ field, canonical field ∈ schema.spellings field) {order : List φ}
    (all : ∀ field, field ∈ order) {write : φ → Value} {state : σ}
    (ordered : (Value.map (order.map fun field => (canonical field, write field))).Ordered)
    (meant : ∀ field, schema.means field (write field) (record.get field state)) (start : σ) :
    fields named canonical store [] start
      (order.map fun field => (canonical field, write field)) = .ok state := by
  -- A spelling that is written is the canonical one.
  have only : ∀ field, ∀ key ∈ schema.spellings field, ∀ other, key = canonical other →
      other = field := by
    rintro field _ spells other rfl
    have names := schema.named_iff.2 (spelled other)
    exact Option.some.inj (names.symm.trans (schema.named_iff.2 spells))
  refine (schema.fields_eq_ok_iff ordered).2 ⟨?_, fun field => ⟨?_, fun absent => ?_⟩⟩
  · intro field key spells other spells' mem mem'
    simp only [List.map_map, List.mem_map, Function.comp_apply] at mem mem'
    obtain ⟨first, -, rfl⟩ := mem
    obtain ⟨second, -, rfl⟩ := mem'
    rw [only field _ spells first rfl, only field _ spells' second rfl]
  · intro key spells value mem
    obtain ⟨other, -, same⟩ := List.mem_map.1 mem
    cases same
    cases only field _ spells other rfl
    exact meant _
  · refine absurd ?_ (absent _ (spelled field))
    simp only [List.map_map, List.mem_map, Function.comp_apply]
    exact ⟨field, all field, rfl⟩

end Decode

open Decode

namespace Switch

/-- The switches in the order of their canonical names. -/
def sorted : List Switch := [.conditional, .string, .template]

end Switch

namespace Field

/-- The options in the order of their canonical names. -/
def sorted : List Field :=
  [.ignoreMarker, .inlineMarker, .loader, .extensions, .shapes, .predicate, .target]

end Field

namespace Options

/-- The value under which an option is written. -/
def written (options : Options) : Field → Value
  | .extensions => .list (options.extensions.map Value.text)
  | .target => .text options.target
  | .ignoreMarker => .text options.ignoreMarker
  | .inlineMarker => .text options.inlineMarker
  | .shapes => encodeShapes options.shapes
  | .loader => .text options.loader
  | .predicate => .text options.predicate

theorem encodeShapes_eq (shapes : Shapes) :
    encodeShapes shapes = .map (Switch.sorted.map fun switch =>
      (switch.canonical, .bool (Shapes.get switch shapes))) := rfl

theorem encode_eq (options : Options) :
    encode options =
      .map (Field.sorted.map fun field => (field.canonical, options.written field)) := rfl

theorem ordered_encodeShapes (shapes : Shapes) : (encodeShapes shapes).Ordered := by
  rw [encodeShapes_eq]
  exact ordered_written (by decide) fun switch => .bool (Shapes.get switch shapes)

theorem meansShapes_encodeShapes (shapes : Shapes) : MeansShapes (encodeShapes shapes) shapes := by
  have ordered := ordered_encodeShapes shapes
  rw [← shapes_eq_ok_iff ordered]
  rw [encodeShapes_eq] at ordered ⊢
  refine shapesSchema.fields_written (fun switch => ?_) (fun switch => ?_) ordered
    (fun switch => rfl) {}
  · cases switch <;> exact List.mem_cons_self
  · cases switch <;> decide

theorem ordered_encode (options : Options) : (encode options).Ordered := by
  rw [encode_eq]
  refine ordered_written (by decide) fun field => ?_
  cases field with
  | extensions =>
      refine .list fun item mem => ?_
      obtain ⟨s, -, rfl⟩ := List.mem_map.1 mem
      exact .text s
  | shapes => exact ordered_encodeShapes options.shapes
  | _ => exact .text _

/-- What is written is read back. -/
theorem ofValue_encode (options : Options) : ofValue (encode options) = .ok options := by
  have ordered := ordered_encode options
  rw [encode_eq] at ordered ⊢
  rw [ofValue_map_eq_ok_iff]
  refine optionsSchema.fields_written (fun field => ?_) (fun field => ?_) ordered
    (fun field => ?_) {}
  · cases field <;> exact List.mem_cons_self
  · cases field <;> decide
  · cases field with
    | shapes => exact meansShapes_encodeShapes options.shapes
    | _ => rfl

/-- The canonical form of a value: the options that it describes, as they are written. -/
def canonicalForm (value : Value) : Except OptionsError Value := (ofValue value).map encode

theorem canonicalForm_eq_ok_iff {value form : Value} :
    canonicalForm value = .ok form ↔
      ∃ options, ofValue value = .ok options ∧ encode options = form := by
  rw [canonicalForm]
  cases ofValue value <;> simp [Except.map]

theorem canonicalForm_encode (options : Options) :
    canonicalForm (encode options) = .ok (encode options) :=
  canonicalForm_eq_ok_iff.2 ⟨options, ofValue_encode options, rfl⟩

theorem encode_inj {options other : Options} (same : encode options = encode other) :
    options = other := by
  have read := ofValue_encode options
  rw [same, ofValue_encode] at read
  exact (Except.ok.inj read).symm

/-- Options of any texts, extensions and switches are written as a map of their canonical names, and
are read back from it. The canonical form of a value that describes options, however it is spelled,
is its own canonical form, and two values have the same one exactly when they describe the same
options. The values that are their own canonical form are those that are written. -/
theorem canonicalForm_of_options :
    (∀ options, ofValue (encode options) = .ok options ∧
      ∃ entries, encode options = .map entries ∧ (encode options).Ordered ∧
        (entries.map Prod.fst).Perm (Field.all.map Field.canonical)) ∧
    (∀ value options, ofValue value = .ok options →
      canonicalForm value = .ok (encode options) ∧
        canonicalForm (encode options) = .ok (encode options)) ∧
    (∀ value other form form', canonicalForm value = .ok form → canonicalForm other = .ok form' →
      (form = form' ↔ ofValue value = ofValue other)) ∧
    ∀ value, canonicalForm value = .ok value ↔ ∃ options, value = encode options := by
  have sorted : Field.sorted.Perm Field.all := by decide
  refine ⟨fun options => ⟨ofValue_encode options, _, encode_eq options, ordered_encode options, ?_⟩,
    fun value options read => ⟨?_, canonicalForm_encode options⟩, ?_, fun value => ⟨?_, ?_⟩⟩
  · rw [List.map_map]
    exact sorted.map Field.canonical
  · exact canonicalForm_eq_ok_iff.2 ⟨options, read, rfl⟩
  · intro value other form form' h h'
    obtain ⟨options, read, rfl⟩ := canonicalForm_eq_ok_iff.1 h
    obtain ⟨options', read', rfl⟩ := canonicalForm_eq_ok_iff.1 h'
    rw [read, read', Except.ok.injEq]
    exact ⟨encode_inj, congrArg encode⟩
  · intro fixed
    obtain ⟨options, -, same⟩ := canonicalForm_eq_ok_iff.1 fixed
    exact ⟨options, same.symm⟩
  · rintro ⟨options, rfl⟩
    exact canonicalForm_encode options

/-- One list of extensions by position, and under another name in a map. -/
theorem canonicalForm_of_spellings :
    let listed : Value := .list [.list [.text ".gif"]]
    let named : Value := .map [("supportExt", .list [.text ".gif"])]
    let options : Options := { extensions := [".gif"] }
    ofValue listed = .ok options ∧ ofValue named = .ok options ∧
      canonicalForm listed = .ok (encode options) ∧ canonicalForm named = .ok (encode options) ∧
      canonicalForm (encode options) = .ok (encode options) := by
  intro listed named options
  have readListed : ofValue listed = .ok options := rfl
  have readNamed : ofValue named = .ok options := rfl
  obtain ⟨-, forms, -, -⟩ := canonicalForm_of_options
  exact ⟨readListed, readNamed, (forms listed options readListed).1, forms named options readNamed⟩

end Options

end ImageFallback
