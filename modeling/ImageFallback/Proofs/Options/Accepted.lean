import ImageFallback.Options.Load
import ImageFallback.Proofs.Options.Schema

/-!
# The maps that describe options

Which maps describe options, what options they describe, and which fault the others have
(`ofValue_map_iff`). An option is a list of texts, a text or the shapes, and the shapes are given by
the same rule over their three switches, or by a list of up to three truth values.

Each reader of a single value is put into words first: with what it succeeds and when, and with
which fault it fails. They make up two schemas, one of the switches and one of the options.
-/

namespace ImageFallback

namespace Decode

/-! ## Values of one type -/

/-- The value is none of the wanted form, and this is its fault. -/
def Mistyped {α : Type} (form : α → Value) (wanted : Wanted) (value : Value) (fault : Fault) :
    Prop :=
  (∀ x, value ≠ form x) ∧ fault = .wrongType [] value wanted

/-- The first item that is none of the wanted form gives the fault. -/
def MistypedItem {α : Type} (form : α → Value) (wanted : Wanted) (items : List Value)
    (fault : Fault) : Prop :=
  ∃ (before : List α) (item : Value) (after : List Value),
    items = before.map form ++ item :: after ∧
      ∃ inner, Mistyped form wanted item inner ∧ fault = inner.under (.item before.length)

/-- Words for the results and the faults of a reader that leave no other case say when each of them
comes about. -/
theorem iff_of_total {α : Type} {result : Except Fault α} {means : α → Prop}
    {refused : Fault → Prop} (ok : ∀ x, means x → result = .ok x)
    (error : ∀ fault, refused fault → result = .error fault)
    (total : (∃ x, means x) ∨ ∃ fault, refused fault) :
    (∀ x, result = .ok x ↔ means x) ∧ ∀ fault, result = .error fault ↔ refused fault := by
  rcases total with ⟨x, meant⟩ | ⟨fault, bad⟩
  · refine ⟨fun y => ⟨fun h => ?_, ok y⟩, fun fault => ⟨fun h => ?_, error fault⟩⟩
    · rw [ok x meant] at h
      exact Except.ok.inj h ▸ meant
    · rw [ok x meant] at h
      cases h
  · refine ⟨fun y => ⟨fun h => ?_, ok y⟩, fun fault' => ⟨fun h => ?_, error fault'⟩⟩
    · rw [error fault bad] at h
      cases h
    · rw [error fault bad] at h
      exact Except.error.inj h ▸ bad

/-- All items are of the wanted form, or there is a first one that is not. -/
theorem forms_or_mistyped {α : Type} (form : α → Value) (items : List Value) :
    (∃ xs : List α, items = xs.map form) ∨
      ∃ (before : List α) (item : Value) (after : List Value),
        items = before.map form ++ item :: after ∧ ∀ x, item ≠ form x := by
  induction items with
  | nil => exact Or.inl ⟨[], rfl⟩
  | cons item rest ih =>
      by_cases first : ∃ x, item = form x
      · obtain ⟨x, rfl⟩ := first
        rcases ih with ⟨xs, rfl⟩ | ⟨before, item, after, rfl, bad⟩
        · exact Or.inl ⟨x :: xs, rfl⟩
        · exact Or.inr ⟨x :: before, item, after, rfl, bad⟩
      · exact Or.inr ⟨[], item, rest, rfl, fun x same => first ⟨x, same⟩⟩

theorem text_eq_ok_iff {value : Value} {s : String} : text value = .ok s ↔ value = .text s := by
  cases value <;> simp [text]

theorem text_eq_error_iff {value : Value} {fault : Fault} :
    text value = .error fault ↔ Mistyped Value.text .text value fault := by
  cases value <;> simp [text, Mistyped, eq_comm]

theorem truth_eq_ok_iff {value : Value} {b : Bool} : truth value = .ok b ↔ value = .bool b := by
  cases value <;> simp [truth]

theorem truth_eq_error_iff {value : Value} {fault : Fault} :
    truth value = .error fault ↔ Mistyped Value.bool .truth value fault := by
  cases value <;> simp [truth, Mistyped, eq_comm]

theorem textsFrom_map (index : Nat) (xs : List String) :
    textsFrom index (xs.map Value.text) = .ok xs := by
  induction xs generalizing index with
  | nil => rfl
  | cons x xs ih =>
      rw [List.map_cons, textsFrom, ih]
      rfl

theorem textsFrom_mistyped (index : Nat) (before : List String) {item : Value} {after : List Value}
    {inner : Fault} (bad : text item = .error inner) :
    textsFrom index (before.map Value.text ++ item :: after) =
      .error (inner.under (.item (index + before.length))) := by
  induction before generalizing index with
  | nil =>
      rw [List.map_nil, List.nil_append, textsFrom, bad]
      rfl
  | cons x xs ih =>
      have place : index + (x :: xs).length = index + 1 + xs.length := by
        rw [List.length_cons, Nat.add_assoc, Nat.add_comm 1]
      rw [place, List.map_cons, List.cons_append, textsFrom, ih]
      rfl

theorem texts_iff (value : Value) :
    (∀ xs, texts value = .ok xs ↔ value = .list (xs.map Value.text)) ∧
      ∀ fault, texts value = .error fault ↔ Mistyped Value.list .sequence value fault ∨
        ∃ items, value = .list items ∧ MistypedItem Value.text .text items fault := by
  refine iff_of_total (fun xs h => ?_) (fun fault h => ?_) ?_
  · rw [h]
    exact textsFrom_map 0 xs
  · rcases h with ⟨other, rfl⟩ | ⟨_, rfl, before, item, after, rfl, inner, bad, rfl⟩
    · cases value with
      | list items => exact absurd rfl (other items)
      | _ => rfl
    · rw [texts, textsFrom_mistyped 0 before (text_eq_error_iff.2 bad), Nat.zero_add]
  · cases value with
    | list items =>
        rcases forms_or_mistyped Value.text items with ⟨xs, rfl⟩ | ⟨before, item, after, rfl, bad⟩
        · exact Or.inl ⟨xs, rfl⟩
        · exact Or.inr ⟨_, Or.inr ⟨_, rfl, before, item, after, rfl, _, ⟨bad, rfl⟩, rfl⟩⟩
    | _ => exact Or.inr ⟨_, Or.inl ⟨fun _ => Value.noConfusion, rfl⟩⟩

/-! ## The shapes -/

/-- The value is a map of switches or a list of up to three truth values. -/
def FitsShapes (value : Value) : Prop :=
  (∃ entries, value = .map entries ∧ SpelledOnce Switch.spellings entries ∧
      Fitting Switch.spellings (fun _ value => ∃ b, value = .bool b) entries) ∨
    ∃ bools : List Bool, value = .list (bools.map Value.bool) ∧ bools.length ≤ 3

/-- The shapes that a value means: in a map those that its switches say, in a list those that its
items say in the order of declaration, and else those that are on by default. -/
def MeansShapes (value : Value) (shapes : Shapes) : Prop :=
  (∃ entries, value = .map entries ∧ SpelledOnce Switch.spellings entries ∧
      Holds Switch.spellings (fun _ value b => value = .bool b) (Shapes.get · {})
        (Shapes.get · shapes) entries) ∨
    ∃ bools : List Bool, value = .list (bools.map Value.bool) ∧ bools.length ≤ 3 ∧
      shapes = ⟨bools.getD 0 true, bools.getD 1 true, bools.getD 2 true⟩

/-- Why a value means no shapes: a map for its first offence, a list for the first of its first
three items that is no truth value, or else for its length. -/
def RefusesShapes (value : Value) (fault : Fault) : Prop :=
  (∃ entries, value = .map entries ∧
      FirstOffence Switch.spellings Switch.canonical (fun _ => Mistyped Value.bool .truth) entries
        fault) ∨
    (∃ items, value = .list items ∧
      (MistypedItem Value.bool .truth (items.take 3) fault ∨
        (∃ bools : List Bool, items.take 3 = bools.map Value.bool) ∧ 3 < items.length ∧
          fault = .tooLong items.length)) ∨
    (∀ entries, value ≠ .map entries) ∧ (∀ items, value ≠ .list items) ∧
      fault = .wrongType [] value .shapes

theorem switch_named_iff {key : String} {switch : Switch} :
    Switch.ofKey? key = some switch ↔ key ∈ switch.spellings := by
  constructor
  · intro names
    simpa using List.find?_some names
  · intro spells
    cases switch <;>
      simp only [Switch.spellings, List.mem_cons, List.not_mem_nil, or_false] at spells <;>
      rcases spells with rfl | rfl <;> rfl

theorem shapes_ext {shapes other : Shapes}
    (same : ∀ switch, Shapes.get switch shapes = Shapes.get switch other) : shapes = other := by
  cases shapes
  cases other
  exact (Shapes.mk.injEq ..).mpr ⟨same .string, same .template, same .conditional⟩

/-- The switches, each a truth value. -/
def shapesSchema : Schema shapesRecord Switch.ofKey? where
  spellings := Switch.spellings
  means _ value b := value = .bool b
  refused _ := Mistyped Value.bool .truth
  named_iff := switch_named_iff
  read_eq_ok_iff _ := truth_eq_ok_iff
  read_eq_error_iff _ := truth_eq_error_iff
  ext := shapes_ext

theorem positions_bools {items : List Value} {bools : List Bool}
    (first : items.take 3 = bools.map Value.bool) :
    positions storeSwitch 0 Switch.all {} items =
      .ok ⟨bools.getD 0 true, bools.getD 1 true, bools.getD 2 true⟩ := by
  rcases items with _ | ⟨a, _ | ⟨b, _ | ⟨c, rest⟩⟩⟩ <;>
    rcases bools with _ | ⟨x, _ | ⟨y, _ | ⟨z, _ | _⟩⟩⟩ <;>
    simp at first
  · rfl
  · cases first
    rfl
  · obtain ⟨rfl, rfl⟩ := first
    rfl
  · obtain ⟨rfl, rfl, rfl⟩ := first
    rfl

theorem positions_mistyped (index : Nat) (switches : List Switch) (shapes : Shapes)
    (before : List Bool) {item : Value} {after : List Value} {inner : Fault}
    (bad : truth item = .error inner) (short : before.length < switches.length) :
    positions storeSwitch index switches shapes (before.map Value.bool ++ item :: after) =
      .error (inner.under (.item (index + before.length))) := by
  induction before generalizing index switches shapes with
  | nil =>
      cases switches with
      | nil => cases short
      | cons switch others =>
          rw [List.map_nil, List.nil_append, positions, storeSwitch, bad]
          rfl
  | cons b before ih =>
      cases switches with
      | nil => cases short
      | cons switch others =>
          have place : index + (b :: before).length = index + 1 + before.length := by
            rw [List.length_cons, Nat.add_assoc, Nat.add_comm 1]
          rw [place, ← ih (index + 1) others _ (Nat.lt_of_succ_lt_succ short)]
          rfl

theorem shapes_list_bools {items : List Value} {bools : List Bool}
    (first : items.take 3 = bools.map Value.bool) :
    shapes .refused (.list items) =
      if 3 < items.length then .error (.tooLong items.length)
      else .ok ⟨bools.getD 0 true, bools.getD 1 true, bools.getD 2 true⟩ := by
  rw [shapes, record, positions_bools first]
  simp [bind, Except.bind, Switch.all, pure, Except.pure]

theorem shapes_list_mistyped {items : List Value} {fault : Fault}
    (bad : MistypedItem Value.bool .truth (items.take 3) fault) :
    shapes .refused (.list items) = .error fault := by
  obtain ⟨before, item, after, first, inner, mistyped, rfl⟩ := bad
  have whole : items = before.map Value.bool ++ item :: (after ++ items.drop 3) := by
    rw [← List.cons_append, ← List.append_assoc, ← first, List.take_append_drop]
  have short : before.length < Switch.all.length := by
    have length := congrArg List.length first
    simp only [List.length_take, List.length_append, List.length_map, List.length_cons] at length
    simp only [Switch.all, List.length_cons, List.length_nil]
    omega
  rw [shapes, record, whole, positions_mistyped 0 _ _ _ (truth_eq_error_iff.2 mistyped) short,
    Nat.zero_add]
  rfl

theorem shapes_list_iff (items : List Value) :
    (∀ found, shapes .refused (.list items) = .ok found ↔
      ∃ bools : List Bool, items = bools.map Value.bool ∧ bools.length ≤ 3 ∧
        found = ⟨bools.getD 0 true, bools.getD 1 true, bools.getD 2 true⟩) ∧
    ∀ fault, shapes .refused (.list items) = .error fault ↔
      MistypedItem Value.bool .truth (items.take 3) fault ∨
        (∃ bools : List Bool, items.take 3 = bools.map Value.bool) ∧ 3 < items.length ∧
          fault = .tooLong items.length := by
  refine iff_of_total (fun found h => ?_) (fun fault h => ?_) ?_
  · obtain ⟨bools, rfl, short, rfl⟩ := h
    have short' : ¬3 < (bools.map Value.bool).length := by simpa using short
    rw [shapes_list_bools (List.take_of_length_le (Nat.not_lt.1 short')), if_neg short']
  · rcases h with bad | ⟨⟨bools, first⟩, long, rfl⟩
    · exact shapes_list_mistyped bad
    · rw [shapes_list_bools first, if_pos long]
  · rcases forms_or_mistyped Value.bool (items.take 3) with
      ⟨bools, first⟩ | ⟨before, item, after, first, bad⟩
    · by_cases long : 3 < items.length
      · exact Or.inr ⟨_, Or.inr ⟨⟨bools, first⟩, long, rfl⟩⟩
      · rw [List.take_of_length_le (Nat.not_lt.1 long)] at first
        exact Or.inl ⟨_, bools, first, by simpa [first] using long, rfl⟩
    · exact Or.inr ⟨_, Or.inl ⟨before, item, after, first, _, ⟨bad, rfl⟩, rfl⟩⟩

theorem shapes_eq_ok_iff {value : Value} (ordered : value.Ordered) {found : Shapes} :
    shapes .refused value = .ok found ↔ MeansShapes value found := by
  cases value with
  | map entries =>
      rw [shapes, record, shapesSchema.fields_eq_ok_iff ordered]
      simp [MeansShapes, shapesSchema, shapesRecord]
  | list items =>
      rw [(shapes_list_iff items).1]
      simp [MeansShapes]
  | _ => simp [shapes, record, MeansShapes]

theorem shapes_eq_error_iff {value : Value} (ordered : value.Ordered) {fault : Fault} :
    shapes .refused value = .error fault ↔ RefusesShapes value fault := by
  cases value with
  | map entries =>
      rw [shapes, record, shapesSchema.fields_eq_error_iff ordered]
      simp [RefusesShapes, shapesSchema]
  | list items =>
      rw [(shapes_list_iff items).2]
      simp [RefusesShapes]
  | _ => simp [shapes, record, RefusesShapes, eq_comm]

/-- A value that fits the shapes is one that means some. -/
theorem fitsShapes_iff {value : Value} (ordered : value.Ordered) :
    FitsShapes value ↔ ∃ found, MeansShapes value found := by
  constructor
  · rintro (⟨entries, rfl, accepted⟩ | ⟨bools, rfl, short⟩)
    · have read : ∃ found,
          fields Switch.ofKey? Switch.canonical storeSwitch [] {} entries = .ok found :=
        (shapesSchema.exists_fields_eq_ok_iff ordered).2 accepted
      obtain ⟨found, read⟩ := read
      exact ⟨found, Or.inl ⟨entries, rfl, (shapesSchema.fields_eq_ok_iff ordered).1 read⟩⟩
    · exact ⟨_, Or.inr ⟨bools, rfl, short, rfl⟩⟩
  · rintro ⟨found, ⟨entries, rfl, once, holds⟩ | ⟨bools, rfl, short, -⟩⟩
    · exact Or.inl ⟨entries, rfl, once, fun switch key spells value mem =>
        ⟨_, (holds switch).1 key spells value mem⟩⟩
    · exact Or.inr ⟨bools, rfl, short⟩

end Decode

/-! ## The options -/

open Decode

namespace Field

/-- The value is of the type of the option: a list of texts, a text, or shapes. -/
def Fits : Field → Value → Prop
  | .extensions, value => ∃ xs : List String, value = .list (xs.map Value.text)
  | .shapes, value => FitsShapes value
  | .target, value | .ignoreMarker, value | .inlineMarker, value | .loader, value
  | .predicate, value => ∃ s, value = .text s

/-- What a value of an option means. -/
def Means : (field : Field) → Value → field.Carrier → Prop
  | .extensions, value, (xs : List String) => value = .list (xs.map Value.text)
  | .shapes, value, found => MeansShapes value found
  | .target, value, s | .ignoreMarker, value, s | .inlineMarker, value, s | .loader, value, s
  | .predicate, value, s => value = .text s

/-- Why a value of an option means nothing. -/
def Refuses : Field → Value → Fault → Prop
  | .extensions, value, fault =>
    Mistyped Value.list .sequence value fault ∨
      ∃ items, value = .list items ∧ MistypedItem Value.text .text items fault
  | .shapes, value, fault => RefusesShapes value fault
  | .target, value, fault | .ignoreMarker, value, fault | .inlineMarker, value, fault
  | .loader, value, fault | .predicate, value, fault => Mistyped Value.text .text value fault

theorem fits_iff {field : Field} {value : Value} (ordered : value.Ordered) :
    field.Fits value ↔ ∃ found, field.Means value found := by
  cases field with
  | shapes => exact fitsShapes_iff ordered
  | _ => exact Iff.rfl

theorem named_iff {key : String} {field : Field} :
    ofKey? key = some field ↔ key ∈ field.spellings := by
  constructor
  · intro names
    simpa using List.find?_some names
  · intro spells
    cases field <;> simp only [spellings, List.mem_cons, List.not_mem_nil, or_false] at spells
    case extensions | ignoreMarker | shapes => rcases spells with rfl | rfl | rfl <;> rfl
    case target | inlineMarker | predicate => rcases spells with rfl | rfl <;> rfl
    case loader => cases spells; rfl

end Field

namespace Options

theorem ext_get {options other : Options}
    (same : ∀ field, Options.get field options = Options.get field other) : options = other := by
  cases options
  cases other
  exact (Options.mk.injEq ..).mpr ⟨same .extensions, same .target, same .ignoreMarker,
    same .inlineMarker, same .shapes, same .loader, same .predicate⟩

end Options

/-- The options, each with the words for its type. -/
def Decode.optionsSchema : Schema (optionsRecord .refused) Field.ofKey? where
  spellings := Field.spellings
  means := Field.Means
  refused := Field.Refuses
  named_iff := Field.named_iff
  read_eq_ok_iff {field _} ordered _ := by
    cases field with
    | extensions => exact (texts_iff _).1 _
    | shapes => exact shapes_eq_ok_iff ordered
    | _ => exact text_eq_ok_iff
  read_eq_error_iff {field _} ordered _ := by
    cases field with
    | extensions => exact (texts_iff _).2 _
    | shapes => exact shapes_eq_error_iff ordered
    | _ => exact text_eq_error_iff
  ext := Options.ext_get

namespace Options

theorem ofValue_map (entries : List (String × Value)) :
    ofValue (.map entries) =
      (fields Field.ofKey? Field.canonical (storeField .refused) [] {} entries).mapError .value :=
  rfl

theorem ofValue_map_eq_ok_iff {entries : List (String × Value)} {options : Options} :
    ofValue (.map entries) = .ok options ↔
      fields Field.ofKey? Field.canonical (storeField .refused) [] {} entries = .ok options := by
  rw [ofValue_map]
  cases fields Field.ofKey? Field.canonical (storeField .refused) [] {} entries <;>
    simp [Except.mapError]

theorem ofValue_map_eq_error_iff {entries : List (String × Value)} {error : OptionsError} :
    ofValue (.map entries) = .error error ↔ ∃ fault, error = .value fault ∧
      fields Field.ofKey? Field.canonical (storeField .refused) [] {} entries = .error fault := by
  rw [ofValue_map]
  cases fields Field.ofKey? Field.canonical (storeField .refused) [] {} entries <;>
    simp [Except.mapError, eq_comm]

/-- A map describes options exactly when no option occurs under two of its spellings and every key
that spells an option has a value of its type. They are the options in which each that occurs has
the value that it is given, and each other one its default. A map that describes none is refused for
the first key that offends. Keys that spell no option have no influence. -/
theorem ofValue_map_iff (entries : List (String × Value)) (ordered : (Value.map entries).Ordered) :
    ((∃ options, ofValue (.map entries) = .ok options) ↔
      SpelledOnce Field.spellings entries ∧ Fitting Field.spellings Field.Fits entries) ∧
    (∀ options, ofValue (.map entries) = .ok options ↔
      SpelledOnce Field.spellings entries ∧
        Holds Field.spellings Field.Means (get · {}) (get · options) entries) ∧
    (∀ error, ofValue (.map entries) = .error error ↔
      ∃ fault, error = .value fault ∧
        FirstOffence Field.spellings Field.canonical Field.Refuses entries fault) ∧
    ofValue (.map entries) =
      ofValue (.map (entries.filter fun entry =>
        Field.all.any fun field => field.spellings.contains entry.1)) := by
  refine ⟨?_, fun options => ?_, fun error => ?_, ?_⟩
  · simp only [ofValue_map_eq_ok_iff]
    rw [optionsSchema.exists_fields_eq_ok_iff ordered]
    refine and_congr_right fun _ => ⟨?_, ?_⟩
    · exact fun fitting field key spells value mem =>
        (Field.fits_iff (ordered.each _ mem)).2 (fitting field key spells value mem)
    · exact fun fitting field key spells value mem =>
        (Field.fits_iff (ordered.each _ mem)).1 (fitting field key spells value mem)
  · rw [ofValue_map_eq_ok_iff, optionsSchema.fields_eq_ok_iff ordered]
    rfl
  · rw [ofValue_map_eq_error_iff]
    exact exists_congr fun _ => and_congr_right fun _ => optionsSchema.fields_eq_error_iff ordered
  · have known (entry : String × Value) :
        (Field.all.any fun field => field.spellings.contains entry.1) =
          (Field.ofKey? entry.1).isSome := by
      rw [Field.ofKey?, List.isSome_find?]
    simp only [known]
    rw [ofValue_map, ofValue_map, fields_filter]

/-- A map with some of the switches and a key that spells no option, and a map with two spellings of
one option, of which the second has a value of the wrong type, before another such value. -/
theorem ofValue_map_spelled_twice :
    let good : List (String × Value) :=
      [("childNodeType", .map [("string_literal", .bool false)]), ("loaders", .null)]
    let bad : List (String × Value) :=
      [("ignoreComment", .text "a"), ("ignore_marker", .natural 1), ("loader", .null)]
    (Value.map good).Ordered ∧ (Value.map bad).Ordered ∧
      ofValue (.map good) = .ok { shapes := { string := false } } ∧
      Fitting Field.spellings Field.Fits good ∧
      ofValue (.map bad) = .error (.value (.duplicate [] "ignore_marker")) ∧
      FirstOffence Field.spellings Field.canonical Field.Refuses bad
        (.duplicate [] "ignore_marker") := by
  intro good bad
  have orderedGood : (Value.map good).Ordered := by
    have inner : (Value.map [("string_literal", .bool false)]).Ordered :=
      .map (by decide) (List.forall_mem_singleton.2 (.bool false))
    exact .map (by decide) (List.forall_mem_cons.2 ⟨inner, List.forall_mem_singleton.2 .null⟩)
  have orderedBad : (Value.map bad).Ordered := by
    refine .map (by decide) (List.forall_mem_cons.2 ⟨.text "a", List.forall_mem_cons.2 ⟨?_, ?_⟩⟩)
    · exact .natural 1
    · exact List.forall_mem_singleton.2 .null
  have accepted : ofValue (.map good) = .ok { shapes := { string := false } } := rfl
  have refused : ofValue (.map bad) = .error (.value (.duplicate [] "ignore_marker")) := rfl
  obtain ⟨fault, same, first⟩ := ((ofValue_map_iff bad orderedBad).2.2.1 _).1 refused
  cases same
  exact ⟨orderedGood, orderedBad, accepted,
    ((ofValue_map_iff good orderedGood).1.1 ⟨_, accepted⟩).2, refused, first⟩

end Options

end ImageFallback
