import ImageFallback.Options.Decode
import ImageFallback.Proofs.Data.Ordered
import Mathlib.Data.List.Pairwise

/-!
# Records read by name

A record is read field by field from the entries of a map, in which a field may go by several names.
`given` is the value that the entries give a field, and `Once` says that no field goes by two names.
The reader succeeds exactly when the entries are `Once` and every value that is given can be read
(`exists_fields_iff`), and then each field holds what was read for it, or what it held before
(`fields_given`).

Two layers of entries are laid over each other by their keys and not by the fields that the keys
name. The result is `Once` exactly when the layers are `SpelledAlike` (`once_overlayFields_iff`),
and only then what is given above lies over what is given below (`given_overlayFields`).
-/

namespace ImageFallback.Decode

variable {φ σ : Type} [DecidableEq φ] {named : String → Option φ} {canonical : φ → String}
  {store : φ → Value → σ → Except Fault σ}

/-- The value under the first key that names a field. -/
def given (named : String → Option φ) (field : φ) : List (String × Value) → Option Value
  | [] => none
  | (key, value) :: rest => if named key = some field then some value else given named field rest

/-- No field goes by the names of two entries. -/
def Once (named : String → Option φ) (entries : List (String × Value)) : Prop :=
  entries.Pairwise fun entry later => ∀ field, named entry.1 = some field →
    named later.1 ≠ some field

/-- Where two layers name the same field, they use the same key. -/
def SpelledAlike (named : String → Option φ) (lower upper : List (String × Value)) : Prop :=
  ∀ key ∈ lower.map Prod.fst, ∀ other ∈ upper.map Prod.fst,
    (named key).isSome → named key = named other → key = other

instance (lower upper : List (String × Value)) : Decidable (SpelledAlike named lower upper) :=
  inferInstanceAs (Decidable (∀ key ∈ lower.map Prod.fst, ∀ other ∈ upper.map Prod.fst, _ → _ → _))

theorem exists_of_given {field : φ} {value : Value} {entries : List (String × Value)}
    (h : given named field entries = some value) :
    ∃ key, named key = some field ∧ (key, value) ∈ entries := by
  induction entries with
  | nil => cases h
  | cons entry rest ih =>
      obtain ⟨key, first⟩ := entry
      rw [given] at h
      split at h
      · rename_i names
        cases h
        exact ⟨key, names, List.mem_cons_self⟩
      · obtain ⟨other, names, mem⟩ := ih h
        exact ⟨other, names, List.mem_cons_of_mem _ mem⟩

theorem given_of_mem {field : φ} {key : String} {value : Value} {entries : List (String × Value)}
    (once : Once named entries) (names : named key = some field) (mem : (key, value) ∈ entries) :
    given named field entries = some value := by
  induction entries with
  | nil => cases mem
  | cons entry rest ih =>
      obtain ⟨first, other⟩ := entry
      rw [Once, List.pairwise_cons] at once
      rw [given]
      rcases List.mem_cons.1 mem with same | later
      · cases same
        rw [if_pos names]
      · have different : named first ≠ some field := fun h => once.1 _ later field h names
        rw [if_neg different]
        exact ih once.2 later

theorem given_eq_some_iff {field : φ} {value : Value} {entries : List (String × Value)}
    (keys : (entries.map Prod.fst).Pairwise (· < ·)) (once : Once named entries) :
    given named field entries = some value ↔
      ∃ key, named key = some field ∧ Value.field? key entries = some value := by
  simp only [Value.field?_eq_some_iff keys]
  exact ⟨exists_of_given, fun ⟨_, names, mem⟩ => given_of_mem once names mem⟩

/-! ## Reading a record -/

/-- A record whose fields are read and stored one by one, each with values of its own type. -/
structure Record (store : φ → Value → σ → Except Fault σ) where
  Carrier : φ → Type
  get : (field : φ) → σ → Carrier field
  set : (field : φ) → Carrier field → σ → σ
  read : (field : φ) → Value → Except Fault (Carrier field)
  get_set : ∀ field value state, get field (set field value state) = value
  get_set_of_ne : ∀ {field other} value state, other ≠ field →
    get other (set field value state) = get other state
  store_eq : ∀ field value state,
    store field value state = (read field value).map fun found => set field found state

/-- What one entry of a map does: it is passed over, or it stores the value of a new field. -/
theorem fields_cons_eq_ok_iff (record : Record store) {seen : List φ} {state last : σ}
    {key : String} {value : Value} {rest : List (String × Value)} :
    fields named canonical store seen state ((key, value) :: rest) = .ok last ↔
      (named key = none ∧ fields named canonical store seen state rest = .ok last) ∨
      ∃ field found, named key = some field ∧ field ∉ seen ∧ record.read field value = .ok found ∧
        fields named canonical store (field :: seen) (record.set field found state) rest =
          .ok last := by
  rw [fields]
  cases name : named key with
  | none => simp
  | some field =>
      by_cases again : field ∈ seen
      · simp [again]
      · cases read : record.read field value with
        | error fault =>
            simp [again, record.store_eq, read, under, Except.map, Except.mapError, bind,
              Except.bind]
        | ok found =>
            simp [again, record.store_eq, read, under, Except.map, Except.mapError, bind,
              Except.bind]

/-- A reader succeeds exactly when no field is named twice and what is given can be read. -/
theorem exists_fields_iff (record : Record store) {entries : List (String × Value)} {seen : List φ}
    {state : σ} :
    (∃ last, fields named canonical store seen state entries = .ok last) ↔
      Once named entries ∧ (∀ entry ∈ entries, ∀ field ∈ seen, named entry.1 ≠ some field) ∧
        ∀ entry ∈ entries, ∀ field, named entry.1 = some field →
          ∃ found, record.read field entry.2 = .ok found := by
  induction entries generalizing seen state with
  | nil => simp [fields, Once]
  | cons entry rest ih =>
      obtain ⟨key, value⟩ := entry
      simp only [fields_cons_eq_ok_iff record, Once, List.pairwise_cons, List.forall_mem_cons]
      cases name : named key with
      | none => simpa [Once] using ih
      | some field =>
          constructor
          · rintro ⟨last, ⟨none, -⟩ | ⟨_, found, same, new, read, more⟩⟩
            · cases none
            · cases same
              obtain ⟨once, fresh, readable⟩ := ih.1 ⟨last, more⟩
              refine ⟨⟨?_, once⟩, ⟨?_, ?_⟩, ?_, readable⟩
              · rintro later mem _ ⟨⟩
                exact fresh later mem field List.mem_cons_self
              · rintro _ old ⟨⟩
                exact new old
              · exact fun later mem old h => fresh later mem old (List.mem_cons_of_mem _ h)
              · rintro _ ⟨⟩
                exact ⟨found, read⟩
          · rintro ⟨⟨different, once⟩, ⟨new, fresh⟩, readable, others⟩
            obtain ⟨found, read⟩ := readable field rfl
            have more : ∃ last, fields named canonical store (field :: seen)
                (record.set field found state) rest = .ok last := by
              refine ih.2 ⟨once, fun later mem => ?_, others⟩
              exact List.forall_mem_cons.2 ⟨different later mem field rfl, fresh later mem⟩
            obtain ⟨last, more⟩ := more
            exact ⟨last, Or.inr ⟨field, found, rfl, fun old => new field old rfl, read, more⟩⟩

theorem exists_record_iff (record : Record store) {entries : List (String × Value)} {start : σ} :
    (∃ last, fields named canonical store [] start entries = .ok last) ↔
      Once named entries ∧ ∀ field value, given named field entries = some value →
        ∃ found, record.read field value = .ok found := by
  rw [exists_fields_iff record]
  constructor
  · rintro ⟨once, -, readable⟩
    refine ⟨once, fun field value h => ?_⟩
    obtain ⟨key, names, mem⟩ := exists_of_given h
    exact readable _ mem field names
  · rintro ⟨once, readable⟩
    refine ⟨once, by simp, fun entry mem field names => ?_⟩
    exact readable field entry.2 (given_of_mem once names mem)

/-- A record that was read holds, in each field, what the entries give or what it held before. -/
theorem fields_given (record : Record store) {entries : List (String × Value)} {seen : List φ}
    {state last : σ} (h : fields named canonical store seen state entries = .ok last) (field : φ) :
    match given named field entries with
    | some value => record.read field value = .ok (record.get field last)
    | none => record.get field last = record.get field state := by
  induction entries generalizing seen state with
  | nil =>
      cases h
      rfl
  | cons entry rest ih =>
      obtain ⟨key, value⟩ := entry
      rcases (fields_cons_eq_ok_iff record).1 h with ⟨name, more⟩ | ⟨other, found, name, -, read, more⟩
      · simpa [given, name] using ih more
      · have held := ih more
        by_cases same : other = field
        · -- No later entry names the field again, so it keeps what is stored here.
          subst same
          have fresh := ((exists_fields_iff record).1 ⟨last, more⟩).2.1
          have absent : given named other rest = none := by
            by_contra present
            obtain ⟨later, there⟩ := Option.ne_none_iff_exists'.1 present
            obtain ⟨again, names, mem⟩ := exists_of_given there
            exact fresh _ mem other List.mem_cons_self names
          rw [absent, record.get_set] at held
          simpa [given, name, held] using read
        · rw [record.get_set_of_ne found state (Ne.symm same)] at held
          simpa [given, name, same] using held

/-! ## Two layers -/

section Layers

variable {lower upper : List (String × Value)}

omit [DecidableEq φ] in
/-- Entries with distinct keys name no field twice exactly when they are spelled like themselves. -/
theorem once_iff {entries : List (String × Value)}
    (keys : (entries.map Prod.fst).Pairwise (· < ·)) :
    Once named entries ↔ SpelledAlike named entries entries := by
  have symmetric : Std.Symm fun key other : String =>
      ∀ field, named key = some field → named other ≠ some field :=
    ⟨fun _ _ h field names names' => h field names' names⟩
  rw [Once, ← List.pairwise_map (f := Prod.fst) (R := fun key other : String =>
    ∀ field, named key = some field → named other ≠ some field)]
  constructor
  · intro once key mem other mem' known same
    obtain ⟨field, names⟩ := Option.isSome_iff_exists.1 known
    by_contra different
    exact once.forall mem mem' different field names (same ▸ names)
  · intro alike
    refine keys.imp_of_mem fun {key other} mem mem' below field names names' => ?_
    have same : key = other := alike key mem other mem' (names ▸ rfl) (names.trans names'.symm)
    exact absurd same (ne_of_lt below)

variable (below : (Value.map lower).Ordered) (above : (Value.map upper).Ordered)

include below above

omit [DecidableEq φ] in
/-- Two layers can be read together exactly when they spell the fields of both alike. -/
theorem once_overlayFields_iff (onceBelow : Once named lower) (onceAbove : Once named upper) :
    Once named (Value.overlayFields lower upper) ↔ SpelledAlike named lower upper := by
  rw [once_iff below.keys] at onceBelow
  rw [once_iff above.keys] at onceAbove
  rw [once_iff (below.overlayFields above.each).keys]
  simp only [SpelledAlike, Value.mem_keys_overlayFields_iff above.keys]
  constructor
  · intro alike key mem other mem'
    exact alike key (Or.inl mem) other (Or.inr mem')
  · rintro alike key (mem | mem) other (mem' | mem') known same
    · exact onceBelow key mem other mem' known same
    · exact alike key mem other mem' known same
    · exact (alike other mem' key mem (same ▸ known) same.symm).symm
    · exact onceAbove key mem other mem' known same

/-- What is given by two layers that are spelled alike: a value above lies over the one below. -/
theorem given_overlayFields (onceBelow : Once named lower) (onceAbove : Once named upper)
    (alike : SpelledAlike named lower upper) (field : φ) :
    given named field (Value.overlayFields lower upper) =
      match given named field upper with
      | some top => some (Value.laid (given named field lower) top)
      | none => given named field lower := by
  have both := (once_overlayFields_iff below above onceBelow onceAbove).2 alike
  have keys := (below.overlayFields above.each).keys
  have spelled : ∀ key other value top, named key = some field → named other = some field →
      Value.field? key lower = some value → Value.field? other upper = some top → key = other := by
    intro key other value top names names' found found'
    have mem := List.mem_map_of_mem (f := Prod.fst) (Value.mem_of_field? found)
    have mem' := List.mem_map_of_mem (f := Prod.fst) (Value.mem_of_field? found')
    exact alike key mem other mem' (names ▸ rfl) (names.trans names'.symm)
  cases top : given named field upper with
  | some top' =>
      obtain ⟨key, names, found⟩ := (given_eq_some_iff above.keys onceAbove).1 top
      have under : Value.field? key lower = given named field lower := by
        ext value
        rw [given_eq_some_iff below.keys onceBelow]
        refine ⟨fun h => ⟨key, names, h⟩, ?_⟩
        rintro ⟨other, names', h⟩
        rwa [← spelled other key value top' names' names h found]
      have merged := Value.field?_overlayFields key lower above.keys
      rw [found, under] at merged
      exact (given_eq_some_iff keys both).2 ⟨key, names, merged⟩
  | none =>
      ext value
      rw [given_eq_some_iff keys both, given_eq_some_iff below.keys onceBelow]
      refine exists_congr fun key => and_congr_right fun names => ?_
      have absent : Value.field? key upper = none := by
        by_contra there
        obtain ⟨top', found⟩ := Option.ne_none_iff_exists'.1 there
        have present := (given_eq_some_iff above.keys onceAbove).2 ⟨key, names, found⟩
        rw [top] at present
        cases present
      rw [Value.field?_overlayFields key lower above.keys, absent]

variable (record : Record store) {start low high last : σ}
  (fromLower : fields named canonical store [] start lower = .ok low)
  (fromUpper : fields named canonical store [] start upper = .ok high)

include fromLower fromUpper

/-- Two layers that can be read each on its own can be read together exactly when they are spelled
alike and each value above can be read where it lies over one below. -/
theorem exists_fields_overlay_iff :
    (∃ last, fields named canonical store [] start (Value.overlayFields lower upper) = .ok last) ↔
      SpelledAlike named lower upper ∧ ∀ field bottom top, given named field lower = some bottom →
        given named field upper = some top →
          ∃ found, record.read field (bottom.overlay top) = .ok found := by
  obtain ⟨onceBelow, readBelow⟩ := (exists_record_iff record).1 ⟨low, fromLower⟩
  obtain ⟨onceAbove, readAbove⟩ := (exists_record_iff record).1 ⟨high, fromUpper⟩
  rw [exists_record_iff record, once_overlayFields_iff below above onceBelow onceAbove]
  refine and_congr_right fun alike => forall_congr' fun field => ?_
  rw [given_overlayFields below above onceBelow onceAbove alike field]
  cases top : given named field upper with
  | none => simpa using readBelow field
  | some newer =>
      have alone := readAbove field newer top
      cases given named field lower with
      | none => simpa [Value.laid] using alone
      | some older => simp [Value.laid]

/-- What a record holds that was read from two layers together. -/
theorem fields_overlay
    (h : fields named canonical store [] start (Value.overlayFields lower upper) = .ok last)
    (field : φ) :
    match given named field lower, given named field upper with
    | _, none => record.get field last = record.get field low
    | none, some _ => record.get field last = record.get field high
    | some bottom, some top =>
      record.read field (bottom.overlay top) = .ok (record.get field last) := by
  obtain ⟨onceBelow, -⟩ := (exists_record_iff record).1 ⟨low, fromLower⟩
  obtain ⟨onceAbove, -⟩ := (exists_record_iff record).1 ⟨high, fromUpper⟩
  have alike := ((exists_fields_overlay_iff below above record fromLower fromUpper).1 ⟨last, h⟩).1
  have held := fields_given record h field
  have heldBelow := fields_given record fromLower field
  have heldAbove := fields_given record fromUpper field
  rw [given_overlayFields below above onceBelow onceAbove alike field] at held
  cases top : given named field upper with
  | none =>
      cases bottom : given named field lower with
      | none =>
          simp only [top, bottom] at held heldBelow ⊢
          rw [held, heldBelow]
      | some older =>
          simp only [top, bottom] at held heldBelow ⊢
          exact Except.ok.inj (held.symm.trans heldBelow)
  | some newer =>
      cases bottom : given named field lower with
      | none =>
          simp only [top, bottom, Value.laid] at held heldAbove ⊢
          exact Except.ok.inj (held.symm.trans heldAbove)
      | some older =>
          simp only [top, bottom, Value.laid] at held ⊢
          exact held

/-- A field that no map is read for comes from above where it is given there, else from below. -/
theorem get_overlay {field : φ}
    (flat : ∀ {bottom top : Value} {found}, record.read field top = .ok found →
      bottom.overlay top = top)
    (h : fields named canonical store [] start (Value.overlayFields lower upper) = .ok last) :
    record.get field last =
      if (given named field upper).isSome then record.get field high
      else record.get field low := by
  have held := fields_overlay below above record fromLower fromUpper h field
  have heldAbove := fields_given record fromUpper field
  cases top : given named field upper with
  | none =>
      rw [top] at held
      cases bottom : given named field lower with
      | none | some _ => simpa [bottom] using held
  | some newer =>
      rw [top] at held heldAbove
      cases bottom : given named field lower with
      | none => simpa [bottom] using held
      | some older =>
          simp only [bottom] at held
          rw [flat heldAbove, heldAbove] at held
          simpa using (Except.ok.inj held).symm

end Layers

end ImageFallback.Decode

/-! ## The records of options -/

namespace ImageFallback

/-- The switch of a shape. -/
def Shapes.get : Switch → Shapes → Bool
  | .string, shapes => shapes.string
  | .template, shapes => shapes.template
  | .conditional, shapes => shapes.conditional

/-- The type of the values of an option. -/
def Field.Carrier : Field → Type
  | .extensions => List String
  | .shapes => Shapes
  | .target | .ignoreMarker | .inlineMarker | .loader | .predicate => String

/-- The value of an option. -/
def Options.get : (field : Field) → Options → field.Carrier
  | .extensions, options => options.extensions
  | .target, options => options.target
  | .ignoreMarker, options => options.ignoreMarker
  | .inlineMarker, options => options.inlineMarker
  | .shapes, options => options.shapes
  | .loader, options => options.loader
  | .predicate, options => options.predicate

namespace Decode

/-- The shapes as a record of truth values. -/
def shapesRecord : Record storeSwitch where
  Carrier _ := Bool
  get := Shapes.get
  set switch b shapes :=
    match switch with
    | .string => { shapes with string := b }
    | .template => { shapes with template := b }
    | .conditional => { shapes with conditional := b }
  read _ := truth
  get_set switch _ _ := by cases switch <;> rfl
  get_set_of_ne {switch other} _ _ h := by
    cases switch <;> cases other <;> first | rfl | exact absurd rfl h
  store_eq switch value _ := by
    unfold storeSwitch
    cases truth value <;> rfl

/-- The options as a record, each with the reader of its type. -/
def optionsRecord (excess : Excess) : Record (storeField excess) where
  Carrier := Field.Carrier
  get := Options.get
  set
    | .extensions, v, options => { options with extensions := v }
    | .target, v, options => { options with target := v }
    | .ignoreMarker, v, options => { options with ignoreMarker := v }
    | .inlineMarker, v, options => { options with inlineMarker := v }
    | .shapes, v, options => { options with shapes := v }
    | .loader, v, options => { options with loader := v }
    | .predicate, v, options => { options with predicate := v }
  read
    | .extensions => texts
    | .shapes => shapes excess
    | .target | .ignoreMarker | .inlineMarker | .loader | .predicate => text
  get_set field _ _ := by cases field <;> rfl
  get_set_of_ne {field other} _ _ h := by
    cases field <;> cases other <;> first | rfl | exact absurd rfl h
  store_eq field _ _ := by cases field <;> rfl

theorem overlay_of_read_switch {bottom top : Value} {b : Bool} (h : truth top = .ok b) :
    bottom.overlay top = top := by
  apply Value.overlay_of_not_map
  rintro fields rfl
  cases h

/-- Only the shapes are read from a map. -/
theorem overlay_of_read_field {excess : Excess} {field : Field} (other : field ≠ .shapes)
    {bottom top : Value} {found : field.Carrier}
    (h : (optionsRecord excess).read field top = .ok found) : bottom.overlay top = top := by
  apply Value.overlay_of_not_map
  rintro fields rfl
  cases field with
  | shapes => exact other rfl
  | extensions | target | ignoreMarker | inlineMarker | loader | predicate => cases h

end Decode

end ImageFallback
