import ImageFallback.Proofs.Options.Record

/-!
# What a reader of records accepts

A reader of records goes through the entries of a map key by key. Here the same is said without an
order of reading: which maps are accepted, what each field holds then, and which offence is reported
otherwise. A key offends if an earlier key spells the same field, and else if its value is refused.
The offence that is reported is the one of the first key that offends (`fields_eq_error_iff`), and a
map without any is accepted (`fields_eq_ok_iff`).

A `Schema` ties these words to a reader: it knows the spellings of the fields, which values mean
what, and which are refused for which fault.
-/

namespace ImageFallback.Decode

/-! ## Spellings, meanings and offences -/

section Words

variable {φ : Type} {Carrier : φ → Type} (spellings : φ → List String)

/-- No field occurs under two of its spellings. -/
def SpelledOnce (entries : List (String × Value)) : Prop :=
  ∀ field, ∀ key ∈ spellings field, ∀ other ∈ spellings field,
    key ∈ entries.map Prod.fst → other ∈ entries.map Prod.fst → key = other

/-- Every key that spells a field has a value of which `fits` holds. -/
def Fitting (fits : φ → Value → Prop) (entries : List (String × Value)) : Prop :=
  ∀ field, ∀ key ∈ spellings field, ∀ value, (key, value) ∈ entries → fits field value

/-- Each field that occurs holds what its value means, and each of the others what it has by
default. -/
def Holds (means : (field : φ) → Value → Carrier field → Prop)
    (default held : (field : φ) → Carrier field) (entries : List (String × Value)) : Prop :=
  ∀ field,
    (∀ key ∈ spellings field, ∀ value, (key, value) ∈ entries → means field value (held field)) ∧
      ((∀ key ∈ spellings field, key ∉ entries.map Prod.fst) → held field = default field)

/-- The key spells a field that an earlier key spells too, or else its value is refused. -/
def Offends (canonical : φ → String) (refused : φ → Value → Fault → Prop)
    (entries : List (String × Value)) (key : String) (fault : Fault) : Prop :=
  ∃ field value, key ∈ spellings field ∧ (key, value) ∈ entries ∧
    ((∃ other ∈ spellings field, other ∈ entries.map Prod.fst ∧ other < key) ∧
        fault = .duplicate [] (canonical field) ∨
      (∀ other ∈ spellings field, other ∈ entries.map Prod.fst → ¬other < key) ∧
        ∃ inner, refused field value inner ∧ fault = inner.under (.key key))

/-- The fault is the one of the first key that offends. -/
def FirstOffence (canonical : φ → String) (refused : φ → Value → Fault → Prop)
    (entries : List (String × Value)) (fault : Fault) : Prop :=
  ∃ key, Offends spellings canonical refused entries key fault ∧
    ∀ other fault', Offends spellings canonical refused entries other fault' → key ≤ other

end Words

variable {φ σ : Type} [DecidableEq φ] {named : String → Option φ} {canonical : φ → String}
  {store : φ → Value → σ → Except Fault σ} {record : Record store}
  {entries : List (String × Value)}

/-- Nothing is given for a field exactly when no key names it. -/
theorem given_eq_none_iff {field : φ} :
    given named field entries = none ↔ ∀ entry ∈ entries, named entry.1 ≠ some field := by
  induction entries with
  | nil => simp [given]
  | cons entry rest ih =>
      obtain ⟨key, value⟩ := entry
      by_cases names : named key = some field
      · simp [given, names]
      · simp [given, names, ih]

/-- The words for what a reader of records does. -/
structure Schema (record : Record store) (named : String → Option φ) where
  spellings : φ → List String
  means : (field : φ) → Value → record.Carrier field → Prop
  refused : φ → Value → Fault → Prop
  named_iff : ∀ {key field}, named key = some field ↔ key ∈ spellings field
  read_eq_ok_iff : ∀ {field value}, value.Ordered → ∀ {found},
    record.read field value = .ok found ↔ means field value found
  read_eq_error_iff : ∀ {field value}, value.Ordered → ∀ {fault},
    record.read field value = .error fault ↔ refused field value fault
  ext : ∀ {state other : σ}, (∀ field, record.get field state = record.get field other) →
    state = other

namespace Schema

variable (schema : Schema record named) (ordered : (Value.map entries).Ordered)

include ordered

omit [DecidableEq φ] in
theorem once_iff_spelledOnce : Once named entries ↔ SpelledOnce schema.spellings entries := by
  rw [once_iff ordered.keys]
  constructor
  · intro alike field key spells other spells' mem mem'
    have names := schema.named_iff.2 spells
    exact alike key mem other mem' (names ▸ rfl) (names.trans (schema.named_iff.2 spells').symm)
  · intro once key mem other mem' known same
    obtain ⟨field, names⟩ := Option.isSome_iff_exists.1 known
    have names' : named other = some field := same ▸ names
    exact once field key (schema.named_iff.1 names) other (schema.named_iff.1 names') mem mem'

/-- A map is accepted exactly when no field occurs under two of its spellings and every value means
something. -/
theorem exists_fields_eq_ok_iff {start : σ} :
    (∃ state, fields named canonical store [] start entries = .ok state) ↔
      SpelledOnce schema.spellings entries ∧
        Fitting schema.spellings (fun field value => ∃ found, schema.means field value found)
          entries := by
  rw [exists_fields_iff record, schema.once_iff_spelledOnce ordered]
  refine and_congr_right fun _ => ?_
  simp only [List.not_mem_nil, false_implies, implies_true, true_and]
  constructor
  · intro readable field key spells value mem
    obtain ⟨found, read⟩ := readable (key, value) mem field (schema.named_iff.2 spells)
    exact ⟨found, (schema.read_eq_ok_iff (ordered.each _ mem)).1 read⟩
  · intro fitting entry mem field names
    obtain ⟨found, meant⟩ := fitting field entry.1 (schema.named_iff.1 names) entry.2 mem
    exact ⟨found, (schema.read_eq_ok_iff (ordered.each _ mem)).2 meant⟩

theorem holds_of_fields_eq_ok {start state : σ}
    (h : fields named canonical store [] start entries = .ok state) :
    Holds schema.spellings schema.means (record.get · start) (record.get · state) entries := by
  intro field
  have held := fields_given record h field
  refine ⟨fun key spells value mem => ?_, fun absent => ?_⟩
  · have once := ((exists_record_iff record).1 ⟨state, h⟩).1
    rw [given_of_mem once (schema.named_iff.2 spells) mem] at held
    exact (schema.read_eq_ok_iff (ordered.each _ mem)).1 held
  · have nothing : given named field entries = none := given_eq_none_iff.2 fun entry mem names =>
      absent entry.1 (schema.named_iff.1 names) (List.mem_map_of_mem mem)
    rw [nothing] at held
    exact held

/-- The record that is read from a map is the one in which each field holds what its value means. -/
theorem fields_eq_ok_iff {start state : σ} :
    fields named canonical store [] start entries = .ok state ↔
      SpelledOnce schema.spellings entries ∧
        Holds schema.spellings schema.means (record.get · start) (record.get · state) entries := by
  constructor
  · intro h
    have accepted := (schema.exists_fields_eq_ok_iff ordered).1 ⟨state, h⟩
    exact ⟨accepted.1, schema.holds_of_fields_eq_ok ordered h⟩
  · rintro ⟨once, holds⟩
    have accepted : ∃ last, fields named canonical store [] start entries = .ok last :=
      (schema.exists_fields_eq_ok_iff ordered).2 ⟨once, fun field key spells value mem =>
        ⟨_, (holds field).1 key spells value mem⟩⟩
    obtain ⟨last, read⟩ := accepted
    have holds' := schema.holds_of_fields_eq_ok ordered read
    suffices same : last = state by rw [read, same]
    refine schema.ext fun field => ?_
    by_cases absent : ∀ key ∈ schema.spellings field, key ∉ entries.map Prod.fst
    · exact ((holds' field).2 absent).trans ((holds field).2 absent).symm
    · obtain ⟨_, spells, mem⟩ : ∃ key ∈ schema.spellings field, key ∈ entries.map Prod.fst := by
        simpa using absent
      obtain ⟨⟨_, value⟩, found, rfl⟩ := List.mem_map.1 mem
      have meant := (schema.read_eq_ok_iff (ordered.each _ found)).2
        ((holds field).1 _ spells value found)
      have meant' := (schema.read_eq_ok_iff (ordered.each _ found)).2
        ((holds' field).1 _ spells value found)
      exact Except.ok.inj (meant'.symm.trans meant)

end Schema

/-! ## Offences -/

/-- What an entry of a new field does: it stores what is read, or it fails where reading fails. -/
theorem fields_cons_new (record : Record store) {seen : List φ} {state : σ} {key : String}
    {value : Value} {field : φ} (name : named key = some field) (new : field ∉ seen) :
    fields named canonical store seen state ((key, value) :: entries) =
      match record.read field value with
      | .error inner => .error (inner.under (.key key))
      | .ok found =>
        fields named canonical store (field :: seen) (record.set field found state) entries := by
  simp only [fields, name, if_neg new, record.store_eq]
  cases record.read field value <;> rfl

/-- The field is one of those seen before, or an entry names it. -/
def Met (named : String → Option φ) (seen : List φ) (entries : List (String × Value)) (field : φ) :
    Prop :=
  field ∈ seen ∨ ∃ entry ∈ entries, named entry.1 = some field

omit [DecidableEq φ] in
theorem met_cons_of_none {seen : List φ} {key : String} {value : Value} {field : φ}
    (name : named key = none) :
    Met named seen ((key, value) :: entries) field ↔ Met named seen entries field := by
  simp [Met, name]

omit [DecidableEq φ] in
theorem met_cons_of_some {seen : List φ} {key : String} {value : Value} {field other : φ}
    (name : named key = some other) :
    Met named seen ((key, value) :: entries) field ↔ Met named (other :: seen) entries field := by
  rw [Met, Met, List.exists_mem_cons_iff, List.mem_cons, or_left_comm, or_assoc, name,
    Option.some.injEq, eq_comm]

/-- A reader that fails does so at an entry before which all entries are read: at the first that
names a field that was met, or else has a value that cannot be read. -/
theorem exists_of_fields_eq_error (record : Record store) {seen : List φ} {state : σ}
    {fault : Fault} (h : fields named canonical store seen state entries = .error fault) :
    ∃ before key value after field, entries = before ++ (key, value) :: after ∧
      (∃ last, fields named canonical store seen state before = .ok last) ∧
      named key = some field ∧
      (Met named seen before field ∧ fault = .duplicate [] (canonical field) ∨
        ¬Met named seen before field ∧
          ∃ inner, record.read field value = .error inner ∧ fault = inner.under (.key key)) := by
  induction entries generalizing seen state with
  | nil => cases h
  | cons entry rest ih =>
      obtain ⟨key, value⟩ := entry
      cases name : named key with
      | none =>
          rw [fields, name] at h
          obtain ⟨before, key', value', after, field, rfl, ⟨last, read⟩, names, offence⟩ := ih h
          refine ⟨(key, value) :: before, key', value', after, field, rfl, ⟨last, ?_⟩, names, ?_⟩
          · rw [fields, name]
            exact read
          · rwa [met_cons_of_none name]
      | some field =>
          by_cases again : field ∈ seen
          · rw [fields, name] at h
            simp only [again, if_true, Except.error.injEq] at h
            exact ⟨[], key, value, rest, field, rfl, ⟨state, rfl⟩, name,
              Or.inl ⟨Or.inl again, h.symm⟩⟩
          · rw [fields_cons_new record name again] at h
            cases read : record.read field value with
            | error inner =>
                simp only [read, Except.error.injEq] at h
                exact ⟨[], key, value, rest, field, rfl, ⟨state, rfl⟩, name,
                  Or.inr ⟨by simpa [Met] using again, inner, read, h.symm⟩⟩
            | ok found =>
                simp only [read] at h
                obtain ⟨before, key', value', after, field', rfl, ⟨last, more⟩, names, offence⟩ :=
                  ih h
                refine ⟨(key, value) :: before, key', value', after, field', rfl, ⟨last, ?_⟩,
                  names, ?_⟩
                · rw [fields_cons_new record name again, read]
                  exact more
                · rwa [met_cons_of_some name]

/-- In a map in order, the entries before a key are those with a lower key. -/
theorem mem_before_iff {before after : List (String × Value)} {key : String} {value : Value}
    (ordered : (Value.map (before ++ (key, value) :: after)).Ordered) {entry : String × Value}
    (mem : entry ∈ before ++ (key, value) :: after) : entry ∈ before ↔ entry.1 < key := by
  have keys := ordered.keys
  rw [List.map_append, List.map_cons, List.pairwise_append, List.pairwise_cons] at keys
  obtain ⟨-, ⟨above, -⟩, below⟩ := keys
  constructor
  · intro early
    exact below entry.1 (List.mem_map_of_mem early) key List.mem_cons_self
  · intro less
    rcases List.mem_append.1 mem with early | late
    · exact early
    · rcases List.mem_cons.1 late with rfl | late
      · exact absurd less (lt_irrefl _)
      · exact absurd less (lt_asymm (above entry.1 (List.mem_map_of_mem late)))

namespace Schema

variable (schema : Schema record named) (ordered : (Value.map entries).Ordered)

include ordered

/-- In a map that is accepted no key offends. -/
theorem not_offends_of_fields_eq_ok {start state : σ}
    (h : fields named canonical store [] start entries = .ok state) (key : String) (fault : Fault) :
    ¬Offends schema.spellings canonical schema.refused entries key fault := by
  obtain ⟨once, fitting⟩ := (schema.exists_fields_eq_ok_iff ordered).1 ⟨state, h⟩
  rintro ⟨field, value, spells, mem, ⟨⟨other, spells', mem', less⟩, -⟩ | ⟨-, inner, refused, -⟩⟩
  · have same := once field other spells' key spells mem' (List.mem_map_of_mem mem)
    exact absurd same (ne_of_lt less)
  · obtain ⟨found, meant⟩ := fitting field key spells value mem
    have read := (schema.read_eq_ok_iff (ordered.each _ mem)).2 meant
    rw [(schema.read_eq_error_iff (ordered.each _ mem)).2 refused] at read
    cases read

omit [DecidableEq φ] in
/-- A key has one offence at most. -/
theorem offends_unique {key : String} {fault fault' : Fault}
    (h : Offends schema.spellings canonical schema.refused entries key fault)
    (h' : Offends schema.spellings canonical schema.refused entries key fault') :
    fault = fault' := by
  obtain ⟨field, value, spells, mem, offence⟩ := h
  obtain ⟨field', value', spells', mem', offence'⟩ := h'
  have sameField : some field = some field' :=
    (schema.named_iff.2 spells).symm.trans (schema.named_iff.2 spells')
  have sameValue : some value = some value' :=
    ((Value.field?_eq_some_iff ordered.keys).2 mem).symm.trans
      ((Value.field?_eq_some_iff ordered.keys).2 mem')
  cases sameField
  cases sameValue
  rcases offence with ⟨⟨other, known, there, less⟩, rfl⟩ | ⟨first, inner, refused, rfl⟩
  · rcases offence' with ⟨-, rfl⟩ | ⟨first', -⟩
    · rfl
    · exact absurd less (first' other known there)
  · rcases offence' with ⟨⟨other, known, there, less⟩, -⟩ | ⟨-, inner', refused', rfl⟩
    · exact absurd less (first other known there)
    · have read := (schema.read_eq_error_iff (ordered.each _ mem)).2 refused
      have read' := (schema.read_eq_error_iff (ordered.each _ mem)).2 refused'
      rw [Except.error.inj (read.symm.trans read')]

theorem firstOffence_of_fields_eq_error {start : σ} {fault : Fault}
    (h : fields named canonical store [] start entries = .error fault) :
    FirstOffence schema.spellings canonical schema.refused entries fault := by
  obtain ⟨before, key, value, after, field, rfl, ⟨last, read⟩, names, offence⟩ :=
    exists_of_fields_eq_error record h
  obtain ⟨once, -, readable⟩ := (exists_fields_iff record).1 ⟨last, read⟩
  have mem : (key, value) ∈ before ++ (key, value) :: after := by simp
  refine ⟨key, ⟨field, value, schema.named_iff.1 names, mem, ?_⟩, ?_⟩
  · rcases offence with ⟨old | ⟨entry, early, names'⟩, rfl⟩ | ⟨new, inner, failed, rfl⟩
    · cases old
    · have there := List.mem_append_left ((key, value) :: after) early
      exact Or.inl ⟨⟨entry.1, schema.named_iff.1 names', List.mem_map_of_mem there,
        (mem_before_iff ordered there).1 early⟩, rfl⟩
    · refine Or.inr ⟨fun other spells there less => ?_, inner,
        (schema.read_eq_error_iff (ordered.each _ mem)).1 failed, rfl⟩
      obtain ⟨entry, found, rfl⟩ := List.mem_map.1 there
      exact new (Or.inr ⟨entry, (mem_before_iff ordered found).2 less, schema.named_iff.2 spells⟩)
  · -- A key that offends before would have kept the entries before from being read.
    rintro other fault' ⟨field', value', spells, found, offence'⟩
    by_contra above
    have less : other < key := not_le.1 above
    have early := (mem_before_iff ordered found).2 less
    have names' := schema.named_iff.2 spells
    rcases offence' with ⟨⟨third, spells', there, less'⟩, -⟩ | ⟨-, inner, refused, -⟩
    · obtain ⟨entry, found', rfl⟩ := List.mem_map.1 there
      have early' := (mem_before_iff ordered found').2 (lt_trans less' less)
      have names'' := schema.named_iff.2 spells'
      have keys : (before.map Prod.fst).Pairwise (· < ·) := by
        have all := ordered.keys
        rw [List.map_append, List.pairwise_append] at all
        exact all.1
      have same : entry.1 = other := (once_iff keys).1 once entry.1 (List.mem_map_of_mem early')
        other (List.mem_map_of_mem early) (names'' ▸ rfl) (names''.trans names'.symm)
      exact absurd same (ne_of_lt less')
    · obtain ⟨meaning, read'⟩ := readable _ early field' names'
      rw [(schema.read_eq_error_iff (ordered.each _ found)).2 refused] at read'
      cases read'

/-- A map is refused for the offence of the first key that offends. -/
theorem fields_eq_error_iff {start : σ} {fault : Fault} :
    fields named canonical store [] start entries = .error fault ↔
      FirstOffence schema.spellings canonical schema.refused entries fault := by
  refine ⟨schema.firstOffence_of_fields_eq_error ordered, ?_⟩
  rintro ⟨key, offends, first⟩
  cases outcome : fields named canonical store [] start entries with
  | ok state => exact absurd offends (schema.not_offends_of_fields_eq_ok ordered outcome key fault)
  | error fault' =>
      obtain ⟨key', offends', first'⟩ := schema.firstOffence_of_fields_eq_error ordered outcome
      have same : key = key' := le_antisymm (first key' fault' offends') (first' key fault offends)
      rw [schema.offends_unique ordered offends (same ▸ offends')]

end Schema

/-! ## Keys of no field -/

/-- Keys that name no field have no influence. -/
theorem fields_filter (seen : List φ) (state : σ) :
    fields named canonical store seen state
        (entries.filter fun entry => (named entry.1).isSome) =
      fields named canonical store seen state entries := by
  induction entries generalizing seen state with
  | nil => rfl
  | cons entry rest ih =>
      obtain ⟨key, value⟩ := entry
      cases name : named key with
      | none => simp [name, fields, ih]
      | some field => simp [name, fields, ih]

end ImageFallback.Decode
