import ImageFallback.Data.Value
import Mathlib.Data.String.Basic

/-!
# Maps with their keys in order

A value is `Ordered` when every map in it lists its fields by increasing keys. A map is then the same
as the look-up `field?` in it: a field is in the list exactly when it is found. `put` and `overlay`
keep the order, and what is found after an overlay is what lies above, laid over what lies below
(`field?_overlayFields`).
-/

namespace ImageFallback.Value

/-- Every map in the value lists its fields by increasing keys. -/
inductive Ordered : Value → Prop where
  | null : Ordered .null
  | bool (b : Bool) : Ordered (.bool b)
  | natural (n : Nat) : Ordered (.natural n)
  | integer (i : Int) : Ordered (.integer i)
  | real (x : Binary64) : Ordered (.real x)
  | text (s : String) : Ordered (.text s)
  | list {items : List Value} (each : ∀ item ∈ items, Ordered item) : Ordered (.list items)
  | map {fields : List (String × Value)} (keys : (fields.map Prod.fst).Pairwise (· < ·))
      (each : ∀ field ∈ fields, Ordered field.2) : Ordered (.map fields)

theorem Ordered.keys {fields : List (String × Value)} (h : (Value.map fields).Ordered) :
    (fields.map Prod.fst).Pairwise (· < ·) := by
  cases h
  assumption

theorem Ordered.each {fields : List (String × Value)} (h : (Value.map fields).Ordered) :
    ∀ field ∈ fields, field.2.Ordered := by
  cases h
  assumption

theorem ordered_map_nil : (Value.map []).Ordered := Ordered.map List.Pairwise.nil (by simp)

/-! ## Looking fields up -/

theorem field?_put (key other : String) (value : Value) (fields : List (String × Value)) :
    field? other (put key value fields) =
      if key = other then some value else field? other fields := by
  induction fields with
  | nil => rfl
  | cons field rest ih =>
      obtain ⟨k, v⟩ := field
      unfold put
      split
      · rfl
      · split
        · rename_i same
          subst same
          by_cases h : key = other
          · simp [field?, h]
          · simp [field?, h]
        · rename_i different
          rw [field?, field?, ih]
          split
          · rename_i found
            rw [if_neg (found ▸ different)]
          · rfl

theorem mem_of_field? {key : String} {value : Value} {fields : List (String × Value)}
    (h : field? key fields = some value) : (key, value) ∈ fields := by
  induction fields with
  | nil => cases h
  | cons field rest ih =>
      obtain ⟨k, v⟩ := field
      rw [field?] at h
      split at h
      · rename_i same
        cases h
        rw [same]
        exact List.mem_cons_self
      · exact List.mem_cons_of_mem _ (ih h)

theorem field?_eq_none_iff {key : String} {fields : List (String × Value)} :
    field? key fields = none ↔ key ∉ fields.map Prod.fst := by
  induction fields with
  | nil => simp [field?]
  | cons field rest ih =>
      obtain ⟨k, v⟩ := field
      by_cases same : k = key
      · simp [field?, same]
      · simp [field?, same, Ne.symm same, ih]

/-- In a map whose keys are in order, a field is found exactly when it is there. -/
theorem field?_eq_some_iff {key : String} {value : Value} {fields : List (String × Value)}
    (keys : (fields.map Prod.fst).Pairwise (· < ·)) :
    field? key fields = some value ↔ (key, value) ∈ fields := by
  refine ⟨mem_of_field?, fun mem => ?_⟩
  induction fields with
  | nil => cases mem
  | cons field rest ih =>
      obtain ⟨k, v⟩ := field
      rw [List.map_cons, List.pairwise_cons] at keys
      rcases List.mem_cons.1 mem with same | later
      · cases same
        simp [field?]
      · have above : k < key := keys.1 key (List.mem_map_of_mem later)
        rw [field?, if_neg (ne_of_lt above)]
        exact ih keys.2 later

theorem Ordered.of_field? {key : String} {value : Value} {fields : List (String × Value)}
    (ordered : (Value.map fields).Ordered) (h : field? key fields = some value) :
    value.Ordered :=
  ordered.each _ (mem_of_field? h)

/-! ## Keeping the order -/

theorem mem_put {key : String} {value : Value} {fields : List (String × Value)}
    {field : String × Value} (h : field ∈ put key value fields) :
    field = (key, value) ∨ field ∈ fields := by
  induction fields with
  | nil => exact Or.inl (List.mem_singleton.1 h)
  | cons first rest ih =>
      obtain ⟨k, v⟩ := first
      unfold put at h
      split at h
      · exact List.mem_cons.1 h
      · split at h
        · exact (List.mem_cons.1 h).imp_right (List.mem_cons_of_mem _)
        · rcases List.mem_cons.1 h with rfl | later
          · exact Or.inr List.mem_cons_self
          · exact (ih later).imp_right (List.mem_cons_of_mem _)

theorem Ordered.put {key : String} {value : Value} {fields : List (String × Value)}
    (ordered : (Value.map fields).Ordered) (h : value.Ordered) :
    (Value.map (put key value fields)).Ordered := by
  refine Ordered.map ?_ fun field mem => ?_
  · have keys := ordered.keys
    clear ordered
    induction fields with
    | nil => exact List.pairwise_singleton _ _
    | cons first rest ih =>
        obtain ⟨k, v⟩ := first
        rw [List.map_cons, List.pairwise_cons] at keys
        unfold Value.put
        split
        · rename_i below
          simp only [List.map_cons, List.pairwise_cons, List.mem_cons]
          refine ⟨?_, keys⟩
          rintro other (rfl | later)
          · exact below
          · exact lt_trans below (keys.1 other later)
        · rename_i notBelow
          split
          · rename_i same
            rw [List.map_cons, List.pairwise_cons, same]
            exact keys
          · rename_i different
            have above : k < key := lt_of_le_of_ne (not_lt.1 notBelow) (Ne.symm different)
            rw [List.map_cons, List.pairwise_cons]
            refine ⟨fun other mem => ?_, ih keys.2⟩
            obtain ⟨field, found, rfl⟩ := List.mem_map.1 mem
            rcases mem_put found with rfl | later
            · exact above
            · exact keys.1 _ (List.mem_map_of_mem later)
  · rcases mem_put mem with rfl | old
    · exact h
    · exact ordered.each field old

theorem ordered_foldl_put {fields below : List (String × Value)}
    (each : ∀ field ∈ fields, field.2.Ordered) (ordered : (Value.map below).Ordered) :
    (Value.map (fields.foldl (fun acc f => Value.put f.1 f.2 acc) below)).Ordered := by
  induction fields generalizing below with
  | nil => exact ordered
  | cons field rest ih =>
      rw [List.forall_mem_cons] at each
      exact ih each.2 (ordered.put each.1)

/-- A map of fields that are put one after the other is in order. -/
theorem ordered_ofFields {fields : List (String × Value)}
    (each : ∀ field ∈ fields, field.2.Ordered) : (ofFields fields).Ordered :=
  ordered_foldl_put each ordered_map_nil

mutual

/-- What is laid over a value in order is in order if it was before. -/
theorem Ordered.overlay {lower : Value} (below : lower.Ordered) :
    ∀ {upper : Value}, upper.Ordered → (lower.overlay upper).Ordered
  | .map upper, above => by
      unfold Value.overlay
      split
      · exact below.overlayFields above.each
      · exact above
  | .list _, above | .null, above | .bool _, above | .natural _, above | .integer _, above
  | .real _, above | .text _, above => by
      unfold Value.overlay
      exact above

theorem Ordered.overlayFields {lower : List (String × Value)} (below : (Value.map lower).Ordered) :
    ∀ {upper : List (String × Value)}, (∀ field ∈ upper, field.2.Ordered) →
      (Value.map (Value.overlayFields lower upper)).Ordered
  | [], _ => by
      unfold Value.overlayFields
      exact below
  | (key, value) :: rest, above => by
      rw [List.forall_mem_cons] at above
      unfold Value.overlayFields
      refine Ordered.overlayFields (below.put ?_) above.2
      split
      · rename_i found
        exact (below.of_field? found).overlay above.1
      · exact above.1

end

/-! ## What an overlay holds -/

/-- The value of a field with another one laid over it. -/
def laid (below : Option Value) (above : Value) : Value :=
  match below with
  | some below => below.overlay above
  | none => above

theorem field?_overlayFields (key : String) (lower : List (String × Value))
    {upper : List (String × Value)} (keys : (upper.map Prod.fst).Pairwise (· < ·)) :
    field? key (overlayFields lower upper) =
      match field? key upper with
      | some above => some (laid (field? key lower) above)
      | none => field? key lower := by
  induction upper generalizing lower with
  | nil => simp [overlayFields, field?]
  | cons field rest ih =>
      obtain ⟨k, v⟩ := field
      rw [List.map_cons, List.pairwise_cons] at keys
      rw [overlayFields, ih _ keys.2, field?_put, field?]
      by_cases same : k = key
      · subst same
        have once : field? k rest = none :=
          field?_eq_none_iff.2 fun again => lt_irrefl k (keys.1 k again)
        simp only [once, if_true]
        cases field? k lower <;> rfl
      · simp only [same, if_false]

theorem mem_keys_overlayFields_iff {key : String} {lower upper : List (String × Value)}
    (keys : (upper.map Prod.fst).Pairwise (· < ·)) :
    key ∈ (overlayFields lower upper).map Prod.fst ↔
      key ∈ lower.map Prod.fst ∨ key ∈ upper.map Prod.fst := by
  rw [← not_iff_not, not_or]
  simp only [← field?_eq_none_iff, field?_overlayFields key lower keys]
  cases field? key upper <;> simp

theorem put_of_lt {key : String} {value : Value} {fields : List (String × Value)}
    (below : ∀ k ∈ fields.map Prod.fst, k < key) :
    put key value fields = fields ++ [(key, value)] := by
  induction fields with
  | nil => rfl
  | cons field rest ih =>
      obtain ⟨k, v⟩ := field
      rw [List.map_cons, List.forall_mem_cons] at below
      rw [put, if_neg (not_lt_of_gt below.1), if_neg (ne_of_gt below.1), ih below.2]
      rfl

/-- Entries whose keys are all later are laid down one after the other. -/
theorem overlayFields_of_lt {lower upper : List (String × Value)}
    (keys : ((lower ++ upper).map Prod.fst).Pairwise (· < ·)) :
    overlayFields lower upper = lower ++ upper := by
  induction upper generalizing lower with
  | nil => simp [overlayFields]
  | cons field rest ih =>
      obtain ⟨key, value⟩ := field
      have before : ∀ k ∈ lower.map Prod.fst, k < key := by
        rw [List.map_append, List.pairwise_append] at keys
        exact fun k mem => keys.2.2 k mem key List.mem_cons_self
      have absent : field? key lower = none :=
        field?_eq_none_iff.2 fun mem => lt_irrefl key (before key mem)
      have append : lower ++ (key, value) :: rest = (lower ++ [(key, value)]) ++ rest := by simp
      rw [append] at keys ⊢
      simp only [overlayFields, absent, put_of_lt before]
      exact ih keys

/-- Nothing but a map is changed by what lies below it. -/
theorem overlay_of_not_map {lower upper : Value} (h : ∀ fields, upper ≠ .map fields) :
    lower.overlay upper = upper := by
  cases upper with
  | map fields => exact (h fields rfl).elim
  | _ => simp [overlay]

end ImageFallback.Value
