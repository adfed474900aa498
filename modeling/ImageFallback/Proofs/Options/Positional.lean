import ImageFallback.Proofs.Options.Accepted
import ImageFallback.Proofs.Options.Alike

/-!
# Options by position

Options may be given as a list of their values in the order of their declaration, and so may the
shapes inside them. Such a list describes the same options as the map that gives these values to the
canonical names, in either place and independently of the other, and a list with more items than
there are fields describes none (`ofValue_list_iff_byName`).

The two forms are read in different orders, which matters for the fault that is reported but not for
what is read: entries that give every field once are read to the same record in every order
(`fields_eq_ok_iff_of_perm`). So a list is read like its own items with the names put to them
(`toOption_positions`), and these like the map, in which they stand sorted.
-/

namespace ImageFallback

/-! ## The map of a list -/

namespace Value

theorem put_perm {key : String} {value : Value} {fields : List (String × Value)}
    (new : key ∉ fields.map Prod.fst) : (put key value fields).Perm ((key, value) :: fields) := by
  induction fields with
  | nil => exact List.Perm.refl _
  | cons field rest ih =>
      obtain ⟨k, v⟩ := field
      rw [List.map_cons, List.mem_cons, not_or] at new
      rw [put, if_neg new.1]
      split
      · exact List.Perm.refl _
      · exact ((ih new.2).cons (k, v)).trans (List.Perm.swap _ _ _)

theorem foldl_put_perm {fields below : List (String × Value)}
    (distinct : ((below ++ fields).map Prod.fst).Nodup) :
    (fields.foldl (fun acc f => put f.1 f.2 acc) below).Perm (below ++ fields) := by
  induction fields generalizing below with
  | nil => simp
  | cons field rest ih =>
      obtain ⟨key, value⟩ := field
      have new : key ∉ below.map Prod.fst := by
        rw [List.map_append, List.map_cons, List.nodup_middle, List.nodup_cons] at distinct
        exact fun mem => distinct.1 (List.mem_append_left _ mem)
      have moved : (put key value below ++ rest).Perm (below ++ (key, value) :: rest) :=
        ((put_perm new).append_right rest).trans List.perm_middle.symm
      exact (ih ((moved.map Prod.fst).nodup_iff.2 distinct)).trans moved

/-- Sorting entries of different keys into a map keeps them all. -/
theorem ofFields_perm {fields : List (String × Value)} (distinct : (fields.map Prod.fst).Nodup) :
    ∃ sorted, ofFields fields = .map sorted ∧ sorted.Perm fields :=
  ⟨_, rfl, @foldl_put_perm fields [] distinct⟩

end Value

/-! ## Records in any order -/

namespace Decode

theorem toOption_eq_some_iff {ε α : Type} {result : Except ε α} {a : α} :
    result.toOption = some a ↔ result = .ok a := by
  cases result <;> simp [Except.toOption]

theorem toOption_eq_none_iff {ε α : Type} {result : Except ε α} :
    result.toOption = none ↔ ∃ error, result = .error error := by
  cases result <;> simp [Except.toOption]

variable {φ σ : Type} [DecidableEq φ] {named : String → Option φ} {canonical : φ → String}
  {store : φ → Value → σ → Except Fault σ} {entries others : List (String × Value)}

theorem given_perm (same : entries.Perm others) (once : Once named entries)
    (once' : Once named others) (field : φ) :
    given named field entries = given named field others := by
  ext value
  constructor
  · intro found
    obtain ⟨key, names, mem⟩ := exists_of_given found
    exact given_of_mem once' names (same.mem_iff.1 mem)
  · intro found
    obtain ⟨key, names, mem⟩ := exists_of_given found
    exact given_of_mem once names (same.mem_iff.2 mem)

omit [DecidableEq φ] in
theorem once_perm (same : entries.Perm others) : Once named entries ↔ Once named others := by
  apply same.pairwise_iff
  intro entry other apart field names names'
  exact apart field names' names

namespace Schema

variable {access : Record store} (schema : Schema access named)

include schema

/-- The record that is read holds what the entries give and else what it held before. -/
theorem fields_eq_ok_iff_given {start state : σ} :
    fields named canonical store [] start entries = .ok state ↔
      Once named entries ∧ ∀ field,
        match given named field entries with
        | some value => access.read field value = .ok (access.get field state)
        | none => access.get field state = access.get field start := by
  constructor
  · intro read
    exact ⟨((exists_record_iff access).1 ⟨state, read⟩).1, fields_given access read⟩
  · rintro ⟨once, held⟩
    have readable : ∃ last, fields named canonical store [] start entries = .ok last := by
      apply (exists_record_iff access).2
      refine ⟨once, fun field value found => ?_⟩
      have meant := held field
      rw [found] at meant
      exact ⟨_, meant⟩
    obtain ⟨last, read⟩ := readable
    have held' := fields_given access read
    suffices same : last = state by rw [read, same]
    apply schema.ext
    intro field
    have meant := held field
    have meant' := held' field
    cases found : given named field entries with
    | none =>
        rw [found] at meant meant'
        exact meant'.trans meant.symm
    | some value =>
        rw [found] at meant meant'
        exact Except.ok.inj (meant'.symm.trans meant)

/-- In which order the entries stand has no influence on what is read. -/
theorem fields_eq_ok_iff_of_perm (same : entries.Perm others) {start state : σ} :
    fields named canonical store [] start entries = .ok state ↔
      fields named canonical store [] start others = .ok state := by
  rw [schema.fields_eq_ok_iff_given, schema.fields_eq_ok_iff_given, once_perm same]
  apply and_congr_right
  intro once
  simp only [given_perm same ((once_perm same).2 once) once]

end Schema

/-! ## Lists of fields -/

/-- The map that gives the items, in their order, to the fields. -/
def byName (all : List φ) (canonical : φ → String) (items : List Value) : Value :=
  Value.ofFields ((all.map canonical).zip items)

/-- Items are read like entries under the canonical names. -/
theorem toOption_positions (spelled : ∀ field, named (canonical field) = some field)
    {all seen : List φ} (distinct : (all ++ seen).Nodup) (index : Nat) (state : σ)
    (items : List Value) :
    (positions store index all state items).toOption =
      (fields named canonical store seen state ((all.map canonical).zip items)).toOption := by
  induction all generalizing seen index state items with
  | nil => rfl
  | cons field all ih =>
      cases items with
      | nil => rfl
      | cons item items =>
          have new : field ∉ seen :=
            fun mem => (List.nodup_cons.1 distinct).1 (List.mem_append_right all mem)
          simp only [positions, List.map_cons, List.zip_cons_cons, fields, spelled, new, if_false,
            toOption_bind, toOption_under]
          congr 1
          funext state'
          exact ih (List.nodup_middle.2 distinct) (index + 1) state' items

section Lists

variable {all : List φ} (spelled : ∀ field, named (canonical field) = some field)
  (distinct : all.Nodup) (wanted : Wanted) (start : σ) (items : List Value)

include spelled distinct

/-- A list of fields is read like entries under the canonical names, unless it is too long. -/
theorem toOption_record_list :
    (record .refused wanted all named canonical store start (.list items)).toOption =
      if all.length < items.length then none
      else (fields named canonical store [] start ((all.map canonical).zip items)).toOption := by
  have read : (positions store 0 all start items).toOption =
      (fields named canonical store [] start ((all.map canonical).zip items)).toOption := by
    apply toOption_positions spelled
    rwa [List.append_nil]
  by_cases long : all.length < items.length
  · simp only [record, long, and_self, if_true, toOption_bind]
    exact Option.bind_fun_none _
  · simp only [record, long, and_false, if_false, toOption_bind, read]
    exact Option.bind_fun_some _

omit [DecidableEq φ] in
theorem nodup_keys : (((all.map canonical).zip items).map Prod.fst).Nodup := by
  have names : (all.map canonical).Nodup := by
    refine distinct.map fun field other same => ?_
    have named' := congrArg named same
    rw [spelled, spelled] at named'
    exact Option.some.inj named'
  rw [List.zip_eq_zip_take_min, List.map_fst_zip]
  · exact names.sublist (List.take_sublist _ _)
  · simp

/-- A list that is not too long describes the same as the map of its items. -/
theorem Schema.toOption_record_byName {access : Record store} (schema : Schema access named)
    (short : items.length ≤ all.length) :
    (record .refused wanted all named canonical store start (.list items)).toOption =
      (record .refused wanted all named canonical store start
        (byName all canonical items)).toOption := by
  obtain ⟨sorted, form, same⟩ := Value.ofFields_perm (nodup_keys spelled distinct items)
  rw [toOption_record_list spelled distinct, if_neg (not_lt.2 short), byName, form]
  ext state
  rw [toOption_eq_some_iff, toOption_eq_some_iff]
  exact schema.fields_eq_ok_iff_of_perm same.symm

end Lists

end Decode

/-! ## Options and shapes -/

/-- A place of the shapes in options: the fifth item of a list, or an entry of a map. -/
inductive ShapesPlace where
  | item (before after : List Value) (fifth : before.length = 4)
  | entry (before : List (String × Value)) (key : String) (after : List (String × Value))
      (spells : key ∈ Field.shapes.spellings)

namespace ShapesPlace

/-- The options with the given shapes in their place. -/
def fill : ShapesPlace → Value → Value
  | item before after _, value => .list (before ++ value :: after)
  | entry before key after _, value => .map (before ++ (key, value) :: after)

end ShapesPlace

open Decode

theorem Field.named_canonical (field : Field) : Field.ofKey? field.canonical = some field := by
  cases field <;> rfl

theorem Switch.named_canonical (switch : Switch) :
    Switch.ofKey? switch.canonical = some switch := by
  cases switch <;> rfl

namespace Decode

/-- The shapes of a list are those of the map of its items, and a list that is too long has none. -/
theorem toOption_shapes_list (switches : List Value) :
    (shapes .refused (.list switches)).toOption =
      if 3 < switches.length then none
      else (shapes .refused (byName Switch.all Switch.canonical switches)).toOption := by
  have distinct : Switch.all.Nodup := by decide
  by_cases long : 3 < switches.length
  · rw [if_pos long, shapes, toOption_record_list Switch.named_canonical distinct]
    exact if_pos long
  · rw [if_neg long]
    exact shapesSchema.toOption_record_byName Switch.named_canonical distinct .shapes {} switches
      (not_lt.1 long)

end Decode

namespace Options

theorem toOption_ofValue_list (items : List Value) :
    (ofValue (.list items)).toOption =
      if 7 < items.length then none
      else (fields Field.ofKey? Field.canonical (storeField .refused) [] {}
        ((Field.all.map Field.canonical).zip items)).toOption := by
  have distinct : Field.all.Nodup := by decide
  simp only [ofValue, toOption_mapError, decode]
  exact toOption_record_list Field.named_canonical distinct .options _ items

end Options

namespace ShapesPlace

/-- Wherever the shapes stand, they are read as one entry among others. -/
theorem exists_entries (place : ShapesPlace) :
    ∃ (long : Bool) (before : List (String × Value)) (key : String)
      (after : List (String × Value)), Field.ofKey? key = some .shapes ∧
        ∀ value, (Options.ofValue (place.fill value)).toOption =
          if long then none
          else (fields Field.ofKey? Field.canonical (storeField .refused) [] {}
            (before ++ (key, value) :: after)).toOption := by
  cases place with
  | item before after fifth =>
      refine ⟨decide (7 < before.length + (after.length + 1)),
        ((Field.all.take 4).map Field.canonical).zip before, Field.shapes.canonical,
        ((Field.all.drop 5).map Field.canonical).zip after, rfl, fun value => ?_⟩
      have names : Field.all.map Field.canonical = (Field.all.take 4).map Field.canonical ++
          Field.shapes.canonical :: (Field.all.drop 5).map Field.canonical := rfl
      have four : ((Field.all.take 4).map Field.canonical).length = before.length := fifth.symm
      rw [fill, Options.toOption_ofValue_list, names, List.zip_append four]
      simp
  | entry before key after spells =>
      refine ⟨false, before, key, after, Field.named_iff.2 spells, fun value => ?_⟩
      simp only [fill, Options.ofValue, toOption_mapError]
      rfl

/-- Options depend on what stands in the place of the shapes only through the shapes that it
means. -/
theorem toOption_fill_congr (place : ShapesPlace) {value other : Value}
    (alike : (shapes .refused value).toOption = (shapes .refused other).toOption) :
    (Options.ofValue (place.fill value)).toOption =
      (Options.ofValue (place.fill other)).toOption := by
  obtain ⟨long, before, key, after, names, read⟩ := place.exists_entries
  rw [read, read]
  congr 1
  apply toOption_fields_congr
  refine List.rel_append (List.forall₂_same.2 fun entry _ => ⟨rfl, fun _ _ _ => rfl⟩)
    (List.Forall₂.cons ⟨rfl, fun field names' state => ?_⟩
      (List.forall₂_same.2 fun entry _ => ⟨rfl, fun _ _ _ => rfl⟩))
  cases names.symm.trans names'
  simp only [storeField, toOption_map, alike]

/-- There are no options where something stands in the place of the shapes that means none. -/
theorem toOption_fill_of_refused (place : ShapesPlace) {value : Value}
    (refused : (shapes .refused value).toOption = none) :
    (Options.ofValue (place.fill value)).toOption = none := by
  obtain ⟨long, before, key, after, names, read⟩ := place.exists_entries
  rw [read]
  cases long with
  | true => rfl
  | false =>
      rw [Option.eq_none_iff_forall_ne_some]
      intro options found
      have accepted := (exists_fields_iff (optionsRecord .refused)).1
        ⟨options, toOption_eq_some_iff.1 found⟩
      obtain ⟨meant, accepted⟩ := accepted.2.2 (key, value) (by simp) .shapes names
      have given : shapes .refused value = .ok meant := accepted
      rw [given] at refused
      cases refused

end ShapesPlace

namespace Options

/-- A list of up to seven values describes the same options as the map that gives them to the
canonical names, or both describe none. The same holds for a list of up to three values in the place
of the shapes, whether the options around it are a list or a map. Longer lists are refused in both
places. -/
theorem ofValue_list_iff_byName :
    (∀ items : List Value, items.length ≤ 7 →
      (ofValue (.list items)).toOption =
        (ofValue (byName Field.all Field.canonical items)).toOption) ∧
    (∀ (place : ShapesPlace) (switches : List Value), switches.length ≤ 3 →
      (ofValue (place.fill (.list switches))).toOption =
        (ofValue (place.fill (byName Switch.all Switch.canonical switches))).toOption) ∧
    (∀ items : List Value, 7 < items.length → ∃ error, ofValue (.list items) = .error error) ∧
    ∀ (place : ShapesPlace) (switches : List Value), 3 < switches.length →
      ∃ error, ofValue (place.fill (.list switches)) = .error error := by
  constructor
  · intro items short
    have distinct : Field.all.Nodup := by decide
    have same := optionsSchema.toOption_record_byName Field.named_canonical distinct .options {}
      items short
    calc (ofValue (.list items)).toOption
        = (decode .refused (.list items)).toOption := toOption_mapError OptionsError.value _
      _ = (decode .refused (byName Field.all Field.canonical items)).toOption := same
      _ = _ := (toOption_mapError OptionsError.value _).symm
  constructor
  · intro place switches short
    apply place.toOption_fill_congr
    rw [toOption_shapes_list, if_neg (not_lt.2 short)]
  constructor
  · intro items long
    rw [← toOption_eq_none_iff, toOption_ofValue_list, if_pos long]
  · intro place switches long
    rw [← toOption_eq_none_iff]
    apply place.toOption_fill_of_refused
    rw [toOption_shapes_list, if_pos long]

/-- Two switches by position inside five options by position, in each of the forms, with a switch
too many, and with an option too many. -/
theorem ofValue_list_nested :
    let first : List Value := [.list [], .text ".avif", .text "skip", .text "?raw"]
    let switches : List Value := [.bool true, .bool false]
    let items : List Value := first ++ [.list switches]
    let place : ShapesPlace := .item first [] rfl
    let options : Options :=
      { extensions := [], target := ".avif", ignoreMarker := "skip", inlineMarker := "?raw",
        shapes := { template := false } }
    ofValue (.list items) = .ok options ∧
      (ofValue (byName Field.all Field.canonical items)).toOption = some options ∧
      (ofValue (place.fill (byName Switch.all Switch.canonical switches))).toOption =
        some options ∧
      (∃ error, ofValue (.list (first ++ first)) = .error error) ∧
      ∃ error, ofValue (place.fill (.list (switches ++ switches))) = .error error := by
  intro first switches items place options
  have read : ofValue (.list items) = .ok options := rfl
  obtain ⟨named, named', long, long'⟩ := ofValue_list_iff_byName
  refine ⟨read, ?_, ?_, long _ (by decide), long' place _ (by decide)⟩
  · rw [← named items (by decide), read]
    rfl
  · rw [← named' place switches (by decide)]
    exact congrArg Except.toOption read

end Options

end ImageFallback
