import ImageFallback.Data.Toml.Document
import ImageFallback.Proofs.Options.Congruence

/-!
# Maps that are taken for moments

The second edition takes a map for a moment when its first key is that of one. It refuses the
document unless the key holds the text of a moment, and what else there is in the map is lost
(`exists_of_settle?_map`). This does no harm to options in most places. It matters in the document
itself and in the map of the shapes, and there only if a key that is lost names something
(`toOption_ofValue_settle?`).
-/

namespace ImageFallback.Toml

open Decode

/-- The map is taken for a moment: its first key is the key of one. -/
def looksLikeMoment : List (String × Value) → Bool
  | [] => false
  | (key, _) :: _ => key == momentKey

/-- Every map that is taken for a moment, wherever it stands, has the text of one. -/
inductive Settles : Value → Prop where
  | moment {text : String} {rest : List (String × Value)}
      (h : isMoment .second text.toList = true) :
      Settles (.map ((momentKey, .text text) :: rest))
  | map {fields : List (String × Value)} (other : looksLikeMoment fields = false)
      (each : ∀ field ∈ fields, Settles field.2) : Settles (.map fields)
  | list {items : List Value} (each : ∀ item ∈ items, Settles item) : Settles (.list items)
  | null : Settles .null
  | bool (b : Bool) : Settles (.bool b)
  | natural (n : Nat) : Settles (.natural n)
  | integer (i : Int) : Settles (.integer i)
  | real (x : Binary64) : Settles (.real x)
  | text (s : String) : Settles (.text s)

/-- Nothing that names an option or a shape is lost in the maps that are taken for moments. -/
structure KeepsOptions (entries : List (String × Value)) : Prop where
  options : looksLikeMoment entries = true → ∀ entry ∈ entries, Field.ofKey? entry.1 = none
  shapes : ∀ key inner, (key, Value.map inner) ∈ entries → Field.ofKey? key = some .shapes →
    looksLikeMoment inner = true → ∀ entry ∈ inner, Switch.ofKey? entry.1 = none

theorem exists_settleFields? {fields : List (String × Value)}
    (each : ∀ field ∈ fields, ∃ settled, settle? field.2 = some settled) :
    ∃ settled, settleFields? fields = some settled := by
  induction fields with
  | nil => exact ⟨[], rfl⟩
  | cons field rest ih =>
      rw [List.forall_mem_cons] at each
      obtain ⟨⟨value, first⟩, others⟩ := each
      obtain ⟨more, rest⟩ := ih others
      exact ⟨(field.1, value) :: more, by rw [settleFields?, first, rest]; rfl⟩

theorem exists_settleItems? {items : List Value}
    (each : ∀ item ∈ items, ∃ settled, settle? item = some settled) :
    ∃ settled, settleItems? items = some settled := by
  induction items with
  | nil => exact ⟨[], rfl⟩
  | cons item rest ih =>
      rw [List.forall_mem_cons] at each
      obtain ⟨⟨value, first⟩, others⟩ := each
      obtain ⟨more, rest⟩ := ih others
      exact ⟨value :: more, by rw [settleItems?, first, rest]; rfl⟩

theorem settle?_map_of_other {fields : List (String × Value)}
    (other : looksLikeMoment fields = false) :
    settle? (.map fields) = (settleFields? fields).map .map := by
  cases fields with
  | nil => simp [settle?, settleFields?]
  | cons field rest =>
      have key : field.1 ≠ momentKey := by simpa [looksLikeMoment] using other
      simp only [settle?, key, if_false]

/-- Such a value passes, with what is in the maps behind the key of a moment lost. -/
theorem Settles.exists_settle? {value : Value} (h : Settles value) :
    ∃ settled, settle? value = some settled := by
  induction h with
  | @moment text rest h => exact ⟨.map [(momentKey, .text text)], by simp [settle?, h]⟩
  | map other each ih =>
      obtain ⟨settled, passed⟩ := exists_settleFields? ih
      exact ⟨.map settled, by rw [settle?_map_of_other other, passed, Option.map_some]⟩
  | list each ih =>
      obtain ⟨settled, passed⟩ := exists_settleItems? ih
      exact ⟨.list settled, by rw [settle?, passed, Option.map_some]⟩
  | _ => exact ⟨_, by rw [settle?]⟩

theorem forall₂_settleFields? {fields settled : List (String × Value)}
    (h : settleFields? fields = some settled) :
    List.Forall₂ (fun field other => field.1 = other.1 ∧ settle? field.2 = some other.2)
      fields settled := by
  induction fields generalizing settled with
  | nil =>
      cases h
      exact .nil
  | cons field rest ih =>
      rw [settleFields?] at h
      obtain ⟨value, first, h⟩ := Option.bind_eq_some_iff.1 h
      obtain ⟨more, others, h⟩ := Option.bind_eq_some_iff.1 h
      cases h
      exact .cons ⟨rfl, first⟩ (ih others)

theorem forall₂_settleItems? {items settled : List Value}
    (h : settleItems? items = some settled) :
    List.Forall₂ (fun item other => settle? item = some other) items settled := by
  induction items generalizing settled with
  | nil =>
      cases h
      exact .nil
  | cons item rest ih =>
      rw [settleItems?] at h
      obtain ⟨value, first, h⟩ := Option.bind_eq_some_iff.1 h
      obtain ⟨more, others, h⟩ := Option.bind_eq_some_iff.1 h
      cases h
      exact .cons first (ih others)

/-- A map becomes a map: with its first field alone if it is taken for a moment, and otherwise with
all of its fields. -/
theorem exists_of_settle?_map {fields : List (String × Value)} {value : Value}
    (h : settle? (.map fields) = some value) :
    ∃ settled, value = .map settled ∧
      (looksLikeMoment fields = true ∧ settled = fields.take 1 ∨
        looksLikeMoment fields = false ∧ settleFields? fields = some settled) := by
  cases other : looksLikeMoment fields with
  | false =>
      rw [settle?_map_of_other other] at h
      obtain ⟨settled, passed, rfl⟩ := Option.map_eq_some_iff.1 h
      exact ⟨settled, rfl, Or.inr ⟨rfl, passed⟩⟩
  | true =>
      cases fields with
      | nil => cases other
      | cons field rest =>
          obtain ⟨key, held⟩ := field
          have key : key = momentKey := by simpa [looksLikeMoment] using other
          cases held with
          | text text =>
              simp only [settle?, key, if_true] at h
              split at h
              · cases h
                exact ⟨_, rfl, Or.inl ⟨rfl, by rw [key]; rfl⟩⟩
              · cases h
          | _ => simp [settle?, key] at h

/-- What was taken for a moment is no text and no truth value, and neither was the map. -/
theorem readAlike_settle? {value settled : Value} (h : settle? value = some settled) :
    ReadAlike value settled := by
  cases value with
  | map fields =>
      obtain ⟨_, rfl, -⟩ := exists_of_settle?_map h
      exact ⟨rfl, rfl⟩
  | list items =>
      rw [settle?] at h
      obtain ⟨_, -, rfl⟩ := Option.map_eq_some_iff.1 h
      exact ⟨rfl, rfl⟩
  | _ =>
      rw [settle?] at h
      cases h
      exact ⟨rfl, rfl⟩

theorem toOption_texts_settle? {value settled : Value} (h : settle? value = some settled) :
    (texts settled).toOption = (texts value).toOption := by
  cases value with
  | map fields =>
      obtain ⟨_, rfl, -⟩ := exists_of_settle?_map h
      rfl
  | list items =>
      rw [settle?] at h
      obtain ⟨_, passed, rfl⟩ := Option.map_eq_some_iff.1 h
      have alike := (forall₂_settleItems? passed).imp fun _ _ => readAlike_settle?
      exact toOption_textsFrom_congr alike 0
  | _ =>
      rw [settle?] at h
      cases h
      rfl

theorem toOption_shapes_settle? {value settled : Value} (h : settle? value = some settled)
    (keeps : ∀ inner, value = .map inner → looksLikeMoment inner = true →
      ∀ entry ∈ inner, Switch.ofKey? entry.1 = none) (excess : Excess) :
    (shapes excess settled).toOption = (shapes excess value).toOption := by
  cases value with
  | map fields =>
      obtain ⟨settled, rfl, ⟨moment, rfl⟩ | ⟨-, passed⟩⟩ := exists_of_settle?_map h
      · have unnamed := keeps fields rfl moment
        rw [shapes_of_unnamed unnamed,
          shapes_of_unnamed fun entry mem => unnamed entry (List.mem_of_mem_take mem)]
      · exact toOption_shapes_map_congr ((forall₂_settleFields? passed).imp fun _ _ same =>
          ⟨same.1, readAlike_settle? same.2⟩) excess
  | list items =>
      rw [settle?] at h
      obtain ⟨_, passed, rfl⟩ := Option.map_eq_some_iff.1 h
      have alike := (forall₂_settleItems? passed).imp fun _ _ => readAlike_settle?
      exact toOption_shapes_list_congr alike excess
  | _ =>
      rw [settle?] at h
      cases h
      rfl

/-- Where no option is lost the same options are read. -/
theorem toOption_ofValue_settle? {entries : List (String × Value)} {settled : Value}
    (h : settle? (.map entries) = some settled) (keeps : KeepsOptions entries) :
    (Options.ofValue settled).toOption = (Options.ofValue (.map entries)).toOption := by
  obtain ⟨settled, rfl, ⟨moment, rfl⟩ | ⟨-, passed⟩⟩ := exists_of_settle?_map h
  · have unnamed := keeps.options moment
    have first : ∀ entry ∈ entries.take 1, Field.ofKey? entry.1 = none :=
      fun entry mem => unnamed entry (List.mem_of_mem_take mem)
    simp only [Options.ofValue, Options.decode, record, fields_of_unnamed unnamed,
      fields_of_unnamed first]
  · simp only [Options.ofValue, toOption_mapError, Options.decode, record]
    symm
    apply toOption_fields_congr
    -- The entries are needed here to know where the shapes stand.
    have members := List.forall₂_iff_zip.1 (forall₂_settleFields? passed)
    refine List.forall₂_iff_zip.2 ⟨members.1, fun {entry other} mem => ?_⟩
    obtain ⟨same, passed⟩ := members.2 mem
    refine ⟨same, fun field name state => ?_⟩
    refine (toOption_storeField_congr (readAlike_settle? passed) (toOption_texts_settle? passed)
      (fun isShapes => toOption_shapes_settle? passed (fun inner isMap => ?_) _) state).symm
    subst isShapes
    refine keeps.shapes entry.1 inner ?_ name
    rw [← isMap]
    exact (List.of_mem_zip mem).1

end ImageFallback.Toml
