import ImageFallback.Options.Load
import ImageFallback.Proofs.Options.Schema
import Mathlib.Data.List.Forall2

/-!
# Values that readers of options tell apart

No option wants a number or anything that is not there, so a reader of options looks at a value in a
few ways only: it wants a text, a truth value, a list of texts or the shapes. Values that are alike
to these are alike as values of options (`toOption_storeField_congr`), and so are maps that agree so
field by field. The first use of this are numbers that are not finite, which have null in their
place where a document is turned into a value.
-/

namespace ImageFallback

section Results

variable {ε ε' α β : Type}

@[simp]
theorem toOption_mapError (f : ε → ε') (result : Except ε α) :
    (result.mapError f).toOption = result.toOption := by
  cases result <;> rfl

@[simp]
theorem toOption_map (f : α → β) (result : Except ε α) :
    (result.map f).toOption = result.toOption.map f := by
  cases result <;> rfl

@[simp]
theorem toOption_bind (result : Except ε α) (next : α → Except ε β) :
    (result >>= next).toOption = result.toOption.bind fun a => (next a).toOption := by
  cases result <;> rfl

end Results

namespace Value

theorem finiteItems_eq_map (items : List Value) : finiteItems items = items.map finite := by
  induction items with
  | nil => rfl
  | cons item rest ih => rw [finiteItems, ih, List.map_cons]

theorem finiteFields_eq_map (fields : List (String × Value)) :
    finiteFields fields = fields.map fun field => (field.1, field.2.finite) := by
  induction fields with
  | nil => rfl
  | cons field rest ih => rw [finiteFields, ih, List.map_cons]

end Value

namespace Decode

section Congruence

variable {φ σ : Type} [DecidableEq φ] {named : String → Option φ} {canonical : φ → String}
  {store store' : φ → Value → σ → Except Fault σ}

@[simp]
theorem toOption_under (step : Value.Step) (result : Except Fault σ) :
    (under step result).toOption = result.toOption :=
  toOption_mapError _ result

/-- Two readers accept the same entries, with the same outcome, when they do so entry by entry. -/
theorem toOption_fields_congr {entries others : List (String × Value)}
    (alike : List.Forall₂ (fun entry other => entry.1 = other.1 ∧
      ∀ field, named entry.1 = some field → ∀ state,
        (store field entry.2 state).toOption = (store' field other.2 state).toOption)
      entries others) (seen : List φ) (state : σ) :
    (fields named canonical store seen state entries).toOption =
      (fields named canonical store' seen state others).toOption := by
  induction alike generalizing seen state with
  | nil => rfl
  | @cons entry other rest more first _ ih =>
      obtain ⟨key, value⟩ := entry
      obtain ⟨_, value'⟩ := other
      obtain ⟨rfl, stored⟩ := first
      rw [fields, fields]
      cases name : named key with
      | none => exact ih seen state
      | some field =>
          by_cases again : field ∈ seen
          · simp only [again, if_true]
          · simp only [again, if_false, toOption_bind, toOption_under, stored field name]
            congr 1
            funext state'
            exact ih (field :: seen) state'

omit [DecidableEq φ] in
theorem toOption_positions_congr {items others : List Value}
    (alike : List.Forall₂ (fun item other => ∀ field state,
      (store field item state).toOption = (store' field other state).toOption) items others)
    (all : List φ) (index : Nat) (state : σ) :
    (positions store index all state items).toOption =
      (positions store' index all state others).toOption := by
  induction alike generalizing all index state with
  | nil => cases all <;> rfl
  | cons first _ ih =>
      cases all with
      | nil => rfl
      | cons field all =>
          simp only [positions, toOption_bind, toOption_under, first]
          congr 1
          funext state'
          exact ih all (index + 1) state'

/-- Entries of which none is named change nothing. -/
theorem fields_of_unnamed {entries : List (String × Value)}
    (unnamed : ∀ entry ∈ entries, named entry.1 = none) (seen : List φ) (state : σ) :
    fields named canonical store seen state entries = .ok state := by
  rw [← fields_filter, List.filter_eq_nil_iff.2 fun entry mem => by simp [unnamed entry mem]]
  rfl

end Congruence

/-! ## Values that are read alike -/

/-- Whoever wants a text or a truth value reads the two values alike. -/
structure ReadAlike (value other : Value) : Prop where
  text : (text other).toOption = (text value).toOption
  truth : (truth other).toOption = (truth value).toOption

theorem toOption_textsFrom_congr {items others : List Value}
    (alike : List.Forall₂ ReadAlike items others) (index : Nat) :
    (textsFrom index others).toOption = (textsFrom index items).toOption := by
  induction alike generalizing index with
  | nil => rfl
  | cons first _ ih =>
      simp only [textsFrom, toOption_bind, toOption_under, first.text, ih]

theorem ReadAlike.storeSwitch {value other : Value} (alike : ReadAlike value other)
    (switch : Switch) (state : Shapes) :
    (storeSwitch switch other state).toOption = (storeSwitch switch value state).toOption := by
  simp only [Decode.storeSwitch, toOption_bind, alike.truth]

theorem toOption_shapes_list_congr {items others : List Value}
    (alike : List.Forall₂ ReadAlike items others) (excess : Excess) :
    (shapes excess (.list others)).toOption = (shapes excess (.list items)).toOption := by
  have stored := toOption_positions_congr (alike.flip.imp fun _ _ same => same.storeSwitch)
  simp only [shapes, record, toOption_bind, stored, alike.length_eq]

theorem toOption_shapes_map_congr {entries others : List (String × Value)}
    (alike : List.Forall₂ (fun entry other => entry.1 = other.1 ∧ ReadAlike entry.2 other.2)
      entries others) (excess : Excess) :
    (shapes excess (.map others)).toOption = (shapes excess (.map entries)).toOption := by
  simp only [shapes, record]
  apply toOption_fields_congr
  exact alike.flip.imp fun _ _ same => ⟨same.1.symm, fun switch _ => same.2.storeSwitch switch⟩

/-- Shapes of which none is named are those that there are by default. -/
theorem shapes_of_unnamed {entries : List (String × Value)}
    (unnamed : ∀ entry ∈ entries, Switch.ofKey? entry.1 = none) (excess : Excess) :
    shapes excess (.map entries) = .ok {} := by
  simp only [shapes, record, fields_of_unnamed unnamed]

theorem toOption_storeField_congr {excess : Excess} {field : Field} {value other : Value}
    (alike : ReadAlike value other) (texts : (texts other).toOption = (texts value).toOption)
    (shapes : field = .shapes →
      (shapes excess other).toOption = (shapes excess value).toOption) (state : Options) :
    (storeField excess field other state).toOption =
      (storeField excess field value state).toOption := by
  cases field with
  | extensions => simp only [storeField, toOption_map, texts]
  | shapes => simp only [storeField, toOption_map, shapes rfl]
  | target | ignoreMarker | inlineMarker | loader | predicate =>
      simp only [storeField, toOption_map, alike.text]

/-! ## Numbers that are not finite -/

theorem readAlike_finite (value : Value) : ReadAlike value value.finite := by
  cases value with
  | real x => cases x <;> exact ⟨rfl, rfl⟩
  | _ => exact ⟨rfl, rfl⟩

theorem forall₂_finiteItems (items : List Value) :
    List.Forall₂ ReadAlike items (Value.finiteItems items) := by
  rw [Value.finiteItems_eq_map, List.forall₂_map_right_iff, List.forall₂_same]
  exact fun item _ => readAlike_finite item

theorem toOption_texts_finite (value : Value) :
    (texts value.finite).toOption = (texts value).toOption := by
  cases value with
  | real x => cases x <;> rfl
  | list items => exact toOption_textsFrom_congr (forall₂_finiteItems items) 0
  | _ => rfl

theorem toOption_shapes_finite (excess : Excess) (value : Value) :
    (shapes excess value.finite).toOption = (shapes excess value).toOption := by
  cases value with
  | real x => cases x <;> rfl
  | list items => exact toOption_shapes_list_congr (forall₂_finiteItems items) excess
  | map entries =>
      rw [Value.finite, Value.finiteFields_eq_map]
      apply toOption_shapes_map_congr
      rw [List.forall₂_map_right_iff, List.forall₂_same]
      exact fun entry _ => ⟨rfl, readAlike_finite entry.2⟩
  | _ => rfl

theorem toOption_storeField_finite (excess : Excess) (field : Field) (value : Value)
    (state : Options) :
    (storeField excess field value.finite state).toOption =
      (storeField excess field value state).toOption :=
  toOption_storeField_congr (readAlike_finite value) (toOption_texts_finite value)
    (fun _ => toOption_shapes_finite excess value) state

/-! ## Lists that are too long -/

/-- Shapes that are given as a list have at most an item for each of them. -/
def ShortShapes (entries : List (String × Value)) : Prop :=
  ∀ key items, (key, Value.list items) ∈ entries → Field.ofKey? key = some .shapes →
    items.length ≤ 3

theorem shapes_excess {value : Value} (short : ∀ items, value = .list items → items.length ≤ 3) :
    shapes .refused value = shapes .ignored value := by
  cases value with
  | list items =>
      have few : ¬ Switch.all.length < items.length := not_lt.2 (short items rfl)
      simp only [shapes, record, few, and_false, if_false]
  | _ => rfl

theorem storeField_excess {field : Field} {value : Value}
    (short : field = .shapes → ∀ items, value = .list items → items.length ≤ 3)
    (state : Options) :
    storeField .refused field value state = storeField .ignored field value state := by
  cases field with
  | shapes => simp only [storeField, shapes_excess (short rfl)]
  | extensions | target | ignoreMarker | inlineMarker | loader | predicate => rfl

end Decode

open Decode

namespace Options

/-- Entries describe the same options whether or not a list may be too long, and with null in the
place of numbers that are not finite. -/
theorem toOption_ofValue_map {entries : List (String × Value)} (short : ShortShapes entries) :
    (ofValue (.map entries)).toOption = (decode .ignored (.map entries)).toOption := by
  simp only [ofValue, toOption_mapError, decode, record]
  apply toOption_fields_congr
  rw [List.forall₂_same]
  rintro ⟨key, value⟩ mem
  refine ⟨rfl, fun field name state => ?_⟩
  rw [storeField_excess]
  rintro rfl items rfl
  exact short key items mem name

theorem toOption_ofValue_finite (entries : List (String × Value)) :
    (ofValue (Value.map entries).finite).toOption = (ofValue (.map entries)).toOption := by
  rw [Value.finite, Value.finiteFields_eq_map]
  simp only [ofValue, toOption_mapError, decode, record]
  apply toOption_fields_congr
  rw [List.forall₂_map_left_iff, List.forall₂_same]
  exact fun entry _ => ⟨rfl, fun field _ => toOption_storeField_finite .refused field entry.2⟩

end Options

end ImageFallback
