import ImageFallback.Options.Layers
import ImageFallback.Proofs.Data.Ordered

/-!
# Readers give maps in order

Every reader of values puts the fields of a map one after the other, so the values that it gives are
`Ordered`: those of a JSON text, of a TOML document and of an environment variable, and therefore
the layer that a file gives and the layer of the environment. The readers of nested values are
bounded by fuel: one step of each reader keeps the order if the readers with less fuel do, and an
induction over the fuel puts the steps together. A TOML document under construction holds values at
its leaves, and every change of it keeps them in order.
-/

namespace ImageFallback

/-- What holds of the value that a reader has found holds of the value that it gives. -/
theorem Value.ordered_of_read {found value : Value} {after rest : List Char}
    (h : some (found, after) = some (value, rest)) (ordered : found.Ordered) : value.Ordered := by
  obtain ⟨rfl, -⟩ := Prod.mk.inj (Option.some.inj h)
  exact ordered

/-! ## JSON -/

namespace Json

theorem ordered_of_real? {negative : Bool} {significand : Nat} {exponent : Int} {value : Value}
    (h : real? negative significand exponent = some value) : value.Ordered := by
  obtain ⟨x, -, rfl⟩ := Option.map_eq_some_iff.1 h
  exact .real x

theorem ordered_of_unsigned? {negative : Bool} {cs rest : List Char} {value : Value}
    (h : unsigned? negative cs = some (value, rest)) : value.Ordered := by
  unfold unsigned? at h
  simp only [Option.bind_eq_bind] at h
  rcases ite_eq_iff.1 h with ⟨-, h⟩ | ⟨-, h⟩
  · cases h
  · split at h
    · rcases ite_eq_iff.1 h with ⟨-, h⟩ | ⟨-, h⟩
      · cases h
      · obtain ⟨power, -, h⟩ := Option.bind_eq_some_iff.1 h
        obtain ⟨number, real, h⟩ := Option.bind_eq_some_iff.1 h
        exact Value.ordered_of_read h (ordered_of_real? real)
    · obtain ⟨power, -, h⟩ := Option.bind_eq_some_iff.1 h
      rcases ite_eq_iff.1 h with ⟨-, h⟩ | ⟨-, h⟩
      · obtain ⟨number, real, h⟩ := Option.bind_eq_some_iff.1 h
        exact Value.ordered_of_read h (ordered_of_real? real)
      rcases ite_eq_iff.1 h with ⟨-, h⟩ | ⟨-, h⟩
      · exact Value.ordered_of_read h (.natural _)
      rcases ite_eq_iff.1 h with ⟨-, h⟩ | ⟨-, h⟩
      · exact Value.ordered_of_read h (.real _)
      · exact Value.ordered_of_read h (.integer _)

theorem ordered_of_number? {cs rest : List Char} {value : Value}
    (h : number? cs = some (value, rest)) : value.Ordered := by
  unfold number? at h
  split at h
  · exact ordered_of_unsigned? h
  · exact ordered_of_unsigned? h

section Step

variable {fuel : Nat}
  (ihValue : ∀ depth cs value rest, value? fuel depth cs = some (value, rest) → value.Ordered)
  (ihItems : ∀ depth cs items rest, items? fuel depth cs = some (items, rest) →
    ∀ item ∈ items, item.Ordered)
  (ihFields : ∀ depth cs fields rest, fields? fuel depth cs = some (fields, rest) →
    ∀ field ∈ fields, field.2.Ordered)

include ihItems ihFields in
theorem ordered_of_value? {depth : Nat} {cs rest : List Char} {value : Value}
    (h : value? (fuel + 1) depth cs = some (value, rest)) : value.Ordered := by
  rw [value?] at h
  split at h
  · obtain ⟨_, -, h⟩ := Option.map_eq_some_iff.1 h
    exact Value.ordered_of_read (congrArg some h) .null
  · obtain ⟨_, -, h⟩ := Option.map_eq_some_iff.1 h
    exact Value.ordered_of_read (congrArg some h) (.bool true)
  · obtain ⟨_, -, h⟩ := Option.map_eq_some_iff.1 h
    exact Value.ordered_of_read (congrArg some h) (.bool false)
  · obtain ⟨_, -, h⟩ := Option.map_eq_some_iff.1 h
    exact Value.ordered_of_read (congrArg some h) (.text _)
  · split at h
    · cases h
    · exact Value.ordered_of_read h (.list (by simp))
    · obtain ⟨⟨items, _⟩, read, h⟩ := Option.map_eq_some_iff.1 h
      exact Value.ordered_of_read (congrArg some h) (.list (ihItems _ _ _ _ read))
  · split at h
    · cases h
    · exact Value.ordered_of_read h Value.ordered_map_nil
    · obtain ⟨⟨fields, _⟩, read, h⟩ := Option.map_eq_some_iff.1 h
      have each := ihFields _ _ _ _ read
      exact Value.ordered_of_read (congrArg some h) (Value.ordered_ofFields each)
  · exact ordered_of_number? h

include ihValue ihItems in
theorem ordered_of_items? {depth : Nat} {cs rest : List Char} {items : List Value}
    (h : items? (fuel + 1) depth cs = some (items, rest)) : ∀ item ∈ items, item.Ordered := by
  rw [items?] at h
  obtain ⟨⟨item, after⟩, read, h⟩ := Option.bind_eq_some_iff.1 h
  have first := ihValue _ _ _ _ read
  dsimp only at h
  split at h
  · obtain ⟨⟨others, last⟩, more, h⟩ := Option.bind_eq_some_iff.1 h
    cases h
    exact List.forall_mem_cons.2 ⟨first, ihItems _ _ _ _ more⟩
  · cases h
    exact List.forall_mem_singleton.2 first
  · cases h

include ihValue ihFields in
theorem ordered_of_fields? {depth : Nat} {cs rest : List Char} {fields : List (String × Value)}
    (h : fields? (fuel + 1) depth cs = some (fields, rest)) :
    ∀ field ∈ fields, field.2.Ordered := by
  rw [fields?] at h
  split at h
  · obtain ⟨⟨key, afterKey⟩, -, h⟩ := Option.bind_eq_some_iff.1 h
    dsimp only at h
    split at h
    · obtain ⟨⟨value, after⟩, read, h⟩ := Option.bind_eq_some_iff.1 h
      have first := ihValue _ _ _ _ read
      dsimp only at h
      split at h
      · obtain ⟨⟨others, last⟩, more, h⟩ := Option.bind_eq_some_iff.1 h
        cases h
        exact List.forall_mem_cons.2 ⟨first, ihFields _ _ _ _ more⟩
      · cases h
        exact List.forall_mem_singleton.2 first
      · cases h
    · cases h
  · cases h

end Step

/-- Values, items and fields that are read with some fuel are in order. -/
theorem ordered_of_fuel (fuel : Nat) :
    (∀ depth cs value rest, value? fuel depth cs = some (value, rest) → value.Ordered) ∧
      (∀ depth cs items rest, items? fuel depth cs = some (items, rest) →
        ∀ item ∈ items, item.Ordered) ∧
      ∀ depth cs fields rest, fields? fuel depth cs = some (fields, rest) →
        ∀ field ∈ fields, field.2.Ordered := by
  induction fuel with
  | zero => simp [value?, items?, fields?]
  | succ fuel ih =>
      obtain ⟨ihValue, ihItems, ihFields⟩ := ih
      refine ⟨fun _ _ _ _ h => ?_, fun _ _ _ _ h => ?_, fun _ _ _ _ h => ?_⟩
      · exact ordered_of_value? ihItems ihFields h
      · exact ordered_of_items? ihValue ihItems h
      · exact ordered_of_fields? ihValue ihFields h

/-- The value of a JSON text is in order. -/
theorem ordered_of_read? {depth : Nat} {text : String} {value : Value}
    (h : read? depth text = some value) : value.Ordered := by
  unfold read? at h
  dsimp only at h
  split at h
  · rename_i read
    split at h
    · cases h
      exact (ordered_of_fuel _).1 _ _ _ _ read
    · cases h
  · cases h

end Json

/-! ## Environment variables -/

namespace Setting

theorem ordered_ofWord (word : String) : (ofWord word).Ordered := by
  unfold ofWord
  dsimp only
  split <;> constructor

section Step

variable {fuel : Nat}
  (ihValue : ∀ cs value rest, value? fuel cs = some (value, rest) → value.Ordered)
  (ihItems : ∀ cs items rest, items? fuel cs = some (items, rest) → ∀ item ∈ items, item.Ordered)
  (ihFields : ∀ cs fields rest, fields? fuel cs = some (fields, rest) →
    ∀ field ∈ fields, field.2.Ordered)

include ihItems ihFields in
theorem ordered_of_value? {cs rest : List Char} {value : Value}
    (h : value? (fuel + 1) cs = some (value, rest)) : value.Ordered := by
  rw [value?] at h
  dsimp only at h
  split at h
  · exact Value.ordered_of_read h (.bool true)
  · exact Value.ordered_of_read h (.bool false)
  · split at h
    · obtain ⟨⟨fields, _⟩, read, h⟩ := Option.map_eq_some_iff.1 h
      have each := ihFields _ _ _ read
      exact Value.ordered_of_read (congrArg some h) (Value.ordered_ofFields each)
    · obtain ⟨⟨items, _⟩, read, h⟩ := Option.map_eq_some_iff.1 h
      exact Value.ordered_of_read (congrArg some h) (.list (ihItems _ _ _ read))
    · obtain ⟨_, -, h⟩ := Option.map_eq_some_iff.1 h
      exact Value.ordered_of_read (congrArg some h) (.text _)
    · exact Value.ordered_of_read h (.text _)
    · cases h
    · exact Value.ordered_of_read h (ordered_ofWord _)

include ihValue ihItems in
theorem ordered_of_items? {cs rest : List Char} {items : List Value}
    (h : items? (fuel + 1) cs = some (items, rest)) : ∀ item ∈ items, item.Ordered := by
  by_cases closing : ∃ after, cs = ']' :: after
  · obtain ⟨after, rfl⟩ := closing
    rw [items?] at h
    cases h
    simp
  · rw [items?] at h
    · obtain ⟨⟨item, after⟩, read, h⟩ := Option.bind_eq_some_iff.1 h
      have first := ihValue _ _ _ read
      dsimp only at h
      split at h
      · obtain ⟨⟨others, last⟩, more, h⟩ := Option.bind_eq_some_iff.1 h
        cases h
        exact List.forall_mem_cons.2 ⟨first, ihItems _ _ _ more⟩
      · cases h
        exact List.forall_mem_singleton.2 first
      · cases h
    · exact fun after same => closing ⟨after, same⟩

include ihValue ihFields in
theorem ordered_of_fields? {cs rest : List Char} {fields : List (String × Value)}
    (h : fields? (fuel + 1) cs = some (fields, rest)) :
    ∀ field ∈ fields, field.2.Ordered := by
  by_cases closing : ∃ after, cs = '\x7d' :: after
  · obtain ⟨after, rfl⟩ := closing
    rw [fields?] at h
    cases h
    simp
  · rw [fields?] at h
    · obtain ⟨⟨key, afterKey⟩, -, h⟩ := Option.bind_eq_some_iff.1 h
      obtain ⟨afterMark, -, h⟩ := Option.bind_eq_some_iff.1 h
      obtain ⟨⟨value, after⟩, read, h⟩ := Option.bind_eq_some_iff.1 h
      have first := ihValue _ _ _ read
      dsimp only at h
      split at h
      · obtain ⟨⟨others, last⟩, more, h⟩ := Option.bind_eq_some_iff.1 h
        cases h
        exact List.forall_mem_cons.2 ⟨first, ihFields _ _ _ more⟩
      · cases h
        exact List.forall_mem_singleton.2 first
      · cases h
    · exact fun after same => closing ⟨after, same⟩

end Step

/-- Values, items and fields that are read with some fuel are in order. -/
theorem ordered_of_fuel (fuel : Nat) :
    (∀ cs value rest, value? fuel cs = some (value, rest) → value.Ordered) ∧
      (∀ cs items rest, items? fuel cs = some (items, rest) → ∀ item ∈ items, item.Ordered) ∧
      ∀ cs fields rest, fields? fuel cs = some (fields, rest) →
        ∀ field ∈ fields, field.2.Ordered := by
  induction fuel with
  | zero => simp [value?, items?, fields?]
  | succ fuel ih =>
      obtain ⟨ihValue, ihItems, ihFields⟩ := ih
      refine ⟨fun _ _ _ h => ?_, fun _ _ _ h => ?_, fun _ _ _ h => ?_⟩
      · exact ordered_of_value? ihItems ihFields h
      · exact ordered_of_items? ihValue ihItems h
      · exact ordered_of_fields? ihValue ihFields h

/-- The value of an environment variable is in order. -/
theorem ordered_read (text : String) : (read text).Ordered := by
  unfold read
  dsimp only
  split
  · rename_i found
    exact (ordered_of_fuel _).1 _ _ _ found
  · exact .text text

end Setting

/-! ## TOML -/

namespace Toml

theorem ordered_of_whole? {negative : Bool} {n : Nat} {value : Value}
    (h : whole? negative n = some value) : value.Ordered := by
  unfold whole? at h
  split at h
  · split at h
    · cases h
      exact .integer _
    · cases h
  · split at h
    · cases h
      exact .integer _
    · cases h

theorem ordered_of_integer? {cs : List Char} {value : Value} (h : integer? cs = some value) :
    value.Ordered := by
  unfold integer? at h
  split at h
  · obtain ⟨ds, -, h⟩ := Option.bind_eq_some_iff.1 h
    exact ordered_of_whole? h
  · obtain ⟨ds, -, h⟩ := Option.bind_eq_some_iff.1 h
    exact ordered_of_whole? h
  · obtain ⟨ds, -, h⟩ := Option.bind_eq_some_iff.1 h
    exact ordered_of_whole? h
  · obtain ⟨ds, -, h⟩ := Option.bind_eq_some_iff.1 h
    exact ordered_of_whole? h

theorem ordered_of_rounded {edition : Edition} {x : Binary64} {value : Value}
    (h : (match x with
      | .infinite negative =>
        if negative && edition = .first then pure (Value.real x) else none
      | x => pure (Value.real x)) = some value) : value.Ordered := by
  split at h
  · rcases ite_eq_iff.1 h with ⟨-, h⟩ | ⟨-, h⟩
    · cases h
      exact .real _
    · cases h
  · cases h
    exact .real _

theorem ordered_of_float? {edition : Edition} {cs : List Char} {value : Value}
    (h : float? edition cs = some value) : value.Ordered := by
  unfold float? at h
  simp only [Option.bind_eq_bind] at h
  rcases ite_eq_iff.1 h with ⟨-, h⟩ | ⟨-, h⟩
  · cases h
    exact .real _
  rcases ite_eq_iff.1 h with ⟨-, h⟩ | ⟨-, h⟩
  · cases h
    exact .real _
  -- The number is the same whether its exponent and its fraction are written or not.
  split at h
  all_goals
    obtain ⟨power, -, h⟩ := Option.bind_eq_some_iff.1 h
    obtain ⟨whole, -, h⟩ := Option.bind_eq_some_iff.1 h
    split at h
    · rcases ite_eq_iff.1 h with ⟨-, h⟩ | ⟨-, h⟩
      · cases h
      · obtain ⟨fraction, -, h⟩ := Option.bind_eq_some_iff.1 h
        exact ordered_of_rounded h
    · obtain ⟨fraction, -, h⟩ := Option.bind_eq_some_iff.1 h
      exact ordered_of_rounded h

theorem ordered_of_scalarOf? {edition : Edition} {cs : List Char} {value : Value}
    (h : scalarOf? edition cs = some value) : value.Ordered := by
  unfold scalarOf? at h
  rcases ite_eq_iff.1 h with ⟨-, h⟩ | ⟨-, h⟩
  · cases h
    exact .bool true
  rcases ite_eq_iff.1 h with ⟨-, h⟩ | ⟨-, h⟩
  · cases h
    exact .bool false
  rcases ite_eq_iff.1 h with ⟨-, h⟩ | ⟨-, h⟩
  · cases h
    exact .map (List.pairwise_singleton _ _) (by simpa using Value.Ordered.text _)
  cases whole : integer? cs with
  | some number =>
      simp only [whole, Option.orElse_some, Option.some.injEq] at h
      exact h ▸ ordered_of_integer? whole
  | none =>
      simp only [whole, Option.orElse_none] at h
      exact ordered_of_float? h

namespace Item

/-- All values in the item are in order. -/
inductive Ordered : Item → Prop where
  | value {v : Value} (h : v.Ordered) : Ordered (.value v)
  | table {origin : Origin} {entries : Entries} (each : ∀ entry ∈ entries, Ordered entry.2) :
      Ordered (.table origin entries)
  | tables {elements : List Entries}
      (each : ∀ entries ∈ elements, ∀ entry ∈ entries, Ordered entry.2) :
      Ordered (.tables elements)

/-- All values in the entries are in order. -/
def OrderedEntries (entries : Entries) : Prop := ∀ entry ∈ entries, entry.2.Ordered

theorem Ordered.entries {origin : Origin} {entries : Entries}
    (h : (Item.table origin entries).Ordered) : OrderedEntries entries := by
  cases h
  assumption

theorem Ordered.elements {elements : List Entries} (h : (Item.tables elements).Ordered) :
    ∀ entries ∈ elements, OrderedEntries entries := by
  cases h
  assumption

theorem orderedEntries_nil : OrderedEntries [] := by simp [OrderedEntries]

variable {entries changed : Entries} {item : Item} {key : String}

theorem ordered_of_found (ordered : OrderedEntries entries) (h : entry? key entries = some item) :
    item.Ordered := by
  induction entries with
  | nil => cases h
  | cons entry rest ih =>
      obtain ⟨k, old⟩ := entry
      rw [OrderedEntries, List.forall_mem_cons] at ordered
      rw [ entry?] at h
      split at h
      · cases h
        exact ordered.1
      · exact ih ordered.2 h

theorem orderedEntries_set (ordered : OrderedEntries entries) (h : item.Ordered) :
    OrderedEntries (set key item entries) := by
  induction entries with
  | nil => exact List.forall_mem_singleton.2 h
  | cons entry rest ih =>
      obtain ⟨k, old⟩ := entry
      rw [OrderedEntries, List.forall_mem_cons] at ordered
      rw [set]
      split
      · exact List.forall_mem_cons.2 ⟨h, ordered.2⟩
      · exact List.forall_mem_cons.2 ⟨ordered.1, ih ordered.2⟩

/-- Of the tables of a list only the newest is changed. -/
theorem ordered_tables_newest {newest newest' : Entries} {older : List Entries}
    (ordered : (Item.tables (newest :: older)).Ordered) (h : OrderedEntries newest') :
    (Item.tables (newest' :: older)).Ordered := by
  have each := ordered.elements
  rw [List.forall_mem_cons] at each
  exact .tables (List.forall_mem_cons.2 ⟨h, each.2⟩)

/-- A change at the end of a path keeps the values in order if it does so where it is made. -/
theorem orderedEntries_change {dotted : Bool} {f : Origin → Entries → Option Entries}
    (keeps : ∀ origin entries changed, OrderedEntries entries → f origin entries = some changed →
      OrderedEntries changed)
    (path : List String) (origin : Origin) (ordered : OrderedEntries entries)
    (h : change dotted f path origin entries = some changed) : OrderedEntries changed := by
  induction path generalizing origin entries changed with
  | nil => exact keeps origin entries changed ordered h
  | cons key path ih =>
      rw [change] at h
      split at h
      · obtain ⟨inner, made, h⟩ := Option.bind_eq_some_iff.1 h
        cases h
        exact orderedEntries_set ordered (.table (ih _ orderedEntries_nil made))
      · rename_i found
        have old := ordered_of_found ordered found
        split at h
        · cases h
        · obtain ⟨inner, made, h⟩ := Option.bind_eq_some_iff.1 h
          cases h
          exact orderedEntries_set ordered (.table (ih _ old.entries made))
      · rename_i found
        have old := ordered_of_found ordered found
        obtain ⟨newest, made, h⟩ := Option.bind_eq_some_iff.1 h
        cases h
        have before := old.elements _ List.mem_cons_self
        exact orderedEntries_set ordered (ordered_tables_newest old (ih _ before made))
      · cases h

theorem orderedEntries_within {f : Entries → Option Entries}
    (keeps : ∀ entries changed, OrderedEntries entries → f entries = some changed →
      OrderedEntries changed)
    (path : List String) (ordered : OrderedEntries entries)
    (h : within f path entries = some changed) : OrderedEntries changed := by
  induction path generalizing entries changed with
  | nil => exact keeps entries changed ordered h
  | cons key path ih =>
      rw [within] at h
      split at h
      · rename_i found
        have old := ordered_of_found ordered found
        obtain ⟨inner, made, h⟩ := Option.bind_eq_some_iff.1 h
        cases h
        exact orderedEntries_set ordered (.table (ih old.entries made))
      · rename_i found
        have old := ordered_of_found ordered found
        obtain ⟨newest, made, h⟩ := Option.bind_eq_some_iff.1 h
        cases h
        have before := old.elements _ List.mem_cons_self
        exact orderedEntries_set ordered (ordered_tables_newest old (ih before made))
      · cases h

theorem orderedEntries_assign {path : List String} {value : Value} (h : value.Ordered)
    (ordered : OrderedEntries entries) (assigned : assign path value entries = some changed) :
    OrderedEntries changed := by
  unfold assign at assigned
  split at assigned
  · cases assigned
  · refine orderedEntries_change (fun origin inner made before set => ?_) _ _ ordered assigned
    split at set
    · cases set
    · split at set
      · cases set
      · cases set
        exact orderedEntries_set before (.value h)

theorem orderedEntries_openTable {path : List String} (ordered : OrderedEntries entries)
    (opened : openTable path entries = some changed) : OrderedEntries changed := by
  unfold openTable at opened
  split at opened
  · cases opened
  · refine orderedEntries_change (fun origin inner made before set => ?_) _ _ ordered opened
    split at set
    · cases set
      exact orderedEntries_set before (.table orderedEntries_nil)
    · rename_i found
      cases set
      exact orderedEntries_set before (.table (ordered_of_found before found).entries)
    · cases set

theorem orderedEntries_addTable {path : List String} (ordered : OrderedEntries entries)
    (added : addTable path entries = some changed) : OrderedEntries changed := by
  unfold addTable at added
  split at added
  · cases added
  · refine orderedEntries_change (fun origin inner made before set => ?_) _ _ ordered added
    split at set
    · cases set
      exact orderedEntries_set before
        (.tables (List.forall_mem_singleton.2 orderedEntries_nil))
    · rename_i found
      cases set
      have old := (ordered_of_found before found).elements
      exact orderedEntries_set before (.tables (List.forall_mem_cons.2 ⟨orderedEntries_nil, old⟩))
    · cases set

mutual

/-- The value of an item with values in order is in order. -/
theorem Ordered.toValue : ∀ {item : Item}, item.Ordered → item.toValue.Ordered
  | .value _, .value h => h
  | .table _ _, h => Value.ordered_ofFields (ordered_toFields h.entries)
  | .tables _, h => .list fun value mem =>
      ordered_toMaps h.elements value (List.mem_reverse.1 mem)

theorem ordered_toFields : ∀ {entries : Entries}, OrderedEntries entries →
    ∀ field ∈ toFields entries, field.2.Ordered
  | [], _ => by simp [toFields]
  | (_, _) :: _, h => by
      rw [OrderedEntries, List.forall_mem_cons] at h
      rw [toFields]
      exact List.forall_mem_cons.2 ⟨h.1.toValue, ordered_toFields h.2⟩

theorem ordered_toMaps : ∀ {elements : List Entries},
    (∀ entries ∈ elements, OrderedEntries entries) → ∀ value ∈ toMaps elements, value.Ordered
  | [], _ => by simp [toMaps]
  | _ :: _, h => by
      rw [List.forall_mem_cons] at h
      rw [toMaps]
      exact List.forall_mem_cons.2
        ⟨Value.ordered_ofFields (ordered_toFields h.1), ordered_toMaps h.2⟩

end

end Item

open Item

section Step

variable {edition : Edition} {fuel : Nat}
  (ihValue : ∀ depth cs value rest, value? edition depth fuel cs = some (value, rest) →
    value.Ordered)
  (ihItems : ∀ depth cs items rest, items? edition depth fuel cs = some (items, rest) →
    ∀ item ∈ items, item.Ordered)
  (ihPairs : ∀ depth entries cs changed rest, OrderedEntries entries →
    pairs? edition depth fuel entries cs = some (changed, rest) → OrderedEntries changed)

include ihItems ihPairs in
theorem ordered_of_value? {depth : Nat} {cs rest : List Char} {value : Value}
    (h : value? edition depth (fuel + 1) cs = some (value, rest)) : value.Ordered := by
  unfold value? at h
  split at h
  · obtain ⟨⟨items, _⟩, read, h⟩ := Option.map_eq_some_iff.1 h
    exact Value.ordered_of_read (congrArg some h) (.list (ihItems _ _ _ _ read))
  · obtain ⟨⟨entries, _⟩, read, h⟩ := Option.map_eq_some_iff.1 h
    have each := ordered_toFields (ihPairs _ _ _ _ _ orderedEntries_nil read)
    exact Value.ordered_of_read (congrArg some h) (Value.ordered_ofFields each)
  · rcases ite_eq_iff.1 h with ⟨-, h⟩ | ⟨-, h⟩
    · obtain ⟨_, -, h⟩ := Option.map_eq_some_iff.1 h
      exact Value.ordered_of_read (congrArg some h) (.text _)
    · obtain ⟨scalar, read, h⟩ := Option.map_eq_some_iff.1 h
      exact Value.ordered_of_read (congrArg some h) (ordered_of_scalarOf? read)
  · cases h

include ihValue ihItems in
theorem ordered_of_items? {depth : Nat} {cs rest : List Char} {items : List Value}
    (h : items? edition depth (fuel + 1) cs = some (items, rest)) :
    ∀ item ∈ items, item.Ordered := by
  rw [items?] at h
  obtain ⟨cs, -, h⟩ := Option.bind_eq_some_iff.1 h
  dsimp only at h
  split at h
  · cases h
    simp
  · obtain ⟨⟨item, after⟩, read, h⟩ := Option.bind_eq_some_iff.1 h
    have first := ihValue _ _ _ _ read
    obtain ⟨after, -, h⟩ := Option.bind_eq_some_iff.1 h
    dsimp only at h
    split at h
    · obtain ⟨⟨others, last⟩, more, h⟩ := Option.bind_eq_some_iff.1 h
      cases h
      exact List.forall_mem_cons.2 ⟨first, ihItems _ _ _ _ more⟩
    · cases h
      exact List.forall_mem_singleton.2 first
    · cases h

include ihValue ihPairs in
theorem orderedEntries_of_pairs? {depth : Nat} {entries changed : Entries} {cs rest : List Char}
    (ordered : OrderedEntries entries)
    (h : pairs? edition depth (fuel + 1) entries cs = some (changed, rest)) :
    OrderedEntries changed := by
  rw [pairs?] at h
  obtain ⟨cs, -, h⟩ := Option.bind_eq_some_iff.1 h
  dsimp only at h
  split at h
  · split at h
    · cases h
      exact ordered
    · cases h
  · obtain ⟨⟨key, afterKey⟩, -, h⟩ := Option.bind_eq_some_iff.1 h
    obtain ⟨afterKey, -, h⟩ := Option.bind_eq_some_iff.1 h
    obtain ⟨afterMark, -, h⟩ := Option.bind_eq_some_iff.1 h
    obtain ⟨afterMark, -, h⟩ := Option.bind_eq_some_iff.1 h
    obtain ⟨⟨value, after⟩, read, h⟩ := Option.bind_eq_some_iff.1 h
    obtain ⟨grown, assigned, h⟩ := Option.bind_eq_some_iff.1 h
    have more := orderedEntries_assign (ihValue _ _ _ _ read) ordered assigned
    obtain ⟨after, -, h⟩ := Option.bind_eq_some_iff.1 h
    split at h
    · exact ihPairs _ _ _ _ _ more h
    · cases h
      exact more
    · cases h

end Step

/-- Values, items and pairs that are read with some fuel are in order. -/
theorem ordered_of_fuel (edition : Edition) (fuel : Nat) :
    (∀ depth cs value rest, value? edition depth fuel cs = some (value, rest) → value.Ordered) ∧
      (∀ depth cs items rest, items? edition depth fuel cs = some (items, rest) →
        ∀ item ∈ items, item.Ordered) ∧
      ∀ depth entries cs changed rest, OrderedEntries entries →
        pairs? edition depth fuel entries cs = some (changed, rest) →
          OrderedEntries changed := by
  induction fuel with
  | zero => simp [value?, items?, pairs?]
  | succ fuel ih =>
      obtain ⟨ihValue, ihItems, ihPairs⟩ := ih
      refine ⟨fun _ _ _ _ h => ?_, fun _ _ _ _ h => ?_, fun _ _ _ _ _ ordered h => ?_⟩
      · exact ordered_of_value? ihItems ihPairs h
      · exact ordered_of_items? ihValue ihItems h
      · exact orderedEntries_of_pairs? ihValue ihPairs ordered h

/-- Every line of a document keeps the values in order. -/
theorem orderedEntries_of_lines? {edition : Edition} {fuel : Nat} {header : List String}
    {entries changed : Entries} {cs : List Char} (ordered : OrderedEntries entries)
    (h : lines? edition fuel header entries cs = some changed) : OrderedEntries changed := by
  induction fuel generalizing header entries cs with
  | zero => cases h
  | succ fuel ih =>
      rw [lines?] at h
      split at h
      · cases h
        exact ordered
      · obtain ⟨key, -, h⟩ := Option.bind_eq_some_iff.1 h
        obtain ⟨_, -, h⟩ := Option.bind_eq_some_iff.1 h
        obtain ⟨_, -, h⟩ := Option.bind_eq_some_iff.1 h
        obtain ⟨grown, added, h⟩ := Option.bind_eq_some_iff.1 h
        exact ih (orderedEntries_addTable ordered added) h
      · obtain ⟨key, -, h⟩ := Option.bind_eq_some_iff.1 h
        obtain ⟨_, -, h⟩ := Option.bind_eq_some_iff.1 h
        obtain ⟨_, -, h⟩ := Option.bind_eq_some_iff.1 h
        obtain ⟨grown, opened, h⟩ := Option.bind_eq_some_iff.1 h
        exact ih (orderedEntries_openTable ordered opened) h
      · obtain ⟨_, -, h⟩ := Option.bind_eq_some_iff.1 h
        exact ih ordered h
      · split at h
        · exact ih ordered h
        · obtain ⟨key, -, h⟩ := Option.bind_eq_some_iff.1 h
          obtain ⟨_, -, h⟩ := Option.bind_eq_some_iff.1 h
          obtain ⟨⟨value, after⟩, read, h⟩ := Option.bind_eq_some_iff.1 h
          obtain ⟨_, -, h⟩ := Option.bind_eq_some_iff.1 h
          obtain ⟨grown, assigned, h⟩ := Option.bind_eq_some_iff.1 h
          have fresh := (ordered_of_fuel edition _).1 _ _ _ _ read
          refine ih (orderedEntries_within (fun inner made before set => ?_) _ ordered assigned) h
          exact orderedEntries_assign fresh before set

/-- A document of the first edition is a map, and its value is in order. -/
theorem ordered_of_read_first? {text : String} {value : Value}
    (h : read? .first text = some value) : (∃ fields, value = .map fields) ∧ value.Ordered := by
  unfold read? at h
  obtain ⟨entries, read, h⟩ := Option.bind_eq_some_iff.1 h
  have each := ordered_toFields (orderedEntries_of_lines? orderedEntries_nil read)
  cases h
  exact ⟨⟨_, rfl⟩, Value.ordered_ofFields each⟩

end Toml

/-! ## Layers -/

namespace Layers

/-- A file that holds a layer holds a map, in order. -/
theorem ordered_of_value? {file : File} {value : Value} (h : file.value? = some value) :
    (∃ fields, value = .map fields) ∧ value.Ordered := by
  unfold File.value? at h
  split at h
  · split at h
    · exact Toml.ordered_of_read_first? h
    · split at h
      · rename_i read
        cases h
        exact ⟨⟨_, rfl⟩, Json.ordered_of_read? read⟩
      · cases h
  · cases h

theorem ordered_nest {value : Value} (ordered : value.Ordered) (path : List String) :
    (nest value path).Ordered := by
  induction path with
  | nil => exact ordered
  | cons name path ih =>
      exact .map (List.pairwise_singleton _ _) (List.forall_mem_singleton.2 ih)

/-- A variable sets an option, so its path leads through a map. -/
theorem variablePath?_ne_nil {name : String} {path : List String}
    (h : variablePath? name = some path) : path ≠ [] := by
  unfold variablePath? at h
  obtain ⟨rest, -, h⟩ := Option.bind_eq_some_iff.1 h
  rcases ite_eq_iff.1 h with ⟨-, h⟩ | ⟨-, h⟩
  · cases h
  · rw [← Option.some.inj h]
    exact Text.split_ne_nil '.' _

/-- The layer of the environment is a map, in order. -/
theorem ordered_environment (settings : List (String × String)) :
    ∃ fields, environment settings = .map fields ∧ (Value.map fields).Ordered := by
  unfold environment
  refine List.foldlRecOn (motive := fun layer => ∃ fields, layer = Value.map fields ∧
    (Value.map fields).Ordered) settings _ ⟨[], rfl, Value.ordered_map_nil⟩ ?_
  rintro layer ⟨fields, rfl, ordered⟩ setting -
  cases found : variablePath? setting.1 with
  | none => exact ⟨fields, rfl, ordered⟩
  | some path =>
      cases path with
      | nil => exact absurd rfl (variablePath?_ne_nil found)
      | cons name path =>
          have above := ordered_nest (Setting.ordered_read setting.2) (name :: path)
          have laid := ordered.overlay above
          dsimp only [nest] at laid ⊢
          rw [Value.overlay] at laid ⊢
          exact ⟨_, rfl, laid⟩

end Layers

end ImageFallback
