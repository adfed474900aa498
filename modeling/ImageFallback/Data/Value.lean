import ImageFallback.Number.Binary64

/-!
# Configuration values

A value as option files and environment variables spell it. Whole numbers remember whether they were
read as natural numbers or as signed ones, because messages tell them apart. The fields of a map are
listed by their keys in increasing order of code points; `Value.put` keeps that order, and all
readers build maps with it. `Value.overlay` lays one value over another: maps field by field,
anything else replaces what lies below.
-/

namespace ImageFallback

/-- A value of an option file or of an environment variable. -/
inductive Value where
  | null
  | bool (b : Bool)
  | natural (n : Nat)
  | integer (i : Int)
  | real (x : Binary64)
  | text (s : String)
  | list (items : List Value)
  | map (fields : List (String × Value))
  deriving Inhabited, Repr

namespace Value

mutual

/-- The two values are the same. -/
def same : Value → Value → Bool
  | .null, .null => true
  | .bool a, .bool b => a = b
  | .natural m, .natural n => m = n
  | .integer i, .integer j => i = j
  | .real x, .real y => x = y
  | .text s, .text t => s = t
  | .list items, .list others => sameItems items others
  | .map fields, .map others => sameFields fields others
  | _, _ => false

/-- The two lists hold the same values. -/
def sameItems : List Value → List Value → Bool
  | [], [] => true
  | item :: rest, other :: others => same item other && sameItems rest others
  | _, _ => false

/-- The two lists hold the same fields. -/
def sameFields : List (String × Value) → List (String × Value) → Bool
  | [], [] => true
  | (key, value) :: rest, (key', value') :: others =>
    key = key' && same value value' && sameFields rest others
  | _, _ => false

end

mutual

theorem same_iff (value other : Value) : same value other = true ↔ value = other := by
  cases value with
  | list items =>
      cases other with
      | list others => rw [same, sameItems_iff items others, list.injEq]
      | _ => simp [same]
  | map fields =>
      cases other with
      | map others => rw [same, sameFields_iff fields others, map.injEq]
      | _ => simp [same]
  | _ => cases other <;> simp [same]

theorem sameItems_iff (items others : List Value) :
    sameItems items others = true ↔ items = others := by
  match items, others with
  | [], [] | [], _ :: _ | _ :: _, [] => simp [sameItems]
  | item :: rest, other :: others =>
      simp [sameItems, same_iff item other, sameItems_iff rest others]

theorem sameFields_iff (fields others : List (String × Value)) :
    sameFields fields others = true ↔ fields = others := by
  match fields, others with
  | [], [] | [], _ :: _ | _ :: _, [] => simp [sameFields]
  | (key, value) :: rest, (key', value') :: others =>
      simp [sameFields, same_iff value value', sameFields_iff rest others]

end

instance : DecidableEq Value := fun value other => decidable_of_iff _ (same_iff value other)

/-- The fields with `value` under `key`, in order of the keys. -/
def put (key : String) (value : Value) : List (String × Value) → List (String × Value)
  | [] => [(key, value)]
  | (k, v) :: rest =>
    if key < k then (key, value) :: (k, v) :: rest
    else if key = k then (key, value) :: rest
    else (k, v) :: put key value rest

/-- The value of a field. -/
def field? (key : String) : List (String × Value) → Option Value
  | [] => none
  | (k, v) :: rest => if k = key then some v else field? key rest

/-- The map of the given fields, of which a later one replaces an earlier one of the same key. -/
def ofFields (fields : List (String × Value)) : Value :=
  .map (fields.foldl (fun acc f => put f.1 f.2 acc) [])

/-- A step from a value to one of its parts. -/
inductive Step where
  | key (name : String)
  | item (index : Nat)
  deriving DecidableEq, Repr

/-- The text of a step in a dotted path. -/
def Step.text : Step → String
  | .key name => name
  | .item index => toString index

/-- The part of a value that one step leads to. -/
def child? : Value → Step → Option Value
  | .map fields, .key name => field? name fields
  | .list items, .item index => items[index]?
  | _, _ => none

/-- The part of a value at the end of a path. -/
def at? (value : Value) : List Step → Option Value
  | [] => some value
  | step :: rest => (value.child? step).bind (·.at? rest)

mutual

/-- The upper value laid over the lower one: maps field by field, anything else as a whole. -/
def overlay (lower : Value) : Value → Value
  | .map upper =>
    match lower with
    | .map fields => .map (overlayFields fields upper)
    | _ => .map upper
  | .null => .null
  | .bool b => .bool b
  | .natural n => .natural n
  | .integer i => .integer i
  | .real x => .real x
  | .text s => .text s
  | .list items => .list items

/-- The upper fields laid over the lower ones. -/
def overlayFields (lower : List (String × Value)) :
    List (String × Value) → List (String × Value)
  | [] => lower
  | (key, value) :: rest =>
    let laid := match field? key lower with
      | some below => overlay below value
      | none => value
    overlayFields (put key laid lower) rest

end

end Value

end ImageFallback
