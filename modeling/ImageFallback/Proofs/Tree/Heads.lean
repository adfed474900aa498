import ImageFallback.Proofs.Tree.Parts
import Mathlib.Data.List.Forall2

/-!
# What can be told of a node from outside

`SameHead` lists what can be told of a node without looking into a call: its identity, span and
shape, whether it is a name or a spread argument, and the names along a chain of member accesses.
Putting new parts into a node changes nothing of this as long as the parts keep their heads
(`sameHead_withParts`), and putting new parts into a call never does.
-/

namespace ImageFallback

namespace Node

/-- The first name and the members of a chain of member accesses. -/
def memberPath? : Node → Option (List String)
  | name _ value => some [value]
  | unary _ (.member property false) object =>
    (memberPath? object).map fun names => names ++ [property]
  | _ => none

/-- The name that a node is. -/
def name? : Node → Option String
  | name _ value => some value
  | _ => none

/-- What can be told of a node without looking into a call is the same. -/
structure SameHead (node other : Node) : Prop where
  id : other.id? = node.id?
  span : other.span = node.span
  shape : other.shape = node.shape
  spread : other.isSpread = node.isSpread
  name : other.name? = node.name?
  path : other.memberPath? = node.memberPath?

theorem SameHead.refl (node : Node) : SameHead node node := ⟨rfl, rfl, rfl, rfl, rfl, rfl⟩

theorem sameHead_call (span : Span) (callee callee' : Node) (arguments arguments' : List Node)
    (optional optional' : Bool) :
    SameHead (.call span callee arguments optional) (.call span callee' arguments' optional') :=
  ⟨rfl, rfl, rfl, rfl, rfl, rfl⟩

/-- A node keeps its head when its parts keep theirs. -/
theorem sameHead_withParts {node : Node} {ps : List Node}
    (h : List.Forall₂ SameHead node.parts ps) : SameHead node (node.withParts ps) := by
  cases node with
  | text | name | atom => exact SameHead.refl _
  | template | group => exact ⟨rfl, rfl, rfl, rfl, rfl, rfl⟩
  | paren span inner =>
      obtain ⟨p, _, inside, rest, rfl⟩ := List.forall₂_cons_left_iff.1 h
      cases List.forall₂_nil_left_iff.1 rest
      exact ⟨rfl, rfl, inside.shape, rfl, rfl, rfl⟩
  | unary span form inner =>
      obtain ⟨p, _, inside, rest, rfl⟩ := List.forall₂_cons_left_iff.1 h
      cases List.forall₂_nil_left_iff.1 rest
      refine ⟨rfl, rfl, rfl, by cases form <;> rfl, rfl, ?_⟩
      cases form with
      | member property optional => cases optional <;> simp [withParts, memberPath?, inside.path]
      | _ => rfl
  | call | binary | conditional =>
      rcases ps with _ | ⟨p, _ | ⟨q, _ | ⟨r, _ | ⟨x, ps⟩⟩⟩⟩ <;>
        exact ⟨rfl, rfl, rfl, rfl, rfl, rfl⟩

/-- A node has the same head with either of two lists of parts that have the same heads. -/
theorem sameHead_withParts_withParts {node : Node} {ps qs : List Node}
    (length : ps.length = node.parts.length) (h : List.Forall₂ SameHead ps qs) :
    SameHead (node.withParts ps) (node.withParts qs) := by
  have heads : List.Forall₂ SameHead (node.withParts ps).parts qs := by
    rwa [parts_withParts node ps length]
  have same := sameHead_withParts heads
  rwa [withParts_withParts node ps qs length (h.length_eq.symm.trans length)] at same

end Node

end ImageFallback
