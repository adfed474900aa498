import ImageFallback.Syntax.Node

/-!
# Nodes that were handled

The set of identities that are settled. It starts empty and only grows, and an identity is in it
once at most. Nodes without an identity are never in it.
-/

namespace ImageFallback

/-- A set of identities. -/
structure Visited where
  ids : List NodeId
  nodup : ids.Nodup

namespace Visited

/-- The set of no identities. -/
def empty : Visited := ⟨[], List.nodup_nil⟩

/-- The number of identities. -/
def size (visited : Visited) : Nat := visited.ids.length

/-- The identity of the node is in the set. -/
def contains (visited : Visited) (node : Node) : Bool :=
  match node.id? with
  | some id => visited.ids.contains id
  | none => false

/-- The set with one more identity. -/
def insert (visited : Visited) (id : NodeId) : Visited :=
  if h : id ∈ visited.ids then visited
  else ⟨id :: visited.ids, List.nodup_cons.2 ⟨h, visited.nodup⟩⟩

/-- The set with the identity of a node, if it has one. -/
def mark (visited : Visited) (node : Node) : Visited :=
  match node.id? with
  | some id => visited.insert id
  | none => visited

/-- Marking the node would change the set. -/
def isNew (visited : Visited) (node : Node) : Bool :=
  node.id?.isSome && !visited.contains node

end Visited

end ImageFallback
