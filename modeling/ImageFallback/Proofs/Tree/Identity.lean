import ImageFallback.Proofs.Tree.Parts
import Mathlib.Data.List.Nodup

/-!
# The identities of a tree

`ids` lists all identities of a tree, in the order of the source. Two parts of this list are kept
apart. The identities inside calls, `callIds`, belong to nodes that a walk may still hand over as
the argument of a call or find inside one. The identities on branches, `branchIds`, belong to the
nodes that are reached from the root through parentheses and the branches of conditionals only,
which is how far a change of an argument looks. In a tree whose identities are distinct no identity
is of both kinds.

`anonymous` forgets all identities: trees are equal up to identities when it makes them equal.
-/

namespace ImageFallback

namespace Node

mutual

/-- All identities of a node, in the order of the source. -/
def ids : Node → List NodeId
  | text id _ _ _ => [id]
  | template id _ _ parts => id :: idsAll parts
  | conditional id _ test yes no => id :: (ids test ++ (ids yes ++ ids no))
  | paren _ inner => ids inner
  | name .. => []
  | call _ callee arguments _ => ids callee ++ idsAll arguments
  | atom .. => []
  | unary _ _ inner => ids inner
  | binary _ _ left right => ids left ++ ids right
  | group _ _ items => idsAll items

/-- All identities of the nodes. -/
def idsAll : List Node → List NodeId
  | [] => []
  | node :: rest => ids node ++ idsAll rest

end

mutual

/-- The identities that lie inside some call of the node. -/
def callIds : Node → List NodeId
  | text .. => []
  | template _ _ _ parts => callIdsAll parts
  | conditional _ _ test yes no => callIds test ++ (callIds yes ++ callIds no)
  | paren _ inner => callIds inner
  | name .. => []
  | call _ callee arguments _ => ids callee ++ idsAll arguments
  | atom .. => []
  | unary _ _ inner => callIds inner
  | binary _ _ left right => callIds left ++ callIds right
  | group _ _ items => callIdsAll items

/-- The identities that lie inside some call of the nodes. -/
def callIdsAll : List Node → List NodeId
  | [] => []
  | node :: rest => callIds node ++ callIdsAll rest

end

/-- The identities of the nodes that are reached through parentheses and the branches of
conditionals only. -/
def branchIds : Node → List NodeId
  | text id _ _ _ => [id]
  | template id _ _ _ => [id]
  | conditional id _ _ yes no => id :: (branchIds yes ++ branchIds no)
  | paren _ inner => branchIds inner
  | _ => []

/-- The node with all identities forgotten. -/
def anonymous (node : Node) : Node := node.mapIds fun _ => 0

/-- The nodes with all identities forgotten. -/
def anonymousAll (nodes : List Node) : List Node := mapIdsAll (fun _ => 0) nodes

theorem ids_eq_parts (node : Node) : node.ids = node.id?.toList ++ idsAll node.parts := by
  cases node <;> simp [ids, idsAll, parts, id?]

theorem callIds_eq_parts (node : Node) :
    node.callIds = if node.isCall then idsAll node.parts else callIdsAll node.parts := by
  cases node <;> simp [callIds, callIdsAll, idsAll, parts, isCall]

/-- The identities inside calls are identities of the nodes, in the same order. -/
theorem callIdsAll_sublist (nodes : List Node) :
    (callIdsAll nodes).Sublist (idsAll nodes) := by
  induction nodes using forestInduction with
  | nil => exact List.Sublist.refl _
  | cons node rest inside after =>
      refine List.Sublist.append ?_ after
      rw [callIds_eq_parts, ids_eq_parts]
      split
      · exact List.sublist_append_right _ _
      · exact inside.trans (List.sublist_append_right _ _)

theorem callIds_sublist (node : Node) : node.callIds.Sublist node.ids := by
  simpa [callIdsAll, idsAll] using callIdsAll_sublist [node]

theorem mem_ids_of_mem_callIds {node : Node} {id : NodeId} (h : id ∈ node.callIds) :
    id ∈ node.ids :=
  node.callIds_sublist.subset h

theorem branchIds_sublist (node : Node) : node.branchIds.Sublist node.ids := by
  induction node using branchIds.induct with
  | case1 | case2 => simp [branchIds, ids]
  | case3 own span test yes no ihYes ihNo =>
      exact ((ihYes.append ihNo).trans (List.sublist_append_right _ _)).cons_cons own
  | case4 span inner ih => exact ih
  | case5 => simp_all [branchIds]

theorem mem_ids_of_mem_branchIds {node : Node} {id : NodeId} (h : id ∈ node.branchIds) :
    id ∈ node.ids :=
  node.branchIds_sublist.subset h

theorem mem_branchIds_of_id? {node : Node} {id : NodeId} (own : node.id? = some id) :
    id ∈ node.branchIds := by
  cases node <;> simp_all [id?, branchIds]

/-- In a tree whose identities are distinct, a node on a branch does not lie inside a call. -/
theorem not_mem_callIds_of_mem_branchIds {node : Node} {id : NodeId} (distinct : node.ids.Nodup)
    (h : id ∈ node.branchIds) : id ∉ node.callIds := by
  induction node using branchIds.induct with
  | case1 => simp [callIds]
  | case2 own span quasis parts =>
      simp only [branchIds, List.mem_singleton] at h
      subst h
      intro inCall
      have inParts : id ∈ idsAll parts := (callIdsAll_sublist parts).subset inCall
      simp only [ids, List.nodup_cons] at distinct
      exact distinct.1 inParts
  | case3 own span test yes no ihYes ihNo =>
      have testIn := @mem_ids_of_mem_callIds test id
      have yesIn := @mem_ids_of_mem_callIds yes id
      have noIn := @mem_ids_of_mem_callIds no id
      have yesOn := @mem_ids_of_mem_branchIds yes id
      have noOn := @mem_ids_of_mem_branchIds no id
      simp only [ids, List.nodup_cons, List.nodup_append, List.mem_append] at distinct
      simp only [branchIds, List.mem_cons, List.mem_append] at h
      simp only [callIds, List.mem_append]
      grind
  | case4 span inner ih => exact ih distinct h
  | case5 => simp_all [branchIds]

/-! ## Sending identities through a function -/

@[simp] theorem parts_mapIds (f : NodeId → NodeId) (node : Node) :
    (node.mapIds f).parts = mapIdsAll f node.parts := by
  cases node <;> simp [mapIds, mapIdsAll, parts]

@[simp] theorem id?_mapIds (f : NodeId → NodeId) (node : Node) :
    (node.mapIds f).id? = node.id?.map f := by
  cases node <;> rfl

@[simp] theorem isCall_mapIds (f : NodeId → NodeId) (node : Node) :
    (node.mapIds f).isCall = node.isCall := by
  cases node <;> rfl

@[simp] theorem span_mapIds (f : NodeId → NodeId) (node : Node) :
    (node.mapIds f).span = node.span := by
  cases node <;> rfl

@[simp] theorem isSpread_mapIds (f : NodeId → NodeId) (node : Node) :
    (node.mapIds f).isSpread = node.isSpread := by
  cases node with
  | unary span form inner => cases form <;> rfl
  | _ => rfl

@[simp] theorem shape_mapIds (f : NodeId → NodeId) (node : Node) :
    (node.mapIds f).shape = node.shape := by
  induction node using shape.induct with
  | case4 span inner ih => exact ih
  | case5 node => cases node <;> simp_all [mapIds, shape]
  | _ => rfl

theorem length_mapIdsAll (f : NodeId → NodeId) (nodes : List Node) :
    (mapIdsAll f nodes).length = nodes.length := by
  induction nodes with
  | nil => rfl
  | cons node rest ih => simp [mapIdsAll, ih]

theorem mapIds_withParts (f : NodeId → NodeId) (node : Node) (ps : List Node) :
    (node.withParts ps).mapIds f = (node.mapIds f).withParts (mapIdsAll f ps) := by
  cases node <;> rcases ps with _ | ⟨p, _ | ⟨q, _ | ⟨r, _ | ⟨x, ps⟩⟩⟩⟩ <;> rfl

theorem idsAll_mapIdsAll (f : NodeId → NodeId) (nodes : List Node) :
    idsAll (mapIdsAll f nodes) = (idsAll nodes).map f := by
  induction nodes using forestInduction with
  | nil => rfl
  | cons node rest inside after =>
      rw [mapIdsAll, idsAll, idsAll, List.map_append, after, ids_eq_parts, ids_eq_parts,
        parts_mapIds, inside, id?_mapIds, List.map_append]
      cases node.id? <;> rfl

theorem callIdsAll_mapIdsAll (f : NodeId → NodeId) (nodes : List Node) :
    callIdsAll (mapIdsAll f nodes) = (callIdsAll nodes).map f := by
  induction nodes using forestInduction with
  | nil => rfl
  | cons node rest inside after =>
      rw [mapIdsAll, callIdsAll, callIdsAll, List.map_append, after, callIds_eq_parts,
        callIds_eq_parts, parts_mapIds, inside, isCall_mapIds, idsAll_mapIdsAll]
      split <;> rfl

theorem callsAll_mapIdsAll (f : NodeId → NodeId) (nodes : List Node) :
    callsAll (mapIdsAll f nodes) = (callsAll nodes).map (mapIds f) := by
  induction nodes using forestInduction with
  | nil => rfl
  | cons node rest inside after =>
      rw [mapIdsAll, callsAll, callsAll, List.map_append, after, calls_eq_parts, calls_eq_parts,
        parts_mapIds, inside, isCall_mapIds]
      split <;> rfl

theorem mapIdsAll_mapIdsAll (f g : NodeId → NodeId) (nodes : List Node) :
    mapIdsAll f (mapIdsAll g nodes) = mapIdsAll (fun id => f (g id)) nodes := by
  induction nodes using forestInduction with
  | nil => rfl
  | cons node rest inside after =>
      rw [mapIdsAll, mapIdsAll, mapIdsAll, after]
      congr 1
      cases node <;> simp_all [mapIds, mapIdsAll, parts]

/-- Identities that are forgotten may as well be exchanged before. -/
theorem anonymousAll_mapIdsAll (f : NodeId → NodeId) (nodes : List Node) :
    anonymousAll (mapIdsAll f nodes) = anonymousAll nodes :=
  mapIdsAll_mapIdsAll _ f nodes

theorem anonymous_mapIds (f : NodeId → NodeId) (node : Node) :
    (node.mapIds f).anonymous = node.anonymous := by
  simpa [anonymousAll, mapIdsAll, anonymous] using anonymousAll_mapIdsAll f [node]

/-- What does not depend on identities is the same for nodes that are equal up to identities. -/
theorem eq_of_anonymous {β : Type} {f : Node → β}
    (natural : ∀ g node, f (node.mapIds g) = f node) {node other : Node}
    (same : node.anonymous = other.anonymous) : f node = f other := by
  rw [← natural (fun _ => 0) node, ← natural (fun _ => 0) other]
  exact congrArg f same

end Node

end ImageFallback
