import ImageFallback.Proofs.Tree.Identity

/-!
# All nodes of a tree

`node.subtrees` lists a node and everything inside it, in the order in which a reader of the source
comes to it, and `countNodes p nodes` counts those of which `p` holds. A copy has the copies of the
nodes inside (`subtreesAll_mapIdsAll`), so whatever does not look at identities is counted alike in
both.
-/

namespace ImageFallback

namespace Node

mutual

/-- The node and all nodes inside it. -/
def subtrees : Node → List Node
  | text id span value lone => [text id span value lone]
  | template id span quasis parts => template id span quasis parts :: subtreesAll parts
  | conditional id span test yes no =>
    conditional id span test yes no :: (subtrees test ++ (subtrees yes ++ subtrees no))
  | paren span inner => paren span inner :: subtrees inner
  | name span value => [name span value]
  | call span callee arguments optional =>
    call span callee arguments optional :: (subtrees callee ++ subtreesAll arguments)
  | atom span value => [atom span value]
  | unary span form inner => unary span form inner :: subtrees inner
  | binary span form left right => binary span form left right :: (subtrees left ++ subtrees right)
  | group span form items => group span form items :: subtreesAll items

/-- The nodes and all nodes inside them. -/
def subtreesAll : List Node → List Node
  | [] => []
  | node :: rest => subtrees node ++ subtreesAll rest

end

theorem subtrees_eq_parts (node : Node) : node.subtrees = node :: subtreesAll node.parts := by
  cases node <;> simp [subtrees, subtreesAll, parts]

/-- The nodes inside copies are the copies of the nodes inside. -/
theorem subtreesAll_mapIdsAll (f : NodeId → NodeId) (nodes : List Node) :
    subtreesAll (mapIdsAll f nodes) = (subtreesAll nodes).map (mapIds f) := by
  induction nodes using forestInduction with
  | nil => rfl
  | cons node rest inside after =>
      rw [mapIdsAll, subtreesAll, subtrees_eq_parts, parts_mapIds, inside, after, subtreesAll,
        subtrees_eq_parts, List.map_append, List.map_cons]

/-- The number of nodes of which `p` holds, wherever they stand. -/
def countNodes (p : Node → Bool) (nodes : List Node) : Nat := (subtreesAll nodes).countP p

@[simp] theorem countNodes_nil (p : Node → Bool) : countNodes p [] = 0 := rfl

theorem countNodes_cons (p : Node → Bool) (node : Node) (rest : List Node) :
    countNodes p (node :: rest) = countNodes p [node] + countNodes p rest := by
  simp [countNodes, subtreesAll]

theorem countNodes_singleton (p : Node → Bool) (node : Node) :
    countNodes p [node] = (if p node then 1 else 0) + countNodes p node.parts := by
  simp only [countNodes, subtreesAll, subtrees_eq_parts, List.append_nil, List.countP_cons]
  omega

theorem countNodes_of_not {p : Node → Bool} {node : Node} (h : p node = false) :
    countNodes p [node] = countNodes p node.parts := by
  rw [countNodes_singleton, h, if_neg Bool.false_ne_true, Nat.zero_add]

theorem countNodes_conditional (p : Node → Bool) (id : NodeId) (span : Span)
    (test yes no : Node) :
    countNodes p [conditional id span test yes no] =
      (if p (conditional id span test yes no) then 1 else 0) +
        (countNodes p [test] + (countNodes p [yes] + countNodes p [no])) := by
  rw [countNodes_singleton, parts, countNodes_cons, countNodes_cons p yes]

/-- Copies are counted like the nodes that they are copies of. -/
theorem countNodes_mapIdsAll {p : Node → Bool} {f : NodeId → NodeId}
    (natural : ∀ node, p (node.mapIds f) = p node) (nodes : List Node) :
    countNodes p (mapIdsAll f nodes) = countNodes p nodes := by
  have same : p ∘ mapIds f = p := funext natural
  rw [countNodes, subtreesAll_mapIdsAll, List.countP_map, same, countNodes]

end Node

end ImageFallback
