import ImageFallback.Proofs.Swap.Argument
import ImageFallback.Proofs.Swap.Freshness

/-!
# Changing a program without a memory

`Config.plainSwap` is what a change of an argument comes to when nothing is settled: it keeps no
state, and a new node takes the identity of the node that it is made of, since identities are to be
ignored here. `Config.expand` is the plain recursion over a program. At a call of the loader it puts
the changed argument into the place of the argument, unless a comment keeps it, and then goes on
into the callee and the arguments as they are now. It ends because a change does not make calls lie
deeper (`callDepth_plainSwap`).

Going on into a changed argument is the same as changing an argument that was gone into before
(`expand_plainSwap`), since a change looks at no node inside a call and a walk changes no node
outside of one. So `expand` is also given by a recursion on the tree alone (`expand_call`).
-/

namespace ImageFallback

open Node

@[simp] theorem Config.callDepth_supportTest (config : Config) :
    config.supportTest.callDepth = 0 :=
  config.supportTest_induction (motive := fun node => node.callDepth = 0) rfl
    fun _ _ h => by simpa [callDepth] using h

@[simp] theorem Config.mapIds_supportTest (config : Config) (f : NodeId → NodeId) :
    config.supportTest.mapIds f = config.supportTest :=
  config.supportTest_induction (motive := fun node => node.mapIds f = node) rfl
    fun _ _ h => by simpa [mapIds] using h

namespace Config

/-- The node that takes the place of a loader argument when nothing is settled. -/
def plainSwap (config : Config) : Node → Node
  | .paren span inner => if inner.shape = .other then .paren span inner else plainSwap config inner
  | .text id span value lone =>
    if config.changes (.text id span value lone) then
      .conditional id span config.supportTest
        (.text id span (config.extensions.swapPath value) false) (.text id span value lone)
    else .text id span value lone
  | .template id span quasis parts =>
    if config.changes (.template id span quasis parts) then
      .conditional id span config.supportTest
        (.template id span (quasis.map (Swapper.swapQuasi config.extensions)) parts)
        (.template id span quasis parts)
    else .template id span quasis parts
  | .conditional id span test yes no =>
    if config.shapes.conditional then
      .conditional id span test (plainSwap config yes) (plainSwap config no)
    else .conditional id span test yes no
  | node => node

theorem callDepth_plainSwap (config : Config) (node : Node) :
    (config.plainSwap node).callDepth = node.callDepth := by
  fun_induction plainSwap config node with
  | case2 span inner h ih => rw [ih, callDepth]
  | case3 | case5 => simp [callDepth]
  | case7 id span test yes no h ihYes ihNo => simp [callDepth, ihYes, ihNo]
  | _ => rfl

theorem callDepthAll_onArgument (config : Config) (remarks : List Remark) (span : Span)
    (callee : Node) (arguments : List Node) :
    callDepthAll (config.onArgument remarks config.plainSwap span callee arguments) =
      callDepthAll arguments := by
  apply onArgument_induction (motive := fun changed => callDepthAll changed = _)
  · rfl
  · rintro argument rfl
    simp [callDepthAll, callDepth_plainSwap]

/-- A step of the recursion goes to calls that lie less deep, or to a smaller tree. -/
theorem lex_of_depth_or_size {depth depth' size size' : Nat}
    (h : depth < depth' ∨ depth ≤ depth' ∧ size < size') :
    Prod.Lex (· < ·) (· < ·) (depth, size) (depth', size') := by
  rw [Prod.lex_def]
  omega

mutual

/-- The node with the argument of every call of the loader changed, a call before the calls inside
it. -/
def expand (config : Config) (remarks : List Remark) : Node → Node
  | .text id span value lone => .text id span value lone
  | .template id span quasis parts => .template id span quasis (expandAll config remarks parts)
  | .conditional id span test yes no =>
    .conditional id span (expand config remarks test) (expand config remarks yes)
      (expand config remarks no)
  | .paren span inner => .paren span (expand config remarks inner)
  | .name span value => .name span value
  | .call span callee arguments optional =>
    .call span (expand config remarks callee)
      (expandAll config remarks
        (config.onArgument remarks config.plainSwap span callee arguments)) optional
  | .atom span value => .atom span value
  | .unary span form inner => .unary span form (expand config remarks inner)
  | .binary span form left right =>
    .binary span form (expand config remarks left) (expand config remarks right)
  | .group span form items => .group span form (expandAll config remarks items)
termination_by node => (node.callDepth, sizeOf node)
decreasing_by
  all_goals
    apply lex_of_depth_or_size
    simp only [callDepth, callDepthAll_onArgument, template.sizeOf_spec, conditional.sizeOf_spec,
      paren.sizeOf_spec, call.sizeOf_spec, unary.sizeOf_spec, binary.sizeOf_spec,
      group.sizeOf_spec]
    omega

/-- The nodes with the argument of every call of the loader changed. -/
def expandAll (config : Config) (remarks : List Remark) : List Node → List Node
  | [] => []
  | node :: rest => expand config remarks node :: expandAll config remarks rest
termination_by nodes => (callDepthAll nodes, sizeOf nodes)
decreasing_by
  all_goals
    apply lex_of_depth_or_size
    simp only [callDepthAll, List.cons.sizeOf_spec]
    omega

end

variable (config : Config) (remarks : List Remark)

/-! ## What the recursion leaves as it is -/

theorem expand_of_not_call {node : Node} (h : node.isCall = false) :
    config.expand remarks node = node.withParts (config.expandAll remarks node.parts) := by
  cases node with
  | call => cases h
  | _ => simp [expand, expandAll, parts, withParts]

theorem sameHead_expandAll (nodes : List Node) :
    List.Forall₂ SameHead nodes (config.expandAll remarks nodes) := by
  induction nodes using callInduction with
  | nil => simp [expandAll]
  | inert node rest notCall inside after =>
      rw [expandAll, expand_of_not_call config remarks notCall]
      exact List.Forall₂.cons (sameHead_withParts inside) after
  | call span callee arguments optional rest inside after =>
      rw [expandAll, expand]
      exact List.Forall₂.cons (sameHead_call _ _ _ _ _ _ _) after

theorem sameHead_expand (node : Node) : SameHead node (config.expand remarks node) := by
  have heads := config.sameHead_expandAll remarks [node]
  rw [expandAll] at heads
  exact (List.forall₂_cons.1 heads).1

@[simp] theorem shape_expand (node : Node) : (config.expand remarks node).shape = node.shape :=
  (config.sameHead_expand remarks node).shape

@[simp] theorem expand_supportTest :
    config.expand remarks config.supportTest = config.supportTest :=
  config.supportTest_induction (motive := fun node => config.expand remarks node = node)
    (by simp [expand]) fun _ _ h => by simp [expand, h]

theorem plainSwap_of_shape {node : Node} (h : node.shape = .other) :
    config.plainSwap node = node := by
  cases node <;> simp_all [plainSwap, shape]

/-- Going on into a changed argument is changing an argument that was gone into. -/
theorem expand_plainSwap (node : Node) :
    config.expand remarks (config.plainSwap node) =
      config.plainSwap (config.expand remarks node) := by
  induction node using plainSwap.induct config with
  | case1 span inner h => simp [plainSwap, expand, h]
  | case2 span inner h ih => simp [plainSwap, expand, h, ih]
  | case3 id span value lone h => simp [plainSwap, expand, h]
  | case4 id span value lone h => simp [plainSwap, expand, h]
  | case5 id span quasis parts h =>
      have same : config.changes (.template id span quasis (config.expandAll remarks parts)) =
          true := h
      simp [plainSwap, expand, h, same]
  | case6 id span quasis parts h =>
      have same : ¬config.changes (.template id span quasis (config.expandAll remarks parts)) =
          true := h
      simp [plainSwap, expand, h, same]
  | case7 id span test yes no h ihYes ihNo => simp [plainSwap, expand, h, ihYes, ihNo]
  | case8 id span test yes no h => simp [plainSwap, expand, h]
  | case9 node notParen notText notTemplate notConditional =>
      have other := shape_eq_other notParen notText notTemplate notConditional
      rw [plainSwap_of_shape config other,
        plainSwap_of_shape config ((shape_expand config remarks node).trans other)]

/-- The recursion on the tree alone: the arguments are gone into before they are changed. -/
theorem expand_call (span : Span) (callee : Node) (arguments : List Node) (optional : Bool) :
    config.expand remarks (.call span callee arguments optional) =
      .call span (config.expand remarks callee)
        (config.onArgument remarks config.plainSwap span callee
          (config.expandAll remarks arguments))
        optional := by
  rw [expand]
  congr 1
  have heads := config.sameHead_expandAll remarks arguments
  rcases config.onArgument_sameHead remarks config.plainSwap config.plainSwap span callee heads with
    ⟨kept, kept'⟩ | ⟨argument, argument', one, one', changed, changed'⟩
  · rw [kept, kept']
  · rw [changed, changed']
    subst one
    simp_all [expandAll, expand_plainSwap]

/-! ## Identities do not matter -/

theorem changes_mapIds (f : NodeId → NodeId) (node : Node) :
    config.changes (node.mapIds f) = config.changes node := by
  cases node <;> rfl

theorem plainSwap_mapIds (f : NodeId → NodeId) (node : Node) :
    config.plainSwap (node.mapIds f) = (config.plainSwap node).mapIds f := by
  induction node using plainSwap.induct config with
  | case1 span inner h => simp [plainSwap, mapIds, h]
  | case2 span inner h ih => simp [plainSwap, mapIds, h, ih]
  | case3 id span value lone h | case4 id span value lone h =>
      have same := changes_mapIds config f (.text id span value lone)
      simp only [mapIds, h] at same
      simp [plainSwap, mapIds, h, same]
  | case5 id span quasis parts h | case6 id span quasis parts h =>
      have same := changes_mapIds config f (.template id span quasis parts)
      simp only [mapIds, h] at same
      simp [plainSwap, mapIds, h, same]
  | case7 id span test yes no h ihYes ihNo => simp [plainSwap, mapIds, h, ihYes, ihNo]
  | case8 id span test yes no h => simp [plainSwap, mapIds, h]
  | case9 node notParen notText notTemplate notConditional =>
      have other := shape_eq_other notParen notText notTemplate notConditional
      rw [plainSwap_of_shape config other,
        plainSwap_of_shape config ((shape_mapIds f node).trans other)]

theorem expandAll_mapIdsAll (f : NodeId → NodeId) (nodes : List Node) :
    config.expandAll remarks (mapIdsAll f nodes) = mapIdsAll f (config.expandAll remarks nodes) := by
  induction nodes using callInduction with
  | nil => simp [expandAll, mapIdsAll]
  | inert node rest notCall inside after =>
      have notCall' : (node.mapIds f).isCall = false := by simpa using notCall
      rw [mapIdsAll, expandAll, expandAll, mapIdsAll, after,
        expand_of_not_call config remarks notCall, expand_of_not_call config remarks notCall',
        mapIds_withParts, ← inside, parts_mapIds]
  | call span callee arguments optional rest inside after =>
      simp only [mapIdsAll, expandAll, List.cons.injEq] at inside
      rw [mapIdsAll, expandAll, expandAll, mapIdsAll, after, mapIds, expand_call, expand_call,
        mapIds, inside.1, inside.2, onArgument_mapIds f (plainSwap_mapIds config f)]

/-- Trees that are equal up to identities are expanded to trees that are. -/
theorem anonymousAll_expandAll_congr {xs ys : List Node}
    (h : anonymousAll xs = anonymousAll ys) :
    anonymousAll (config.expandAll remarks xs) = anonymousAll (config.expandAll remarks ys) := by
  rw [anonymousAll, anonymousAll, ← expandAll_mapIdsAll, ← expandAll_mapIdsAll]
  exact congrArg (config.expandAll remarks) h

end Config

namespace Swaps

open Swapper

variable {config : Config} {node node' : Node} {s s' : Swapper}

/-- A node with an identity that is not to be changed is left as it is. -/
theorem plainSwap_of_not_changes {id : NodeId} (own : node.id? = some id)
    (h : config.changes node = false) : config.plainSwap node = node := by
  cases node <;> simp_all [id?, Config.changes, Config.plainSwap]

/-- Where nothing is settled on the branches, a change is the plain one up to identities. -/
theorem anonymous_eq (h : Swaps config node s node' s')
    (unsettled : s.Unsettled node.branchIds) :
    node'.anonymous = (config.plainSwap node).anonymous := by
  induction h with
  | @settled node s h =>
      obtain ⟨id, own, marked⟩ := (Visited.contains_iff _ _).1 h
      exact (unsettled.unmarked id (mem_branchIds_of_id? own) marked).elim
  | other h => rw [Config.plainSwap_of_shape config h]
  | paren h inside ih =>
      rw [ih unsettled, Config.plainSwap, if_neg h]
  | kept events own fresh h => rw [plainSwap_of_not_changes own h]
  | text events fresh h => simp [Config.plainSwap, h, anonymous, mapIds]
  | template events fresh h =>
      simp [Config.plainSwap, h, anonymous, mapIds, mapIdsAll_mapIdsAll]
  | @conditional id span test yes no yes' no' s s₁ s₂ fresh h first second ihYes ihNo =>
      have both : s.Unsettled (yes.branchIds ++ no.branchIds) :=
        unsettled.sublist (List.sublist_cons_self _ _)
      have ofYes := both.sublist (List.sublist_append_left _ _)
      have ofNo : s₁.Unsettled no.branchIds := both.after (first.advance ofYes.below)
      have enabled : config.shapes.conditional = true := h
      simp only [Config.plainSwap, enabled, if_pos, anonymous, mapIds]
      congr 1
      · exact ihYes ofYes
      · exact ihNo ofNo

end Swaps

end ImageFallback
