import ImageFallback.Proofs.Swap.Argument
import ImageFallback.Proofs.Swap.Freshness

/-!
# What exactly a change settles

A change settles the root of its result and, from there on, what the branches of the conditionals
that it built lead to, and nothing else (`Swaps.mem_visited_iff`). A conditional was built by the
change when its identity was not in use before. Whatever stands in the test of a conditional or in
an expression of a template is `hidden` from the change. It is settled afterwards only if it was
settled before, in the tree that was given as well as in the copy that the result holds, so that a
call of the loader in there can still be handled.

The supply lies above the identities in use. This is what the states that a swapper can reach have
in common (`Reachable.bounded`), and it tells the nodes of the tree from those of its result.
-/

namespace ImageFallback

open Node

namespace Node

/-- The identity of a node and of those that branches of conditionals lead to, as long as the
conditionals have identities from `bound` on. -/
def reachedIds (bound : NodeId) : Node → List NodeId
  | conditional id _ _ yes no =>
    if bound ≤ id then id :: (reachedIds bound yes ++ reachedIds bound no) else [id]
  | node => node.id?.toList

mutual

/-- The tests of conditionals and the expressions of templates, wherever these stand in a node. -/
def hidden : Node → List Node
  | template _ _ _ parts => parts
  | conditional _ _ test yes no => test :: (hidden yes ++ hidden no)
  | paren _ inner => hidden inner
  | call _ callee arguments _ => hidden callee ++ hiddenAll arguments
  | unary _ _ inner => hidden inner
  | binary _ _ left right => hidden left ++ hidden right
  | group _ _ items => hiddenAll items
  | text .. | name .. | atom .. => []

/-- The tests of conditionals and the expressions of templates, wherever these stand in the
nodes. -/
def hiddenAll : List Node → List Node
  | [] => []
  | node :: rest => hidden node ++ hiddenAll rest

end

theorem idsAll_append (nodes others : List Node) :
    idsAll (nodes ++ others) = idsAll nodes ++ idsAll others := by
  induction nodes with
  | nil => rfl
  | cons node rest ih => simp [idsAll, ih]

theorem idsAll_hiddenAll_subset (nodes : List Node) :
    idsAll (hiddenAll nodes) ⊆ idsAll nodes := by
  induction nodes using forestInduction with
  | nil => exact fun _ mem => mem
  | cons node rest inside after =>
      have first : idsAll node.hidden ⊆ node.ids := by
        rw [ids_eq_parts]
        refine List.subset_append_of_subset_right _ ?_
        cases node with
        | template => exact fun _ mem => mem
        | conditional own span test yes no =>
            intro id
            have branches := @inside id
            simp only [hidden, hiddenAll, parts, idsAll, idsAll_append,
              List.mem_append] at branches ⊢
            grind
        | text | name | atom => simp [hidden, idsAll]
        | paren | call | unary | binary | group =>
            simpa [hidden, hiddenAll, parts] using inside
      rw [hiddenAll, idsAll_append, idsAll]
      exact List.append_subset.2 ⟨List.subset_append_of_subset_left _ first,
        List.subset_append_of_subset_right _ after⟩

theorem mem_ids_of_mem_hidden {node : Node} {id : NodeId} (h : id ∈ idsAll node.hidden) :
    id ∈ node.ids := by
  have mem := @idsAll_hiddenAll_subset [node] id
  simp only [hiddenAll, idsAll, List.append_nil] at mem
  exact mem h

/-- In a tree whose identities are distinct, a node on a branch is not hidden. -/
theorem not_mem_hidden_of_mem_branchIds {node : Node} {id : NodeId} (distinct : node.ids.Nodup)
    (h : id ∈ node.branchIds) : id ∉ idsAll node.hidden := by
  induction node using branchIds.induct with
  | case1 => simp [hidden, idsAll]
  | case2 own span quasis parts =>
      rw [branchIds, List.mem_singleton] at h
      subst h
      exact (List.nodup_cons.1 distinct).1
  | case3 own span test yes no ihYes ihNo =>
      have yesIn := @mem_ids_of_mem_hidden yes id
      have noIn := @mem_ids_of_mem_hidden no id
      have yesOn := @mem_ids_of_mem_branchIds yes id
      have noOn := @mem_ids_of_mem_branchIds no id
      simp only [ids, List.nodup_cons, List.nodup_append, List.mem_append] at distinct
      simp only [branchIds, List.mem_cons, List.mem_append] at h
      simp only [hidden, idsAll, idsAll_append, List.mem_append]
      grind
  | case4 span inner ih => exact ih distinct h
  | case5 => simp_all [branchIds]

theorem mem_branchIds_of_mem_reachedIds {bound id : NodeId} {node : Node}
    (h : id ∈ node.reachedIds bound) : id ∈ node.branchIds := by
  fun_induction reachedIds bound node with
  | case1 own span test yes no built ihYes ihNo =>
      simp only [branchIds, List.mem_cons, List.mem_append] at h ⊢
      grind
  | case2 own span test yes no old => simp_all [branchIds]
  | case3 node notConditional =>
      exact mem_branchIds_of_id? (Option.mem_toList.1 h)

/-- A bound may be moved as long as no identity of the node lies between the two places. -/
theorem reachedIds_congr {low high : NodeId} {node : Node} (le : low ≤ high)
    (apart : ∀ id ∈ node.ids, id < low ∨ high ≤ id) :
    node.reachedIds low = node.reachedIds high := by
  fun_induction reachedIds low node with
  | case1 own span test yes no built ihYes ihNo =>
      have own' : high ≤ own := (apart own (by simp [ids])).resolve_left (Nat.not_lt.2 built)
      rw [reachedIds, if_pos own', ihYes fun id mem => apart id (by simp [ids, mem]),
        ihNo fun id mem => apart id (by simp [ids, mem])]
  | case2 own span test yes no old =>
      have old' : ¬ high ≤ own := fun built => old (Nat.le_trans le built)
      rw [reachedIds, if_neg old']
  | case3 node notConditional =>
      rw [reachedIds]
      exact notConditional

/-- A node that was there before the bound is reached alone. -/
theorem reachedIds_of_lt {bound : NodeId} {node : Node} (below : ∀ id ∈ node.ids, id < bound) :
    node.reachedIds bound = node.id?.toList := by
  cases node with
  | conditional own span test yes no =>
      have old : ¬ bound ≤ own := Nat.not_le.2 (below own (by simp [ids]))
      rw [reachedIds, if_neg old]
      rfl
  | _ => rfl

theorem mem_idsAll_of_mem {nodes : List Node} {node : Node} {id : NodeId} (mem : node ∈ nodes)
    (own : id ∈ node.ids) : id ∈ idsAll nodes := by
  induction nodes with
  | nil => cases mem
  | cons first rest ih =>
      rw [idsAll, List.mem_append]
      rcases List.mem_cons.1 mem with rfl | mem
      · exact Or.inl own
      · exact Or.inr (ih mem)

theorem mem_idsAll_of_mem_callsAll {nodes : List Node} {span : Span} {callee argument : Node}
    {arguments : List Node} {optional : Bool} {id : NodeId}
    (found : .call span callee arguments optional ∈ callsAll nodes) (mem : argument ∈ arguments)
    (own : argument.id? = some id) : id ∈ idsAll nodes := by
  induction nodes using callInduction with
  | nil => cases found
  | inert node rest notCall inside after =>
      rw [callsAll, List.mem_append, calls_eq_parts, notCall] at found
      rw [idsAll, List.mem_append, ids_eq_parts, List.mem_append]
      exact found.imp (fun found => Or.inr (inside found)) after
  | call span' callee' arguments' optional' rest inside after =>
      rw [callsAll, List.mem_append, calls_eq_parts, isCall, if_pos rfl, List.mem_cons] at found
      rw [idsAll, List.mem_append]
      rcases found with (same | found) | found
      · cases same
        have inArgument : id ∈ argument.ids := mem_ids_of_mem_branchIds (mem_branchIds_of_id? own)
        exact Or.inl (mem_idsAll_of_mem (List.mem_cons_of_mem callee mem) inArgument)
      · exact Or.inl (inside found)
      · exact Or.inr (after found)

end Node

namespace Config

@[simp] theorem ids_supportTest (config : Config) : config.supportTest.ids = [] :=
  config.supportTest_induction (motive := fun node => node.ids = []) rfl
    fun _ _ h => by simpa [ids] using h

end Config

namespace Swapper

/-- The states of a swapper that started with nothing settled: it may be given trees whose
identities are in use, and nodes made elsewhere may take identities from the supply. -/
inductive Reachable (config : Config) : Swapper → Prop where
  | start (supply : NodeId) : Reachable config { supply := supply }
  | swap {s : Swapper} (tree : Node) (before : Reachable config s)
      (inUse : ∀ id ∈ tree.ids, id < s.supply) : Reachable config (s.swap config tree).2
  | take {s : Swapper} (taken : Nat) (events : List Event) (before : Reachable config s) :
      Reachable config { s with supply := s.supply + taken, events := events }

theorem Reachable.bounded {config : Config} {s : Swapper} (h : Reachable config s) :
    s.Bounded := by
  induction h with
  | start supply => exact fun id mem => by cases mem
  | @swap s tree before inUse ih =>
      have onBranches : ∀ id ∈ tree.branchIds, id < s.supply :=
        fun id mem => inUse id (mem_ids_of_mem_branchIds mem)
      exact ((swap_swaps config tree s).advance onBranches).bounded ih onBranches
  | take taken events before ih => exact fun id mem => Nat.lt_add_right taken (ih id mem)

end Swapper

namespace Swaps

variable {config : Config} {node node' : Node} {s s' : Swapper}

/-- The identities of a result are those of the tree and new ones. -/
theorem ids_within (h : Swaps config node s node' s') (below : ∀ id ∈ node.ids, id < s.supply) :
    ∀ id ∈ node'.ids, id ∈ node.ids ∨ s.supply ≤ id ∧ id < s'.supply := by
  induction h with
  | settled | other | kept => exact fun id mem => Or.inl mem
  | paren h inside ih => exact ih below
  | text => simp only [ids, Config.ids_supportTest]; grind
  | @template id span quasis parts s events fresh h =>
      have low : id < s.supply := below id (by simp [ids])
      simp only [ids, Config.ids_supportTest, idsAll_mapIdsAll] at below ⊢
      grind
  | @conditional id span test yes no yes' no' s s₁ s₂ fresh h first second ihYes ihNo =>
      have h₁ := first.supply_le
      have h₂ := second.supply_le
      simp only [ids, List.mem_cons, List.mem_append] at below ihYes ihNo ⊢
      grind

/-- The identities of a result are distinct if those of the tree are. -/
theorem nodup_ids (h : Swaps config node s node' s') (below : ∀ id ∈ node.ids, id < s.supply)
    (distinct : node.ids.Nodup) : node'.ids.Nodup := by
  induction h with
  | settled | other | kept => exact distinct
  | paren h inside ih => exact ih below distinct
  | text => simp only [ids, Config.ids_supportTest] at below ⊢; grind
  | @template id span quasis parts s events fresh h =>
      have copied := Swapper.nodup_copied_append distinct below
      simp only [ids, Config.ids_supportTest, idsAll_mapIdsAll, List.nil_append]
      refine List.nodup_cons.2 ⟨fun mem => ?_, copied⟩
      -- The identity of the conditional lies above those of the template and of its copy.
      rcases List.mem_append.1 mem with copy | mem
      · have copy : s.supply + s.supply ∈ (id :: idsAll parts).map (s.supply + ·) := copy
        obtain ⟨original, found, same⟩ := List.mem_map.1 copy
        exact Nat.lt_irrefl _ (Nat.add_left_cancel same ▸ below original found)
      · exact Nat.not_lt.2 (Nat.le_add_right _ _) (below _ mem)
  | @conditional id span test yes no yes' no' s s₁ s₂ fresh h first second ihYes ihNo =>
      have h₁ := first.supply_le
      have h₂ := second.supply_le
      have withinYes := first.ids_within
      have withinNo := second.ids_within
      simp only [ids, List.nodup_cons, List.nodup_append, List.mem_cons, List.mem_append] at *
      grind

/-- After a change exactly what was settled before is settled, and what the result reaches. -/
theorem mem_visited_iff (h : Swaps config node s node' s') (below : ∀ id ∈ node.ids, id < s.supply)
    (id : NodeId) :
    id ∈ s'.visited.ids ↔ id ∈ s.visited.ids ∨ id ∈ node'.reachedIds s.supply := by
  induction h with
  | settled h =>
      obtain ⟨own, isOwn, settled⟩ := (Visited.contains_iff _ _).1 h
      rw [reachedIds_of_lt below, isOwn]
      grind
  | other h => simp [reachedIds_of_lt below, id?_eq_none_of_shape h]
  | paren h inside ih => exact ih below
  | kept events own fresh h => simp [reachedIds_of_lt below, own, or_comm]
  | text => simp [reachedIds, id?]; grind
  | template => simp [reachedIds, id?]; grind
  | @conditional own span test yes no yes' no' s s₁ s₂ fresh h first second ihYes ihNo =>
      have h₁ := first.supply_le
      have h₂ := second.supply_le
      have belowNo : ∀ id ∈ no.ids, id < s₁.supply :=
        fun id mem => Nat.lt_of_lt_of_le (below id (by simp [ids, mem])) h₁
      -- What the second branch builds is new for the first state as well.
      have moved : no'.reachedIds s.supply = no'.reachedIds s₁.supply := by
        refine reachedIds_congr h₁ fun id mem => ?_
        refine (second.ids_within belowNo id mem).imp (fun old => ?_) And.left
        exact below id (by simp [ids, old])
      rw [reachedIds, if_pos (Nat.le_trans h₁ h₂), moved, Visited.mem_insert, ihNo belowNo,
        ihYes fun id mem => below id (by simp [ids, mem])]
      simp only [List.mem_cons, List.mem_append]
      grind

/-- What is hidden in the tree or in the result is settled afterwards only if it was before. -/
theorem visited_of_hidden (h : Swaps config node s node' s')
    (below : ∀ id ∈ node.ids, id < s.supply) (distinct : node.ids.Nodup) {id : NodeId}
    (mem : id ∈ idsAll (node.hidden ++ node'.hidden)) (settled : id ∈ s'.visited.ids) :
    id ∈ s.visited.ids := by
  rw [idsAll_append, List.mem_append] at mem
  rcases mem with inTree | inResult
  · have low : id < s.supply := below id (mem_ids_of_mem_hidden inTree)
    have advance := h.advance fun id mem => below id (mem_ids_of_mem_branchIds mem)
    rcases advance.marks id settled with old | onBranch | ⟨new, -⟩
    · exact old
    · exact (not_mem_hidden_of_mem_branchIds distinct onBranch inTree).elim
    · exact (Nat.not_le_of_lt low new).elim
  · rcases (h.mem_visited_iff below id).1 settled with old | reached
    · exact old
    · have onBranch := mem_branchIds_of_mem_reachedIds reached
      exact (not_mem_hidden_of_mem_branchIds (h.nodup_ids below distinct) onBranch inResult).elim

end Swaps

/-- A change settles exactly the root of its result and what the branches of the conditionals that
it built lead to. Nothing in the test of a conditional or in an expression of a template is settled
by it, and no copy of such a thing is settled at all, so that a call of the loader in there is met
as it would have been. -/
theorem swap_settles_reached {config : Config} {s : Swapper} {tree : Node}
    (reachable : s.Reachable config) (inUse : ∀ id ∈ tree.ids, id < s.supply)
    (distinct : tree.ids.Nodup) :
    let result := (s.swap config tree).1
    let s' := (s.swap config tree).2
    (∀ id ∈ s.visited.ids, id ∈ s'.visited.ids) ∧
      (∀ id, id ∈ s'.visited.ids ∧ id ∉ s.visited.ids ↔
        id ∈ result.reachedIds s.supply ∧ id ∉ s.visited.ids) ∧
      (∀ id ∈ idsAll (tree.hidden ++ result.hidden),
        id ∈ s'.visited.ids → id ∈ s.visited.ids ∧ id < s.supply) ∧
      ∀ span callee arguments optional argument,
        .call span callee arguments optional ∈ callsAll (tree.hidden ++ result.hidden) →
        config.loaderArgument? callee arguments = some argument →
          s'.visited.contains argument = s.visited.contains argument := by
  intro result s'
  have swaps : Swaps config tree s result s' := Swapper.swap_swaps config tree s
  have visited := swaps.mem_visited_iff inUse
  refine ⟨fun id old => (visited id).2 (Or.inl old), ?_, ?_, ?_⟩
  · intro id
    rw [visited id]
    tauto
  · intro id mem settled
    have old := swaps.visited_of_hidden inUse distinct mem settled
    exact ⟨old, reachable.bounded id old⟩
  · intro span callee arguments optional argument found isArgument
    rw [Bool.eq_iff_iff, Visited.contains_iff, Visited.contains_iff]
    refine exists_congr fun id => and_congr_right fun own => ?_
    have only : argument ∈ arguments := by
      rw [Config.loaderArgument?_eq_some isArgument]
      exact List.mem_singleton_self argument
    have mem := mem_idsAll_of_mem_callsAll found only own
    exact ⟨swaps.visited_of_hidden inUse distinct mem, fun old => (visited id).2 (Or.inl old)⟩

/-- A conditional with a call in its test, a settled text and a template with a call in it. -/
theorem swap_settles_reached_branches :
    let config : Config := {}
    let call (id : NodeId) (path : String) : Node :=
      .call {} (.name {} "require") [.text id {} path false] false
    let s := (Swapper.swap config (.text 0 {} "./a.png" false) { supply := 6 }).2
    let tree : Node := .conditional 1 {} (call 2 "./b.png") (.text 0 {} "./a.png" false)
      (.template 3 {} [⟨"./", some "./", false, {}⟩, ⟨".png", some ".png", false, {}⟩]
        [call 4 "./c.png"])
    let s' := (s.swap config tree).2
    s.Reachable config ∧ (∀ id ∈ tree.ids, id < s.supply) ∧ tree.ids.Nodup ∧
      (∀ id ∈ [3, 11, 16, 17], id ∈ s'.visited.ids ∧ id ∉ s.visited.ids) ∧
      ∀ id ∈ [2, 4, 12], id ∉ s'.visited.ids := by
  intro config call s tree s'
  have reachable : s.Reachable config :=
    Swapper.Reachable.swap _ (.start 6) (by decide)
  have inUse : ∀ id ∈ tree.ids, id < s.supply := by decide +kernel
  have distinct : tree.ids.Nodup := by decide +kernel
  obtain ⟨-, settled, kept, -⟩ := swap_settles_reached reachable inUse distinct
  have reached : ∀ id ∈ [3, 11, 16, 17],
      id ∈ (s.swap config tree).1.reachedIds s.supply ∧ id ∉ s.visited.ids := by decide +kernel
  have inside : ∀ id ∈ [2, 4, 12],
      id ∈ idsAll (tree.hidden ++ (s.swap config tree).1.hidden) ∧ id ∉ s.visited.ids := by
    decide +kernel
  refine ⟨reachable, inUse, distinct, fun id mem => (settled id).2 (reached id mem), ?_⟩
  intro id mem marked
  exact (inside id mem).2 (kept id (inside id mem).1 marked).1

end ImageFallback
