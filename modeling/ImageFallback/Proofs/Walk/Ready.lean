import ImageFallback.Proofs.Walk.Forest

/-!
# Trees that a walk has not seen

A walk over trees is `Ready` when no identity inside their calls is settled, and all of them are
distinct and lie below the supply. A new pass is ready for every program whose identities are
distinct. A walk that is ready stays so: for the parts of a node once it is handled, whether they
are parts of the program or were made by handling it, and for the trees that come after the node.
It touches the identities inside calls of its trees only.

After an error a walk changes nothing, so a walk without an error at its end had none before.
-/

namespace ImageFallback

open Node Swapper

/-- A program whose identities are distinct and lie below the supply. -/
structure Numbered (body : List Node) (supply : NodeId) : Prop where
  distinct : (idsAll body).Nodup
  below : ∀ id ∈ idsAll body, id < supply

namespace Node

/-- Numbering a node gives the first number to the node itself, if it has an identity, and the
numbers after it to its parts. -/
theorem ids_number (node : Node) (next : NodeId) :
    (node.number next).1.ids = node.id?.toList.map (fun _ => next) ++
        idsAll (numberAll node.parts (next + node.id?.toList.length)).1 ∧
      (node.number next).2 = (numberAll node.parts (next + node.id?.toList.length)).2 := by
  cases node <;> simp [number, numberAll, ids, idsAll, parts, id?]

/-- Numbering gives every number from `next` on once. -/
theorem idsAll_numberAll (nodes : List Node) (next : NodeId) :
    ∃ count, idsAll (numberAll nodes next).1 = List.range' next count ∧
      (numberAll nodes next).2 = next + count := by
  induction nodes using forestInduction generalizing next with
  | nil => exact ⟨0, rfl, rfl⟩
  | cons node rest inside after =>
      obtain ⟨ownIds, ownNext⟩ := ids_number node next
      obtain ⟨count, partIds, partNext⟩ := inside (next + node.id?.toList.length)
      obtain ⟨count', restIds, restNext⟩ := after (node.number next).2
      have own : node.id?.toList.map (fun _ => next) = List.range' next node.id?.toList.length := by
        cases node.id? <;> rfl
      refine ⟨node.id?.toList.length + count + count', ?_, ?_⟩
      · rw [numberAll, idsAll, restIds, ownIds, partIds, ownNext, partNext, own]
        simp [Nat.add_assoc]
      · rw [numberAll, restNext, ownNext, partNext, Nat.add_assoc, Nat.add_assoc, Nat.add_assoc]

end Node

/-- A program that is given its identities at the start is numbered. -/
theorem Runs.numbered_start (body : List Node) :
    Numbered (Runs.start body).body (Runs.start body).pass.swapper.supply := by
  obtain ⟨count, same, stop⟩ := idsAll_numberAll body 0
  constructor
  · rw [start, same]
    exact List.nodup_range'
  · intro id mem
    rw [start, same] at mem
    simpa [start, Pass.new, stop] using mem

namespace Pass

variable {config : Config} {remarks : List Remark}

/-- Nothing that a walk over the trees may have to handle is settled. -/
structure Ready (nodes : List Node) (pass : Pass) : Prop where
  bounded : pass.swapper.Bounded
  unsettled : pass.swapper.Unsettled (callIdsAll nodes)

theorem ready_new {body : List Node} {supply : NodeId} (h : Numbered body supply) :
    Ready body (Pass.new supply) := by
  refine ⟨by simp [Bounded, new, Visited.empty], ?_⟩
  have all : (Pass.new supply).swapper.Unsettled (idsAll body) :=
    ⟨h.distinct, h.below, by simp [new, Visited.empty]⟩
  exact all.sublist (callIdsAll_sublist body)

/-! ## Handling one call -/

namespace Handles

variable {span : Span} {callee : Node} {arguments handled : List Node} {pass begun : Pass}

/-- Handling a call touches the identities of its arguments only. -/
theorem advance (h : Handles config remarks span callee arguments pass handled begun)
    (unsettled : pass.swapper.Unsettled (idsAll arguments)) :
    Advance (idsAll arguments) pass.swapper begun.swapper := by
  cases h with
  | @swapped argument argument' s ok h unmarked noSkip formed swaps =>
      rw [Config.idsAll_of_loaderArgument? h] at unsettled ⊢
      refine (swaps.advance fun id mem => ?_).mono fun id mem => ?_
      · exact unsettled.below id (mem_ids_of_mem_branchIds mem)
      · exact Or.inl (mem_ids_of_mem_branchIds mem)
  | ignored => exact ⟨Nat.le_refl _, fun _ h => h, fun _ h => Or.inl h⟩
  | _ => exact Advance.refl _ _

/-- The identities inside calls of handled arguments are those of the arguments and new ones. -/
theorem callIdsAll_within (h : Handles config remarks span callee arguments pass handled begun)
    (below : ∀ id ∈ idsAll arguments, id < pass.swapper.supply) :
    ∀ id ∈ callIdsAll handled,
      id ∈ idsAll arguments ∨ pass.swapper.supply ≤ id ∧ id < begun.swapper.supply := by
  intro id mem
  cases h with
  | @swapped argument argument' s ok h unmarked noSkip formed swaps =>
      rw [Config.idsAll_of_loaderArgument? h] at below ⊢
      simp only [callIdsAll, List.append_nil] at mem
      exact (swaps.callIds_within below id mem).imp_left mem_ids_of_mem_callIds
  | _ => exact Or.inl ((callIdsAll_sublist _).subset mem)

theorem callIdsAll_unsettled (h : Handles config remarks span callee arguments pass handled begun)
    (bounded : pass.swapper.Bounded) (unsettled : pass.swapper.Unsettled (idsAll arguments)) :
    begun.swapper.Unsettled (callIdsAll handled) := by
  have inner := unsettled.sublist (callIdsAll_sublist arguments)
  cases h with
  | @swapped argument argument' s ok h unmarked noSkip formed swaps =>
      rw [Config.idsAll_of_loaderArgument? h] at unsettled
      simpa [callIdsAll] using swaps.callIds_unsettled bounded unsettled
  | ignored => exact ⟨inner.distinct, inner.below, inner.unmarked⟩
  | _ => exact inner

end Handles

/-! ## Staying ready -/

namespace Ready

variable {node : Node} {rest : List Node} {pass : Pass}

theorem inert (h : Ready (node :: rest) pass) (notCall : node.isCall = false) :
    Ready node.parts pass := by
  refine ⟨h.bounded, h.unsettled.sublist ?_⟩
  rw [callIdsAll, callIds_eq_parts, notCall]
  exact List.sublist_append_left _ _

/-- The identities of a call are unsettled, and stay so until it is handled. -/
theorem ofCall {span : Span} {callee : Node} {arguments : List Node} {optional : Bool}
    (h : Ready (.call span callee arguments optional :: rest) pass) :
    pass.swapper.Unsettled (callee.ids ++ idsAll arguments) :=
  h.unsettled.sublist (List.sublist_append_left _ _)

theorem not_contains {span : Span} {callee argument : Node} {arguments : List Node}
    {optional : Bool} (h : Ready (.call span callee arguments optional :: rest) pass)
    (found : config.loaderArgument? callee arguments = some argument) :
    pass.swapper.visited.contains argument = false := by
  rw [Bool.eq_false_iff]
  intro marked
  obtain ⟨id, own, mem⟩ := (Visited.contains_iff _ _).1 marked
  refine h.ofCall.unmarked id (List.mem_append_right _ ?_) mem
  rw [Config.idsAll_of_loaderArgument? found]
  exact mem_ids_of_mem_branchIds (mem_branchIds_of_id? own)

theorem call {span : Span} {callee : Node} {arguments handled : List Node} {optional : Bool}
    {begun : Pass} (h : Ready (.call span callee arguments optional :: rest) pass)
    (handles : Handles config remarks span callee arguments pass handled begun) :
    Ready (callee :: handled) begun := by
  have own := h.ofCall
  have ofCallee := own.sublist (List.sublist_append_left callee.ids _)
  have ofArguments := own.sublist (List.sublist_append_right _ (idsAll arguments))
  have advance := handles.advance ofArguments
  have within := handles.callIdsAll_within ofArguments.below
  have apart := (List.nodup_append.1 own.distinct).2.2
  refine ⟨advance.bounded h.bounded ofArguments.below, ?_⟩
  refine Unsettled.append ?_ (handles.callIdsAll_unsettled h.bounded ofArguments) ?_
  · refine (ofCallee.sublist callee.callIds_sublist).stays advance fun id inCallee touched => ?_
    exact apart id (mem_ids_of_mem_callIds inCallee) id touched rfl
  · intro id inCallee inHandled
    rcases within id inHandled with old | ⟨new, -⟩
    · exact apart id (mem_ids_of_mem_callIds inCallee) id old rfl
    · exact Nat.not_le_of_lt (ofCallee.below id (mem_ids_of_mem_callIds inCallee)) new

/-- The identities inside calls of the parts of a handled call are those of the call and new ones. -/
theorem within_call {span : Span} {callee : Node} {arguments handled : List Node} {optional : Bool}
    {begun : Pass} (h : Ready (.call span callee arguments optional :: rest) pass)
    (handles : Handles config remarks span callee arguments pass handled begun) :
    ∀ id ∈ callIdsAll (callee :: handled),
      id ∈ (Node.call span callee arguments optional).callIds ∨
        pass.swapper.supply ≤ id ∧ id < begun.swapper.supply := by
  have ofArguments := h.ofCall.sublist (List.sublist_append_right _ (idsAll arguments))
  intro id mem
  rw [callIds]
  rcases List.mem_append.1 mem with inCallee | inHandled
  · exact Or.inl (List.mem_append_left _ (mem_ids_of_mem_callIds inCallee))
  · exact (handles.callIdsAll_within ofArguments.below id inHandled).imp_left
      (List.mem_append_right _)

theorem after {mid : Pass} (h : Ready (node :: rest) pass)
    (advance : Advance node.callIds pass.swapper mid.swapper) : Ready rest mid :=
  ⟨advance.bounded h.bounded fun id mem => h.unsettled.below id (List.mem_append_left _ mem),
    h.unsettled.after advance⟩

end Ready

namespace Walks

variable {nodes nodes' : List Node} {pass pass' : Pass}

/-- Over the parts of a call that was handled, a walk touches the identities of the call. -/
theorem call_advance {span : Span} {callee : Node} {arguments handled rest : List Node}
    {optional : Bool} {begun mid : Pass}
    (ready : Ready (.call span callee arguments optional :: rest) pass)
    (handles : Handles config remarks span callee arguments pass handled begun)
    (inside : Advance (callIdsAll (callee :: handled)) begun.swapper mid.swapper) :
    Advance (Node.call span callee arguments optional).callIds pass.swapper mid.swapper := by
  have ofArguments := ready.ofCall.sublist (List.sublist_append_right _ (idsAll arguments))
  refine ((handles.advance ofArguments).trans inside).mono fun id mem => ?_
  rcases List.mem_append.1 mem with inArguments | inParts
  · exact Or.inl (List.mem_append_right _ inArguments)
  · exact (ready.within_call handles id inParts).imp_right fun new =>
      ⟨new.1, Nat.lt_of_lt_of_le new.2 inside.supply_le⟩

/-- A walk that is ready touches the identities inside calls of its trees only. -/
theorem advance (h : Walks config remarks nodes pass nodes' pass') (ready : Ready nodes pass) :
    Advance (callIdsAll nodes) pass.swapper pass'.swapper := by
  induction h with
  | nil => exact Advance.refl _ _
  | inert notCall inside after ihInside ihAfter =>
      have first := ihInside (ready.inert notCall)
      rw [callIdsAll, callIds_eq_parts, notCall]
      refine first.trans (ihAfter (ready.after ?_))
      simpa [callIds_eq_parts, notCall] using first
  | call handling inside after ihInside ihAfter =>
      have handles := handles_of_eq handling
      have first := call_advance ready handles (ihInside (ready.call handles))
      exact first.trans (ihAfter (ready.after first))

end Walks

namespace Ready

variable {rest inner : List Node} {pass mid : Pass}

/-- After a node that is no call the walk is ready for the rest. -/
theorem after_inert {node : Node} (ready : Ready (node :: rest) pass)
    (notCall : node.isCall = false) (inside : Walks config remarks node.parts pass inner mid) :
    Ready rest mid := by
  refine ready.after ?_
  simpa [callIds_eq_parts, notCall] using inside.advance (ready.inert notCall)

/-- After a call the walk is ready for the rest. -/
theorem after_call {span : Span} {callee : Node} {arguments handled : List Node}
    {optional : Bool} {begun : Pass}
    (ready : Ready (.call span callee arguments optional :: rest) pass)
    (handles : Handles config remarks span callee arguments pass handled begun)
    (inside : Walks config remarks (callee :: handled) begun inner mid) : Ready rest mid :=
  ready.after (Walks.call_advance ready handles (inside.advance (ready.call handles)))

end Ready

/-! ## Errors -/

namespace Walks

variable {nodes nodes' : List Node} {pass pass' : Pass}

/-- After an error nothing changes. -/
theorem of_error (h : Walks config remarks nodes pass nodes' pass')
    (failed : pass.error.isSome = true) : nodes' = nodes ∧ pass' = pass := by
  induction h with
  | nil => exact ⟨rfl, rfl⟩
  | inert notCall inside after ihInside ihAfter =>
      obtain ⟨rfl, rfl⟩ := ihInside failed
      obtain ⟨rfl, rfl⟩ := ihAfter failed
      exact ⟨by simp, rfl⟩
  | call handling inside after ihInside ihAfter =>
      simp only [handleCall, handleCallBy, failed, if_true, Prod.mk.injEq] at handling
      obtain ⟨rfl, rfl⟩ := handling
      obtain ⟨same, rfl⟩ := ihInside failed
      obtain ⟨rfl, rfl⟩ := ihAfter failed
      cases same
      exact ⟨rfl, rfl⟩

theorem error_eq_none (h : Walks config remarks nodes pass nodes' pass')
    (ok : pass'.error = none) : pass.error = none := by
  by_contra failed
  have some : pass.error.isSome = true := Option.isSome_iff_ne_none.2 failed
  exact failed ((h.of_error some).2 ▸ ok)

end Walks

end Pass

end ImageFallback
