import ImageFallback.Proofs.Walk.Expansion
import ImageFallback.Proofs.Walk.Meetings
import ImageFallback.Proofs.Walk.Settled

/-!
# The first fault of a program

A run fails exactly when some call of the program has a fault, and it fails with the fault of the
first such call (`run_error_iff`). The calls that a walk meets are not the calls of the program,
since a changed template stands there twice and a walk changes arguments before it goes into them.
But their faults come in the same order (`Meets.findSome?_calls`), because a change makes copies of
calls only, and a copy has the fault of the original.

The calls that are met form a `Chain`: the pass at a call is the pass that handling the call before
has left. Up to the first fault every call is handled like in a run without one; from then on the
chain stands still, and with it the counters and all calls that are met.

The walk over what a failed run leaves comes to the same fault again (`Walks.fails_again`). What lies
before it is settled, and the call with the fault is not, since nothing of it was touched.
-/

namespace ImageFallback

open Node Swapper

/-! ## Calls and their copies -/

section Calls

variable {β : Type} {f : Node → Option β} {config : Config} {remarks : List Remark}
  (natural : ∀ g node, f (node.mapIds g) = f node)

include natural

/-- What is found first among calls is found among the calls of a changed argument. -/
theorem Swaps.findSome?_calls {node node' : Node} {s s' : Swapper}
    (h : Swaps config node s node' s') : node'.calls.findSome? f = node.calls.findSome? f := by
  induction h with
  | settled | other | kept => rfl
  | paren h inside ih => exact ih
  | text => simp [calls]
  | @template id span quasis parts s events fresh h =>
      have copies : f ∘ mapIds (s.supply + ·) = f := funext (natural (s.supply + ·))
      simp only [calls, Config.calls_supportTest, List.nil_append, callsAll_mapIdsAll,
        List.findSome?_append, List.findSome?_map, copies]
      cases (callsAll parts).findSome? f <;> rfl
  | conditional fresh h first second ihYes ihNo =>
      simp only [calls, List.findSome?_append, ihYes, ihNo]

theorem Pass.Handles.findSome?_calls {span : Span} {callee : Node} {arguments handled : List Node}
    {pass begun : Pass} (h : Handles config remarks span callee arguments pass handled begun) :
    (callsAll handled).findSome? f = (callsAll arguments).findSome? f := by
  cases h with
  | swapped ok h unmarked noSkip formed swaps =>
      simp only [Config.loaderArgument?_eq_some h, callsAll, List.append_nil]
      exact swaps.findSome?_calls natural
  | _ => rfl

/-- What is found first among the calls of trees is found first among the calls that a walk over
them meets. -/
theorem Pass.Meets.findSome?_calls {nodes nodes' : List Node} {pass pass' : Pass}
    {log : List Meeting} (h : Meets config remarks nodes pass nodes' pass' log) :
    log.findSome? (fun m => f m.call) = (callsAll nodes).findSome? f := by
  induction h with
  | nil => rfl
  | inert notCall inside after ihInside ihAfter =>
      rw [callsAll, calls_eq_parts, notCall, List.findSome?_append, ihInside, ihAfter]
      simp [List.findSome?_append]
  | @call m callee' inner rest rest' mid last log log' inside after ihInside ihAfter =>
      have same := (m.handles config remarks).findSome?_calls natural
      rw [callsAll, List.findSome?_append, same] at ihInside
      rw [List.findSome?_cons, List.findSome?_append, ihInside, ihAfter, callsAll, calls,
        List.cons_append, List.findSome?_cons, List.findSome?_append, List.findSome?_append]
      rfl

end Calls

/-! ## Handling a call that was not seen -/

namespace Pass

variable {config : Config} {remarks : List Remark} {span : Span} {callee : Node}
  {arguments handled rest : List Node} {optional : Bool} {pass begun : Pass}

/-- Handling a call that a walk is ready for fails with the fault of the call. -/
theorem Ready.error_eq (ready : Ready (.call span callee arguments optional :: rest) pass)
    (handles : Handles config remarks span callee arguments pass handled begun)
    (ok : pass.error = none) :
    begun.error = config.fault? remarks (.call span callee arguments optional) := by
  unfold Config.fault?
  cases handles with
  | failed h => simp [ok] at h
  | foreign _ h => simp [h, ok]
  | settled _ h marked => simp [ready.not_contains h] at marked
  | ignored events _ h unmarked skip => simp [h, skip, ok]
  | @malformed argument e _ h unmarked noSkip bad =>
      rw [wellFormed_eq] at bad
      simp only [h, noSkip, Bool.false_eq_true, if_false]
      split at bad
      · rename_i found
        cases bad
        exact found.symm
      · cases bad
  | @swapped argument argument' s _ h unmarked noSkip formed swaps =>
      rw [wellFormed_eq] at formed
      simp only [h, noSkip, Bool.false_eq_true, if_false, ok]
      split at formed
      · cases formed
      · rename_i none
        exact none.symm

/-- Handling a call counts it if it is one of the loader, and a change if it builds a
conditional. -/
theorem Handles.counts (handles : Handles config remarks span callee arguments pass handled begun)
    (ok : pass.error = none) (optional : Bool) :
    begun.report.loaderCalls = pass.report.loaderCalls +
        (if config.isLoaderCall (.call span callee arguments optional) then 1 else 0) ∧
      begun.report.swapped = pass.report.swapped +
        if pass.swapper.synthesized < begun.swapper.synthesized then 1 else 0 := by
  unfold Config.isLoaderCall Config.loaderArgumentOf?
  cases handles with
  | failed h => simp [ok] at h
  | foreign _ h | settled _ h | ignored _ _ h | malformed _ h | swapped _ h => simp [h]

end Pass

/-! ## The calls one after the other -/

namespace Meeting

variable (config : Config) (remarks : List Remark) (m : Meeting)

/-- Handling the call builds a conditional on the run-time test. -/
def isSwapped : Bool :=
  m.pass.swapper.synthesized < (m.handled config remarks).2.swapper.synthesized

/-- The counters after some calls were met from the start on. -/
def counts (log : List Meeting) : Report where
  loaderCalls := log.countP fun m => config.isLoaderCall m.call
  swapped := log.countP (isSwapped config remarks)
  skipped := log.countP (isSkipped config remarks)

end Meeting

namespace Pass

variable {config : Config} {remarks : List Remark}

variable (config remarks) in
/-- Each call is met with the pass that handling the call before has left. -/
inductive Chain : Pass → List Meeting → Pass → Prop where
  | nil (pass : Pass) : Chain pass [] pass
  | cons {m : Meeting} {log : List Meeting} {last : Pass}
      (later : Chain (m.handled config remarks).2 log last) : Chain m.pass (m :: log) last

namespace Chain

variable {log log' : List Meeting} {pass mid last : Pass}

theorem append (first : Chain config remarks pass log mid)
    (second : Chain config remarks mid log' last) :
    Chain config remarks pass (log ++ log') last := by
  induction first with
  | nil => exact second
  | cons later ih => exact cons (ih second)

theorem split {m : Meeting} (h : Chain config remarks pass (log ++ m :: log') last) :
    Chain config remarks pass log m.pass ∧
      Chain config remarks (m.handled config remarks).2 log' last := by
  induction log generalizing pass with
  | nil =>
      cases h with
      | cons later => exact ⟨nil _, later⟩
  | cons first rest ih =>
      cases h with
      | cons later =>
          obtain ⟨before, after⟩ := ih later
          exact ⟨cons before, after⟩

/-- After an error the chain stands still, and every call is kept. -/
theorem of_error (h : Chain config remarks pass log last) (failed : pass.error.isSome = true) :
    last = pass ∧ ∀ m ∈ log, m.handled config remarks = (m.arguments, pass) := by
  induction h with
  | nil => exact ⟨rfl, by simp⟩
  | @cons m log last later ih =>
      have same : m.handled config remarks = (m.arguments, m.pass) := by
        simp [Meeting.handled, handleCall, handleCallBy, failed]
      rw [same] at ih
      obtain ⟨rfl, kept⟩ := ih failed
      exact ⟨rfl, List.forall_mem_cons.2 ⟨same, kept⟩⟩

end Chain

theorem Meets.chain {nodes nodes' : List Node} {pass pass' : Pass} {log : List Meeting}
    (h : Meets config remarks nodes pass nodes' pass' log) : Chain config remarks pass log pass' := by
  induction h with
  | nil pass => exact Chain.nil pass
  | inert _ _ _ ihInside ihAfter => exact ihInside.append ihAfter
  | call _ _ ihInside ihAfter => exact Chain.cons (ihInside.append ihAfter)

/-- A walk that is ready is ready for every call that it meets. -/
theorem Meets.ready {nodes nodes' : List Node} {pass pass' : Pass} {log : List Meeting}
    (h : Meets config remarks nodes pass nodes' pass' log) (ready : Ready nodes pass) :
    ∀ m ∈ log, Ready [m.call] m.pass := by
  induction h with
  | nil => simp
  | inert notCall inside after ihInside ihAfter =>
      refine List.forall_mem_append.2 ⟨?_, ?_⟩
      · exact ihInside (ready.inert notCall)
      · exact ihAfter (ready.after_inert notCall inside.walks)
  | @call m callee' inner rest rest' mid last log log' inside after ihInside ihAfter =>
      have handles := m.handles config remarks
      refine List.forall_mem_cons.2 ⟨?_, List.forall_mem_append.2 ⟨?_, ?_⟩⟩
      · refine ⟨ready.bounded, ready.unsettled.sublist ?_⟩
        simp [callIdsAll, Meeting.call]
      · exact ihInside (ready.call handles)
      · exact ihAfter (ready.after_call handles inside.walks)

/-- Calls without a fault are handled like in a run without one, and are counted. -/
theorem Chain.of_no_fault {log : List Meeting} {pass last : Pass}
    (h : Chain config remarks pass log last) (ready : ∀ m ∈ log, Ready [m.call] m.pass)
    (ok : pass.error = none) (formed : ∀ m ∈ log, config.fault? remarks m.call = none) :
    last.error = none ∧
      (∀ m ∈ log, (m.handled config remarks).2.error = none ∧
        anonymousAll (m.handled config remarks).1 =
          anonymousAll (config.onArgument remarks config.plainSwap m.span m.callee m.arguments)) ∧
      last.report = {
        loaderCalls := pass.report.loaderCalls + (Meeting.counts config remarks log).loaderCalls
        swapped := pass.report.swapped + (Meeting.counts config remarks log).swapped
        skipped := pass.report.skipped + (Meeting.counts config remarks log).skipped } := by
  induction h with
  | nil => simp [ok, Meeting.counts]
  | @cons m log last later ih =>
      rw [List.forall_mem_cons] at ready formed
      have handles := m.handles config remarks
      have begunOk : (m.handled config remarks).2.error = none :=
        (ready.1.error_eq handles ok).trans formed.1
      obtain ⟨lastOk, handled, report⟩ := ih ready.2 begunOk formed.2
      obtain ⟨ownLoader, ownSwapped⟩ := handles.counts ok m.optional
      have ownSkipped := m.skipped_handled config remarks
      have plain := ready.1.anonymousAll_handled handles begunOk
      refine ⟨lastOk, List.forall_mem_cons.2 ⟨⟨begunOk, plain⟩, handled⟩, ?_⟩
      rw [report, Report.mk.injEq]
      refine ⟨?_, ?_, ?_⟩
      · rw [ownLoader]
        simp only [Meeting.counts, List.countP_cons, Meeting.call]
        omega
      · rw [ownSwapped]
        simp only [Meeting.counts, List.countP_cons, Meeting.isSwapped, decide_eq_true_eq]
        omega
      · rw [ownSkipped]
        simp only [Meeting.counts, List.countP_cons]
        omega

/-- The error at the end is the first fault. -/
theorem Chain.error_eq {log : List Meeting} {pass last : Pass}
    (h : Chain config remarks pass log last) (ready : ∀ m ∈ log, Ready [m.call] m.pass)
    (ok : pass.error = none) :
    last.error = log.findSome? fun m => config.fault? remarks m.call := by
  induction h with
  | nil => exact ok
  | @cons m log last later ih =>
      rw [List.forall_mem_cons] at ready
      have own := ready.1.error_eq (m.handles config remarks) ok
      rw [List.findSome?_cons]
      cases fault : config.fault? remarks m.call with
      | none => exact ih ready.2 (own.trans fault)
      | some e =>
          have failed := own.trans fault
          rw [(later.of_error (by rw [failed]; rfl)).1]
          exact failed

/-- A call with a fault is kept, and it is the last one that is counted. -/
theorem Ready.of_fault {m : Meeting} {e : SwapError} (ready : Ready [m.call] m.pass)
    (ok : m.pass.error = none) (fault : config.fault? remarks m.call = some e) :
    (m.handled config remarks).1 = m.arguments ∧
      (m.handled config remarks).2.error = some e ∧
      (m.handled config remarks).2.report =
        { m.pass.report with loaderCalls := m.pass.report.loaderCalls + 1 } := by
  have handles := m.handles config remarks
  have failed := (ready.error_eq handles ok).trans fault
  generalize m.handled config remarks = left at handles failed
  obtain ⟨handled, begun⟩ := left
  cases handles with
  | malformed => exact ⟨rfl, failed, rfl⟩
  | failed h => simp [ok] at h
  | _ => simp [ok] at failed

/-- A call whose handling has left an error and kept the arguments stays as it was met. -/
theorem Meets.Leaves.of_error {log : List Meeting} {m : Meeting} {left : Node}
    (h : Leaves config remarks log m left) (kept : (m.handled config remarks).1 = m.arguments)
    (failed : (m.handled config remarks).2.error.isSome = true) : left = m.call := by
  obtain ⟨callee', inner, mid, inside, rfl, met, -⟩ := h
  obtain ⟨same, -⟩ := met.walks.of_error failed
  rw [kept] at same
  cases same
  rfl

/-- The calls that are met from an error on are the last calls of what the walk leaves. -/
theorem Meets.drop_calls {nodes nodes' : List Node} {pass pass' : Pass} {before late : List Meeting}
    (h : Meets config remarks nodes pass nodes' pass' (before ++ late))
    (kept : ∀ m ∈ late, (m.handled config remarks).1 = m.arguments ∧
      (m.handled config remarks).2.error.isSome = true) :
    (callsAll nodes').drop before.length = late.map Meeting.call := by
  have length := h.length_eq
  have lengthBefore : before.length = ((callsAll nodes').take before.length).length := by
    rw [List.length_take, ← length, List.length_append]
    omega
  have lengthLate : late.length = ((callsAll nodes').drop before.length).length := by
    rw [List.length_drop, ← length, List.length_append]
    omega
  have left : ∀ pair ∈ late.zip ((callsAll nodes').drop before.length), pair.2 = pair.1.call := by
    rintro ⟨m, left⟩ mem
    obtain ⟨same, failed⟩ := kept m (List.of_mem_zip mem).1
    refine Meets.Leaves.of_error (h.leaves ?_) same failed
    rw [← List.take_append_drop before.length (callsAll nodes'), List.zip_append lengthBefore]
    exact List.mem_append_right _ mem
  calc (callsAll nodes').drop before.length
      = (late.zip ((callsAll nodes').drop before.length)).map Prod.snd :=
        (List.map_snd_zip (Nat.le_of_eq lengthLate.symm)).symm
    _ = (late.zip ((callsAll nodes').drop before.length)).map (Meeting.call ∘ Prod.fst) :=
        List.map_congr_left left
    _ = late.map Meeting.call := by
        rw [← List.map_map, List.map_fst_zip (Nat.le_of_eq lengthLate)]

/-- Where a walk that is ready ends with an error, the call at fault divides the calls that it
meets. -/
theorem Meets.exists_fault {nodes nodes' : List Node} {pass pass' : Pass} {log : List Meeting}
    {e : SwapError} (h : Meets config remarks nodes pass nodes' pass' log)
    (ready : Ready nodes pass) (ok : pass.error = none) (failed : pass'.error = some e) :
    ∃ before m later, log = before ++ m :: later ∧
      (∀ b ∈ before, config.fault? remarks b.call = none ∧
        (b.handled config remarks).2.error = none ∧
        anonymousAll (b.handled config remarks).1 =
          anonymousAll (config.onArgument remarks config.plainSwap b.span b.callee b.arguments)) ∧
      config.fault? remarks m.call = some e ∧
      (callsAll nodes').drop before.length = (m :: later).map Meeting.call ∧
      pass'.report = {
        loaderCalls := pass.report.loaderCalls +
          (Meeting.counts config remarks before).loaderCalls + 1
        swapped := pass.report.swapped + (Meeting.counts config remarks before).swapped
        skipped := pass.report.skipped + (Meeting.counts config remarks before).skipped } := by
  have readyCalls := h.ready ready
  have error := h.chain.error_eq readyCalls ok
  rw [failed] at error
  obtain ⟨before, m, later, rfl, fault, formed⟩ := List.findSome?_eq_some_iff.1 error.symm
  obtain ⟨readyBefore, readyLate⟩ := List.forall_mem_append.1 readyCalls
  obtain ⟨first, second⟩ := h.chain.split
  obtain ⟨mOk, handled, counted⟩ := first.of_no_fault readyBefore ok formed
  obtain ⟨kept, mFailed, report⟩ := (readyLate m List.mem_cons_self).of_fault mOk fault
  have stopped : (m.handled config remarks).2.error.isSome = true := by rw [mFailed]; rfl
  obtain ⟨same, still⟩ := second.of_error stopped
  refine ⟨before, m, later, rfl, fun b mem => ⟨formed b mem, handled b mem⟩, fault, ?_, ?_⟩
  · refine h.drop_calls (List.forall_mem_cons.2 ⟨⟨kept, stopped⟩, fun c mem => ?_⟩)
    rw [still c mem]
    exact ⟨rfl, stopped⟩
  · rw [same, report, counted]

/-! ## Walking again -/

theorem walks_of_error (nodes : List Node) (pass : Pass) (failed : pass.error.isSome = true) :
    Walks config remarks nodes pass nodes pass := by
  obtain ⟨nodes', pass', walks⟩ := exists_walks config remarks nodes pass
  obtain ⟨rfl, rfl⟩ := walks.of_error failed
  exact walks

/-- A call that was handled with an error is left as it is, and is handled so again. -/
theorem Handles.fails_again {span : Span} {callee : Node} {arguments handled : List Node}
    {optional : Bool} {pass begun again : Pass} {e : SwapError}
    (handles : Handles config remarks span callee arguments pass handled begun)
    (ok : pass.error = none) (failed : begun.error = some e)
    (outlasts : Outlasts (Node.call span callee arguments optional).callIds pass.swapper
      begun.swapper again.swapper.visited)
    (okAgain : again.error = none) :
    handled = arguments ∧ ∃ last, last.error = some e ∧
      last.swapper.visited = again.swapper.visited ∧
      again.handleCall config remarks span callee arguments = (arguments, last) := by
  cases handles with
  | @malformed argument e' _ h unmarked noSkip bad =>
      cases failed
      have unsettled : again.swapper.visited.contains argument = false := by
        rw [Bool.eq_false_iff] at unmarked ⊢
        intro marked
        obtain ⟨id, own, later⟩ := (Visited.contains_iff _ _).1 marked
        have inArgument := mem_ids_of_mem_branchIds (mem_branchIds_of_id? own)
        by_cases old : id ∈ pass.swapper.visited.ids
        · exact unmarked ((Visited.contains_iff _ _).2 ⟨id, own, old⟩)
        · refine (outlasts.apart id later old).1 ?_
          rw [callIds, Config.idsAll_of_loaderArgument? h]
          exact List.mem_append_right _ inArgument
      refine ⟨rfl, { again with
        report := { again.report with loaderCalls := again.report.loaderCalls + 1 }
        error := some e }, rfl, rfl, ?_⟩
      simp [handleCall, handleCallBy, okAgain, h, unsettled, noSkip, swapInPlaceBy, bad]
  | failed h => simp [ok] at h
  | _ => simp [ok] at failed

/-- Of two walks one after the other the first comes to the error again, or it finds its calls
settled and leaves the error to the second. -/
theorem Walks.fails_again_later {xs xs' ys ys' : List Node} {pass mid last again : Pass}
    {e : SwapError} (inside : Walks config remarks xs pass xs' mid)
    (after : Walks config remarks ys mid ys' last) (ready : Ready xs pass)
    (failed : last.error = some e)
    (outlasts : Outlasts (callIdsAll xs) pass.swapper mid.swapper again.swapper.visited)
    (okAgain : again.error = none)
    (first : mid.error = some e → ∃ mid', Walks config remarks xs' again xs' mid' ∧
      mid'.error = some e ∧ mid'.swapper.visited = again.swapper.visited)
    (second : mid.error = none → ∀ mid' : Pass, mid'.error = none →
      mid'.swapper.visited = again.swapper.visited →
        ∃ last', Walks config remarks ys' mid' ys' last' ∧ last'.error = some e ∧
          last'.swapper.visited = again.swapper.visited) :
    ∃ mid' last', Walks config remarks xs' again xs' mid' ∧ Walks config remarks ys' mid' ys' last' ∧
      last'.error = some e ∧ last'.swapper.visited = again.swapper.visited := by
  cases midError : mid.error with
  | some e' =>
      have stopped : mid.error.isSome = true := by rw [midError]; rfl
      obtain ⟨rfl, rfl⟩ := after.of_error stopped
      obtain ⟨mid', walks, failed', same⟩ := first failed
      have stopped' : mid'.error.isSome = true := by rw [failed']; rfl
      exact ⟨mid', mid', walks, walks_of_error _ mid' stopped', failed', same⟩
  | none =>
      obtain ⟨settled, -, -⟩ := inside.settled ready midError outlasts
      obtain ⟨events, walks⟩ := walks_settled xs' again settled okAgain
      obtain ⟨last', rest, failed', same⟩ := second midError (again.counting _ _ events) okAgain rfl
      exact ⟨_, last', walks, rest, failed', same⟩

/-- The walk over what a walk with an error has left ends with the same error and changes
nothing. -/
theorem Walks.fails_again {nodes nodes' : List Node} {pass pass' again : Pass} {e : SwapError}
    (h : Walks config remarks nodes pass nodes' pass') (ready : Ready nodes pass)
    (ok : pass.error = none) (failed : pass'.error = some e)
    (outlasts : Outlasts (callIdsAll nodes) pass.swapper pass'.swapper again.swapper.visited)
    (okAgain : again.error = none) :
    ∃ last, Walks config remarks nodes' again nodes' last ∧ last.error = some e ∧
      last.swapper.visited = again.swapper.visited := by
  induction h generalizing again with
  | nil => simp [ok] at failed
  | @inert node rest inner rest' pass mid last notCall inside after ihInside ihAfter =>
      have readyInside := ready.inert notCall
      have readyAfter := ready.after_inert notCall inside
      have first := inside.advance readyInside
      have second := after.advance readyAfter
      have unsettled := ready.unsettled
      rw [callIdsAll, callIds_eq_parts, notCall] at outlasts unsettled
      have inParts := outlasts.first unsettled first second
      have later := outlasts.second first
      obtain ⟨mid', last', walks, rest, failed', same⟩ :=
        inside.fails_again_later after readyInside failed inParts okAgain
          (fun failed => ihInside readyInside ok failed inParts okAgain)
          (fun ok mid' ok' same => same ▸ ihAfter readyAfter ok failed (same ▸ later) ok')
      have notCall' := (node.isCall_withParts inner).trans notCall
      have length := inside.length_eq
      have walks' : Walks config remarks (node.withParts inner).parts again inner mid' := by
        rwa [parts_withParts node inner length]
      have whole := Walks.inert notCall' walks' rest
      rw [withParts_withParts node inner inner length length] at whole
      exact ⟨last', whole, failed', same⟩
  | @call span callee callee' arguments handled inner rest rest' optional pass begun mid last
      handling inside after ihInside ihAfter =>
      have handles := handles_of_eq handling
      have readyInside := ready.call handles
      have readyAfter := ready.after_call handles inside
      have inParts := inside.advance readyInside
      have first := call_advance ready handles inParts
      have inCall := outlasts.first ready.unsettled first (after.advance readyAfter)
      cases begunError : begun.error with
      | some e' =>
          have stopped : begun.error.isSome = true := by rw [begunError]; rfl
          obtain ⟨same, rfl⟩ := inside.of_error stopped
          obtain ⟨rfl, rfl⟩ := after.of_error stopped
          cases same
          obtain ⟨rfl, last', failed', same, handling'⟩ :=
            handles.fails_again ok failed inCall okAgain
          have stopped' : last'.error.isSome = true := by rw [failed']; rfl
          exact ⟨last', Walks.call handling' (walks_of_error _ last' stopped')
            (walks_of_error _ last' stopped'), failed', same⟩
      | none =>
          have ofArguments := ready.ofCall.sublist (List.sublist_append_right _ (idsAll arguments))
          have inside' := inCall.within (handles.advance ofArguments).supply_le inParts.supply_le
            (ready.within_call handles)
          have later := outlasts.second first
          obtain ⟨own, -, -⟩ := ready.settles handles inside begunError inCall
          obtain ⟨same, events, begun'⟩ :=
            (handleCall_handles config remarks span callee' inner again).of_settled optional own
              okAgain
          -- Counting the call changes nothing that the rest of the walk depends on.
          have okCounted : (again.handleCall config remarks span callee' inner).2.error = none := by
            rw [begun']
            exact okAgain
          have counted : (again.handleCall config remarks span callee' inner).2.swapper.visited =
              again.swapper.visited := by
            rw [begun']
            rfl
          rw [← counted] at inside' later
          obtain ⟨mid', last', walks, rest, failed', same'⟩ :=
            inside.fails_again_later after readyInside failed inside' okCounted
              (fun failed => ihInside readyInside begunError failed inside' okCounted)
              (fun ok mid' ok' same => same ▸ ihAfter readyAfter ok failed (same ▸ later) ok')
          exact ⟨last', Walks.call (Prod.ext same rfl) walks rest, failed', same'.trans counted⟩

end Pass

/-- Every run after a failed one fails with the same error and leaves the program as it is. -/
theorem Runs.nth_failed {config : Config} {remarks : List Remark} {body out : List Node}
    {supply : NodeId} {last : Pass} {e : SwapError}
    (walks : Pass.Walks config remarks body (Pass.new supply) out last)
    (ready : Pass.Ready body (Pass.new supply)) (failed : last.error = some e) (n : Nat) :
    ∃ pass, (Runs.mk body (Pass.new supply)).nth config remarks (n + 1) = (.error e, ⟨out, pass⟩) ∧
      pass.error = none ∧ pass.swapper.visited = last.swapper.visited := by
  induction n with
  | zero =>
      refine ⟨{ last with error := none }, ?_, rfl, rfl⟩
      simp [nth, step, Pass.run_eq_of_walks walks, failed]
  | succ n ih =>
      obtain ⟨pass, eq, ok, visited⟩ := ih
      have outlasts : Pass.Outlasts (callIdsAll body) (Pass.new supply).swapper last.swapper
          pass.swapper.visited := by
        rw [visited]
        exact ⟨fun id mem => mem, fun id mem absent => absurd mem absent⟩
      obtain ⟨last', again, failed', same⟩ := walks.fails_again ready rfl failed outlasts ok
      refine ⟨{ last' with error := none }, ?_, rfl, same.trans visited⟩
      rw [nth, eq]
      simp [step, Pass.run_eq_of_walks again, failed']

/-- The first run of a new pass over a program with distinct identities fails exactly when a call of
the program has a fault, and with the first fault. Then the calls before the one at fault are
handled like in a run without a fault, it and all calls after it are left as they are met, the
counters stop with it, and every further run ends the same way and changes nothing. -/
theorem run_error_iff (config : Config) (remarks : List Remark) (body : List Node)
    (supply : NodeId) (numbered : Numbered body supply) :
    (∀ e, ((Pass.new supply).run config remarks body).1 = .error e ↔
        (callsAll body).findSome? (config.fault? remarks) = some e) ∧
      ∀ e out left, (Pass.new supply).run config remarks body = (.error e, out, left) →
        ∃ last before m later,
          Pass.Meets config remarks body (Pass.new supply) out last (before ++ m :: later) ∧
          (∀ b ∈ before, config.fault? remarks b.call = none ∧
            (b.handled config remarks).2.error = none ∧
            anonymousAll (b.handled config remarks).1 =
              anonymousAll
                (config.onArgument remarks config.plainSwap b.span b.callee b.arguments)) ∧
          config.fault? remarks m.call = some e ∧
          (callsAll out).drop before.length = (m :: later).map Meeting.call ∧
          left.report = { Meeting.counts config remarks before with
            loaderCalls := (Meeting.counts config remarks before).loaderCalls + 1 } ∧
          ∀ n, ∃ pass, (Runs.mk body (Pass.new supply)).nth config remarks (n + 1) =
            (.error e, ⟨out, pass⟩) := by
  obtain ⟨out, last, walks⟩ := Pass.exists_walks config remarks body (Pass.new supply)
  obtain ⟨log, meets⟩ := walks.exists_meets
  have ready := Pass.ready_new numbered
  have run := Pass.run_eq_of_walks walks
  refine ⟨fun e => ?_, fun e out' left failed => ?_⟩
  · have error := meets.chain.error_eq (meets.ready ready) rfl
    rw [← meets.findSome?_calls (config.fault?_mapIds remarks), ← error, run]
    cases last.error <;> simp
  · have lastError : last.error = some e := by
      cases ok : last.error with
      | none => simp [run, ok] at failed
      | some e' =>
          simp only [run, ok, Prod.mk.injEq, Except.error.injEq] at failed
          rw [failed.1]
    simp only [run, lastError, Prod.mk.injEq, true_and] at failed
    obtain ⟨rfl, rfl⟩ := failed
    obtain ⟨before, m, later, rfl, handled, fault, kept, report⟩ :=
      meets.exists_fault ready rfl lastError
    refine ⟨last, before, m, later, meets, handled, fault, kept, ?_, fun n => ?_⟩
    · simp only [report, Pass.new, Nat.zero_add]
    · obtain ⟨pass, nth, -⟩ := Runs.nth_failed walks ready lastError n
      exact ⟨pass, nth⟩

/-- Of three calls of the loader the second has a template with one text too few, between
parentheses. -/
theorem run_stops_at_second_call :
    let body : List Node := [
      .call {} (.name {} "require") [.text 0 {} "./a.png" false] false,
      .call {} (.name {} "require")
        [.paren {} (.template 1 {} [⟨"./", some "./", false, {}⟩] [.name {} "name"])] false,
      .call {} (.name {} "require") [.text 2 {} "./b.png" false] false]
    Numbered body 3 ∧ ∃ out left,
      (Pass.new 3).run {} [] body = (.error (.malformedTemplate 1 1), out, left) ∧
        left.report = ⟨2, 1, 0⟩ ∧ (callsAll out).drop 1 = (callsAll body).drop 1 ∧
        ∀ n, ∃ pass, (Runs.mk body (Pass.new 3)).nth {} [] (n + 1) =
          (.error (.malformedTemplate 1 1), ⟨out, pass⟩) := by
  intro body
  have numbered : Numbered body 3 := ⟨by decide, by decide⟩
  obtain ⟨-, failing⟩ := run_error_iff {} [] body 3 numbered
  refine ⟨numbered, _, _, rfl, rfl, rfl, ?_⟩
  obtain ⟨_, _, _, _, -, -, -, -, -, again⟩ := failing _ _ _ rfl
  exact again

end ImageFallback
