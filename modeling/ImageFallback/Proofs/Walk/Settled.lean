import ImageFallback.Proofs.Walk.Ready

/-!
# A program that is walked over again

After a first run without an error every call of the program is `Settled`: its argument is settled,
or a comment keeps it, or it is of no shape that may be changed. The three are no-ops for three
different reasons, and the counters tell them apart: a call of the loader is counted in every run, a
kept argument too, and a change never again.

`Walks.settled` is the first half, for the walk that settles the program. It has to say which
identities are settled later as well, because a kept argument counts as kept only as long as it is
not settled: what is settled later lies outside of what the walk may touch. `walks_settled` is the
second half, a walk over calls that are all settled.
-/

namespace ImageFallback

open Node Swapper

namespace Node

/-- The number of calls of which `p` holds. -/
def countCalls (p : Node → Bool) (nodes : List Node) : Nat := (callsAll nodes).countP p

theorem countCalls_inert (p : Node → Bool) {node : Node} (rest : List Node)
    (notCall : node.isCall = false) :
    countCalls p (node :: rest) = countCalls p node.parts + countCalls p rest := by
  simp [countCalls, callsAll, calls_eq_parts node, notCall]

theorem countCalls_call (p : Node → Bool) (span : Span) (callee : Node)
    (arguments rest : List Node) (optional : Bool) :
    countCalls p (.call span callee arguments optional :: rest) =
      (if p (.call span callee arguments optional) then 1 else 0) +
        countCalls p (callee :: arguments) + countCalls p rest := by
  simp only [countCalls, callsAll, calls, List.countP_append, List.countP_cons]
  omega

end Node

namespace Config

variable (config : Config) (remarks : List Remark)

/-- The argument of a node that is a call of the loader with exactly one argument. -/
def loaderArgumentOf? : Node → Option Node
  | .call _ callee arguments _ => config.loaderArgument? callee arguments
  | _ => none

/-- The node is a call of the loader with exactly one argument. -/
def isLoaderCall (node : Node) : Bool := (config.loaderArgumentOf? node).isSome

/-- The node is a call of the loader whose argument a comment keeps as it is. -/
def isSkipped (visited : Visited) (node : Node) : Bool :=
  match config.loaderArgumentOf? node with
  | some argument => !visited.contains argument && config.isIgnored remarks argument node.span
  | none => false

/-- If the node is a call of the loader, handling it changes nothing but counters. -/
def Settled (visited : Visited) (node : Node) : Prop :=
  ∀ argument, config.loaderArgumentOf? node = some argument →
    visited.contains argument = true ∨ config.isIgnored remarks argument node.span = true ∨
      argument.shape = .other

end Config

namespace Swaps

variable {config : Config} {node node' : Node} {s s' : Swapper}

theorem isSpread_eq_false (h : Swaps config node s node' s') (plain : node.isSpread = false) :
    node'.isSpread = false := by
  induction h with
  | settled | other | kept => exact plain
  | @paren span inner node s s' h inside ih =>
      refine ih ?_
      cases inner <;> simp_all [Node.shape, isSpread]
  | text | template | conditional => rfl

end Swaps

theorem Swapper.wellFormed_of_shape {node : Node} (shape : node.shape = .other) :
    wellFormed node = .ok () := by
  induction node using Node.shape.induct with
  | case4 span inner ih => exact ih shape
  | case5 node notText notTemplate notConditional notParen =>
      cases node with
      | paren => exact (notParen _ _ rfl).elim
      | text | template | conditional => cases shape
      | _ => rfl
  | _ => cases shape

namespace Pass

variable {config : Config} {remarks : List Remark}

/-! ## Walking over settled calls -/

/-- The pass once it has counted some calls. -/
def counting (calls skipped : Nat) (events : List Event) (pass : Pass) : Pass :=
  { pass with
    swapper := { pass.swapper with events := events }
    report := { pass.report with
      loaderCalls := pass.report.loaderCalls + calls
      skipped := pass.report.skipped + skipped } }

theorem Handles.of_settled {span : Span} {callee : Node} {arguments handled : List Node}
    {pass begun : Pass} (optional : Bool)
    (h : Handles config remarks span callee arguments pass handled begun)
    (settled : config.Settled remarks pass.swapper.visited
      (.call span callee arguments optional))
    (ok : pass.error = none) :
    handled = arguments ∧ ∃ events, begun = pass.counting
      (if config.isLoaderCall (.call span callee arguments optional) then 1 else 0)
      (if config.isSkipped remarks pass.swapper.visited (.call span callee arguments optional)
        then 1 else 0) events := by
  cases h with
  | failed h => simp [ok] at h
  | foreign _ h =>
      refine ⟨rfl, pass.swapper.events, ?_⟩
      simp [counting, Config.isLoaderCall, Config.isSkipped, Config.loaderArgumentOf?, h]
  | settled _ h marked =>
      refine ⟨rfl, pass.swapper.events, ?_⟩
      simp [counting, Config.isLoaderCall, Config.isSkipped, Config.loaderArgumentOf?, h, marked]
  | ignored events _ h unmarked skip =>
      refine ⟨rfl, events, ?_⟩
      simp [counting, Config.isLoaderCall, Config.isSkipped, Config.loaderArgumentOf?, h,
        unmarked, skip, Node.span]
  | malformed _ h unmarked noSkip bad =>
      have shape := settled _ h
      simp only [unmarked, noSkip, Node.span, Bool.false_eq_true, false_or] at shape
      simp [wellFormed_of_shape shape] at bad
  | swapped _ h unmarked noSkip formed swaps =>
      have shape := settled _ h
      simp only [unmarked, noSkip, Node.span, Bool.false_eq_true, false_or] at shape
      obtain ⟨rfl, rfl⟩ := swaps.of_shape shape
      refine ⟨(Config.loaderArgument?_eq_some h).symm, pass.swapper.events, ?_⟩
      simp [counting, Config.isLoaderCall, Config.isSkipped, Config.loaderArgumentOf?, h, noSkip,
        Node.span]

theorem counting_counting (pass : Pass) (calls skipped calls' skipped' : Nat)
    (events events' : List Event) :
    (pass.counting calls skipped events).counting calls' skipped' events' =
      pass.counting (calls + calls') (skipped + skipped') events' := by
  simp [counting, Nat.add_assoc]

/-- A walk over calls that are settled counts them and changes nothing. -/
theorem walks_settled (nodes : List Node) (pass : Pass)
    (settled : ∀ node ∈ callsAll nodes, config.Settled remarks pass.swapper.visited node)
    (ok : pass.error = none) :
    ∃ events, Walks config remarks nodes pass nodes
      (pass.counting (countCalls config.isLoaderCall nodes)
        (countCalls (config.isSkipped remarks pass.swapper.visited) nodes) events) := by
  induction nodes using callInduction generalizing pass with
  | nil => exact ⟨pass.swapper.events, Walks.nil pass⟩
  | inert node rest notCall inside after =>
      simp only [callsAll, List.mem_append] at settled
      obtain ⟨events, first⟩ := inside pass
        (fun call mem => settled call (Or.inl (by simpa [calls_eq_parts node, notCall]))) ok
      let mid := pass.counting (countCalls config.isLoaderCall node.parts)
        (countCalls (config.isSkipped remarks pass.swapper.visited) node.parts) events
      obtain ⟨events', second⟩ := after mid (fun call mem => settled call (Or.inr mem)) ok
      have whole := Walks.inert notCall first second
      rw [counting_counting, withParts_parts] at whole
      rw [countCalls_inert _ _ notCall, countCalls_inert _ _ notCall]
      exact ⟨events', whole⟩
  | call span callee arguments optional rest inside after =>
      simp only [callsAll, List.mem_append] at settled
      have handles := handleCall_handles config remarks span callee arguments pass
      obtain ⟨same, events, begun⟩ := handles.of_settled optional
        (settled _ (Or.inl (by simp [calls]))) ok
      -- The counters have moved, but nothing that the rest of the walk depends on has.
      obtain ⟨events', first⟩ := inside (pass.counting _ _ events) (fun call mem =>
        settled call (Or.inl (List.mem_cons_of_mem _ mem))) ok
      rw [counting_counting] at first
      obtain ⟨events'', second⟩ := after (pass.counting _ _ events')
        (fun call mem => settled call (Or.inr mem)) ok
      have whole : Walks config remarks (.call span callee arguments optional :: rest) pass
          (.call span callee arguments optional :: rest) _ :=
        Walks.call (Prod.ext same begun) first second
      rw [counting_counting] at whole
      rw [countCalls_call, countCalls_call]
      exact ⟨events'', whole⟩

/-! ## The walk that settles the calls -/

/-- A set of identities as it may be at some time after the way from `s` to `s'`: it holds what was
settled on the way, and what it holds besides could not be touched there. -/
structure Outlasts (touched : List NodeId) (s s' : Swapper) (visited : Visited) : Prop where
  grown : ∀ id ∈ s'.visited.ids, id ∈ visited.ids
  apart : ∀ id ∈ visited.ids, id ∉ s'.visited.ids →
    id ∉ touched ∧ ¬(s.supply ≤ id ∧ id < s'.supply)

namespace Outlasts

variable {xs ys : List NodeId} {s s₁ s₂ : Swapper} {visited : Visited}

/-- What outlasts a way outlasts its first part. -/
theorem first (h : Outlasts (xs ++ ys) s s₂ visited) (unsettled : s.Unsettled (xs ++ ys))
    (advance : Advance xs s s₁) (advance' : Advance ys s₁ s₂) : Outlasts xs s s₁ visited := by
  have le := advance.supply_le
  have le' := advance'.supply_le
  refine ⟨fun id mem => h.grown id (advance'.grown id mem), fun id mem unmarked => ?_⟩
  have apart := (List.nodup_append.1 unsettled.distinct).2.2 id
  have below := unsettled.below id
  by_cases later : id ∈ s₂.visited.ids
  · rcases advance'.marks id later with old | touched | new
    · exact absurd old unmarked
    · grind
    · grind
  · have outside := h.apart id mem later
    grind

/-- What outlasts a way outlasts its second part. -/
theorem second (h : Outlasts (xs ++ ys) s s₂ visited) (advance : Advance xs s s₁) :
    Outlasts ys s₁ s₂ visited := by
  have le := advance.supply_le
  refine ⟨h.grown, fun id mem unmarked => ?_⟩
  have outside := h.apart id mem unmarked
  grind

/-- What outlasts a way outlasts a part of it that touches less. -/
theorem within (h : Outlasts xs s s₂ visited) (le : s.supply ≤ s₁.supply)
    (le' : s₁.supply ≤ s₂.supply)
    (sub : ∀ id ∈ ys, id ∈ xs ∨ s.supply ≤ id ∧ id < s₁.supply) :
    Outlasts ys s₁ s₂ visited := by
  refine ⟨h.grown, fun id mem unmarked => ?_⟩
  have outside := h.apart id mem unmarked
  have := sub id
  grind

end Outlasts

/-- A changed argument is the argument of the loader in the place of the one before. -/
theorem loaderArgument?_of_swaps {callee argument argument' : Node} {arguments : List Node}
    {s s' : Swapper} (h : config.loaderArgument? callee arguments = some argument)
    (swaps : Swaps config argument s argument' s') :
    config.loaderArgument? callee [argument'] = some argument' := by
  cases Config.loaderArgument?_eq_some h
  rw [Config.loaderArgument?_eq] at h ⊢
  simp only [Option.ite_none_right_eq_some] at h ⊢
  exact ⟨⟨h.1.1, swaps.isSpread_eq_false h.1.2⟩, trivial⟩

section HandledCall

variable {span : Span} {callee callee' : Node} {arguments handled inner rest : List Node}
  {optional : Bool} {pass begun mid : Pass} {visited : Visited}

/-- An argument that handling its call left as it was is not settled later. -/
theorem Ready.not_contains_later {argument argument' : Node}
    (ready : Ready (.call span callee arguments optional :: rest) pass)
    (h : config.loaderArgument? callee arguments = some argument)
    (same : SameHead argument argument')
    (unmarked : pass.swapper.visited.contains argument = false)
    (advance : Advance (callIdsAll (callee :: arguments)) pass.swapper mid.swapper)
    (outlasts : Outlasts (Node.call span callee arguments optional).callIds pass.swapper
      mid.swapper visited) :
    visited.contains argument' = false := by
  rw [Bool.eq_false_iff]
  intro marked
  obtain ⟨id, own', later⟩ := (Visited.contains_iff _ _).1 marked
  have own : argument.id? = some id := same.id ▸ own'
  have onBranch := mem_branchIds_of_id? own
  have inArgument := mem_ids_of_mem_branchIds onBranch
  have unsettled := ready.ofCall
  rw [Config.idsAll_of_loaderArgument? h] at unsettled
  have low := unsettled.below id (List.mem_append_right _ inArgument)
  have distinct := List.nodup_append.1 unsettled.distinct
  have atMid : id ∈ mid.swapper.visited.ids := by
    by_contra absent
    refine (outlasts.apart id later absent).1 ?_
    rw [callIds, Config.idsAll_of_loaderArgument? h]
    exact List.mem_append_right _ inArgument
  -- It was settled in the walk, where only identities inside calls and new ones are touched.
  rcases advance.marks id atMid with old | inParts | ⟨new, -⟩
  · rw [Bool.eq_false_iff] at unmarked
    exact unmarked ((Visited.contains_iff _ _).2 ⟨id, own, old⟩)
  · rw [Config.loaderArgument?_eq_some h] at inParts
    simp only [callIdsAll, List.append_nil, List.mem_append] at inParts
    rcases inParts with inCallee | inCall
    · exact distinct.2.2 id (mem_ids_of_mem_callIds inCallee) id inArgument rfl
    · exact not_mem_callIds_of_mem_branchIds distinct.2.1 onBranch inCall
  · exact Nat.not_le_of_lt low new

/-- A call that was handled without an error is settled after the walk, and it was counted as the
call that it is then. -/
theorem Ready.settles (ready : Ready (.call span callee arguments optional :: rest) pass)
    (handles : Handles config remarks span callee arguments pass handled begun)
    (inside : Walks config remarks (callee :: handled) begun (callee' :: inner) mid)
    (ok : begun.error = none)
    (outlasts : Outlasts (Node.call span callee arguments optional).callIds pass.swapper
      mid.swapper visited) :
    config.Settled remarks visited (.call span callee' inner optional) ∧
      begun.report.loaderCalls = pass.report.loaderCalls +
        (if config.isLoaderCall (.call span callee' inner optional) then 1 else 0) ∧
      begun.report.skipped = pass.report.skipped +
        (if config.isSkipped remarks visited (.call span callee' inner optional)
          then 1 else 0) := by
  obtain ⟨sameCallee, sameHandled⟩ := List.forall₂_cons.1 inside.sameHead
  have heads := @Config.loaderArgument?_sameHead config _ _ _ _ sameCallee sameHandled
  have advance := inside.advance (ready.call handles)
  unfold Config.Settled Config.isLoaderCall Config.isSkipped Config.loaderArgumentOf?
  cases handles with
  | failed h => simp [ok] at h
  | foreign _ h =>
      rcases heads with ⟨-, absent⟩ | ⟨_, _, found, -, -⟩
      · simp [absent]
      · simp [h] at found
  | settled _ h marked => simp [ready.not_contains h] at marked
  | ignored events _ h unmarked skip =>
      rcases heads with ⟨absent, -⟩ | ⟨argument, argument', found, found', same⟩
      · simp [h] at absent
      · cases h.symm.trans found
        have later := ready.not_contains_later h same unmarked
          ⟨advance.supply_le, advance.grown, advance.marks⟩ outlasts
        simp [found', later, Config.isIgnored_sameHead same, skip, Node.span]
  | malformed => cases ok
  | @swapped argument changed s _ h unmarked noSkip formed swaps =>
      have stays := loaderArgument?_of_swaps h swaps
      rcases heads with ⟨absent, -⟩ | ⟨_, argument', found, found', same⟩
      · simp [stays] at absent
      · cases stays.symm.trans found
        rcases swaps.result_settled with shape | marked
        · have before : argument.shape = .other := by
            by_contra different
            exact swaps.shape_ne_other different shape
          obtain ⟨rfl, rfl⟩ := swaps.of_shape before
          simp [found', Config.isIgnored_sameHead same, noSkip, same.shape, shape, Node.span]
        · have later : visited.contains argument' = true := by
            obtain ⟨id, own, mem⟩ := (Visited.contains_iff _ _).1 marked
            exact (Visited.contains_iff _ _).2
              ⟨id, same.id.trans own, outlasts.grown id (advance.grown id mem)⟩
          simp [found', later]

end HandledCall

/-- A walk that is ready and ends without an error settles all calls, and counts them as the calls
that they are afterwards. -/
theorem Walks.settled {nodes nodes' : List Node} {pass pass' : Pass} {visited : Visited}
    (h : Walks config remarks nodes pass nodes' pass') (ready : Ready nodes pass)
    (ok : pass'.error = none)
    (outlasts : Outlasts (callIdsAll nodes) pass.swapper pass'.swapper visited) :
    (∀ node ∈ callsAll nodes', config.Settled remarks visited node) ∧
      pass'.report.loaderCalls =
        pass.report.loaderCalls + countCalls config.isLoaderCall nodes' ∧
      pass'.report.skipped =
        pass.report.skipped + countCalls (config.isSkipped remarks visited) nodes' := by
  induction h with
  | nil => simp [callsAll, countCalls]
  | @inert node rest inner rest' pass mid last notCall inside after ihInside ihAfter =>
      have readyInside := ready.inert notCall
      have readyAfter := ready.after_inert notCall inside
      have first := inside.advance readyInside
      have second := after.advance readyAfter
      have midOk := after.error_eq_none ok
      have unsettled := ready.unsettled
      rw [callIdsAll, callIds_eq_parts, notCall] at outlasts unsettled
      obtain ⟨settled, counted, skipped⟩ := ihInside readyInside midOk
        (outlasts.first unsettled first second)
      obtain ⟨settled', counted', skipped'⟩ := ihAfter readyAfter ok (outlasts.second first)
      have notCall' := (node.isCall_withParts inner).trans notCall
      rw [countCalls_inert _ _ notCall', countCalls_inert _ _ notCall',
        parts_withParts node inner inside.length_eq]
      refine ⟨fun call mem => ?_, by omega, by omega⟩
      simp only [callsAll, calls_eq_parts, notCall', parts_withParts node inner inside.length_eq,
        List.mem_append] at mem
      exact mem.elim (settled call) (settled' call)
  | @call span callee callee' arguments handled inner rest rest' optional pass begun mid last
      handling inside after ihInside ihAfter =>
      have handles := handles_of_eq handling
      have readyInside := ready.call handles
      have readyAfter := ready.after_call handles inside
      have inParts := inside.advance readyInside
      have first := call_advance ready handles inParts
      have second := after.advance readyAfter
      have midOk := after.error_eq_none ok
      have ofArguments := ready.ofCall.sublist (List.sublist_append_right _ (idsAll arguments))
      have inCall := outlasts.first ready.unsettled first second
      obtain ⟨settled, counted, skipped⟩ := ihInside readyInside midOk
        (inCall.within (handles.advance ofArguments).supply_le inParts.supply_le
          (ready.within_call handles))
      obtain ⟨settled', counted', skipped'⟩ := ihAfter readyAfter ok (outlasts.second first)
      obtain ⟨own, ownCounted, ownSkipped⟩ := ready.settles handles inside
        (inside.error_eq_none midOk) inCall
      rw [countCalls_call, countCalls_call]
      refine ⟨fun call mem => ?_, by omega, by omega⟩
      simp only [callsAll, calls, List.cons_append, List.mem_cons, List.mem_append] at mem
      rcases mem with rfl | (inCallee | inArguments) | mem
      · exact own
      · exact settled call (List.mem_append_left _ inCallee)
      · exact settled call (List.mem_append_right _ inArguments)
      · exact settled' call mem

end Pass

/-! ## Runs again and again -/

/-- The `n`-th run with the current pass: its outcome, and the program and the pass after it. The
run before the first is none at all. -/
def Runs.nth (config : Config) (remarks : List Remark) (runs : Runs) :
    Nat → Except SwapError Report × Runs
  | 0 => (.ok runs.pass.report, runs)
  | n + 1 => (nth config remarks runs n).2.step config remarks .again

/-- A run over calls that are all settled counts them, and leaves program and settled identities as
they are. -/
theorem Runs.step_again_settled {config : Config} {remarks : List Remark} {runs : Runs}
    (settled : ∀ node ∈ callsAll runs.body,
      config.Settled remarks runs.pass.swapper.visited node)
    (ok : runs.pass.error = none) :
    ∃ events, runs.step config remarks .again =
      (.ok (runs.pass.counting (countCalls config.isLoaderCall runs.body)
          (countCalls (config.isSkipped remarks runs.pass.swapper.visited) runs.body)
          events).report,
        ⟨runs.body, runs.pass.counting (countCalls config.isLoaderCall runs.body)
          (countCalls (config.isSkipped remarks runs.pass.swapper.visited) runs.body)
          events⟩) := by
  obtain ⟨events, walks⟩ := Pass.walks_settled runs.body runs.pass settled ok
  refine ⟨events, ?_⟩
  have run := Pass.run_eq_of_walks walks
  simp only [Pass.counting, ok] at run
  simp [step, run, Pass.counting, ok]

/-- So do any number of runs. -/
theorem Runs.nth_settled {config : Config} {remarks : List Remark} {runs : Runs}
    (settled : ∀ node ∈ callsAll runs.body,
      config.Settled remarks runs.pass.swapper.visited node)
    (ok : runs.pass.error = none) (n : Nat) :
    ∃ pass, runs.nth config remarks n = (.ok pass.report, ⟨runs.body, pass⟩) ∧
      ∃ events, pass = runs.pass.counting (n * countCalls config.isLoaderCall runs.body)
        (n * countCalls (config.isSkipped remarks runs.pass.swapper.visited) runs.body)
        events := by
  induction n with
  | zero => exact ⟨runs.pass, rfl, runs.pass.swapper.events, by simp [Pass.counting]⟩
  | succ n ih =>
      obtain ⟨pass, eq, events, hpass⟩ := ih
      have settled' : ∀ node ∈ callsAll runs.body,
          config.Settled remarks pass.swapper.visited node := by
        rw [hpass]
        exact settled
      have ok' : pass.error = none := by
        rw [hpass]
        exact ok
      obtain ⟨events', step⟩ := @step_again_settled config remarks ⟨runs.body, pass⟩ settled' ok'
      refine ⟨_, by rw [nth, eq]; exact step, events', ?_⟩
      rw [hpass, Pass.counting_counting, Nat.succ_mul, Nat.succ_mul]
      rfl

/-- The runs after a first one are the runs of what it left. -/
theorem Runs.nth_succ {config : Config} {remarks : List Remark} {runs runs' : Runs}
    (first : runs.step config remarks .again = (.ok runs'.pass.report, runs')) (n : Nat) :
    runs.nth config remarks (n + 1) = runs'.nth config remarks n := by
  induction n with
  | zero => exact first
  | succ n ih => rw [nth, ih, nth]

/-- A first run that ends well has settled all calls of the program that it leaves, and its report
counts them. -/
theorem Runs.first_settled {config : Config} {remarks : List Remark} {body : List Node}
    {supply : NodeId} (numbered : Numbered body supply) {report : Report} {runs : Runs}
    (first : (Runs.mk body (Pass.new supply)).step config remarks .again = (.ok report, runs)) :
    (∀ node ∈ callsAll runs.body, config.Settled remarks runs.pass.swapper.visited node) ∧
      runs.pass.error = none ∧ runs.pass.report = report ∧
      report.loaderCalls = countCalls config.isLoaderCall runs.body ∧
      report.skipped =
        countCalls (config.isSkipped remarks runs.pass.swapper.visited) runs.body := by
  have run : (Pass.new supply).run config remarks body = (.ok report, runs.body, runs.pass) := by
    simp only [step, Prod.mk.injEq] at first
    obtain ⟨outcome, rfl⟩ := first
    rw [← outcome]
  obtain ⟨walks, ok, rfl⟩ := Pass.walks_of_run_ok run
  obtain ⟨settled, counted, skipped⟩ := walks.settled (Pass.ready_new numbered) ok
    ⟨fun id mem => mem, fun id mem absent => absurd mem absent⟩
  exact ⟨settled, ok, rfl, by simpa [Pass.new] using counted, by simpa [Pass.new] using skipped⟩

/-- If the first run of a new pass ends well, every later run with this pass does, leaves the very
program that the first run left, and counts the calls of the loader and the kept arguments once
more, but no change. -/
theorem nth_run_eq_first (config : Config) (remarks : List Remark) (body : List Node)
    (supply : NodeId) (numbered : Numbered body supply) (report : Report)
    (first : ((Runs.mk body (Pass.new supply)).nth config remarks 1).1 = .ok report) (n : Nat)
    (positive : 1 ≤ n) :
    ((Runs.mk body (Pass.new supply)).nth config remarks n).1 =
        .ok ⟨n * report.loaderCalls, report.swapped, n * report.skipped⟩ ∧
      ((Runs.mk body (Pass.new supply)).nth config remarks n).2.body =
        ((Runs.mk body (Pass.new supply)).nth config remarks 1).2.body ∧
      ((Runs.mk body (Pass.new supply)).nth config remarks n).2.pass.report =
        ⟨n * report.loaderCalls, report.swapped, n * report.skipped⟩ := by
  obtain ⟨left, step⟩ : ∃ left,
      (Runs.mk body (Pass.new supply)).step config remarks .again = (.ok report, left) :=
    ⟨_, Prod.ext first rfl⟩
  obtain ⟨settled, ok, same, counted, skipped⟩ := Runs.first_settled numbered step
  obtain ⟨k, rfl⟩ : ∃ k, n = k + 1 := ⟨n - 1, by omega⟩
  rw [← same] at step
  obtain ⟨pass, eq, events, rfl⟩ := Runs.nth_settled settled ok k
  have counts : (left.pass.counting (k * countCalls config.isLoaderCall left.body)
      (k * countCalls (config.isSkipped remarks left.pass.swapper.visited) left.body)
      events).report =
        ⟨(k + 1) * report.loaderCalls, report.swapped, (k + 1) * report.skipped⟩ := by
    rw [← counted, ← skipped, Pass.counting, same, Nat.succ_mul, Nat.succ_mul, Nat.add_comm,
      Nat.add_comm report.skipped]
  rw [Runs.nth_succ step, eq, Runs.nth_succ step 0]
  exact ⟨congrArg _ counts, rfl, counts⟩

/-- Three runs over a template with a call of the loader inside, an argument that a comment keeps and
an argument of no shape that may be changed. -/
theorem third_run_eq_first :
    let body : List Node := [
      .call ⟨0, 40⟩ (.name {} "require")
        [.template 0 {} [⟨"./", some "./", false, {}⟩, ⟨".jpg", some ".jpg", false, {}⟩]
          [.call {} (.name {} "require") [.text 1 {} "./a.png" false] false]] false,
      .call ⟨41, 90⟩ (.name {} "require") [.text 2 ⟨49, 58⟩ "./c.png" false] false,
      .call {} (.name {} "require") [.name {} "path"] false]
    let remarks := [⟨⟨60, 77⟩, " webp-ignore "⟩]
    Numbered body 3 ∧ ((Runs.mk body (Pass.new 3)).nth {} remarks 1).1 = .ok ⟨5, 3, 1⟩ ∧
      ((Runs.mk body (Pass.new 3)).nth {} remarks 3).1 = .ok ⟨3 * 5, 3, 3 * 1⟩ ∧
      ((Runs.mk body (Pass.new 3)).nth {} remarks 3).2.body =
        ((Runs.mk body (Pass.new 3)).nth {} remarks 1).2.body ∧
      ((Runs.mk body (Pass.new 3)).nth {} remarks 3).2.pass.report = ⟨3 * 5, 3, 3 * 1⟩ := by
  intro body remarks
  have numbered : Numbered body 3 := ⟨by decide, by decide⟩
  have first : ((Runs.mk body (Pass.new 3)).nth {} remarks 1).1 = .ok ⟨5, 3, 1⟩ := by
    unfold body remarks
    rfl
  exact ⟨numbered, first, nth_run_eq_first {} remarks body 3 numbered ⟨5, 3, 1⟩ first 3 (by decide)⟩

end ImageFallback
