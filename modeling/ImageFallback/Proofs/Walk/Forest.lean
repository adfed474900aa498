import ImageFallback.Proofs.Swap.Plain
import ImageFallback.Swap.Runs

/-!
# A run as a walk over trees

`Pass.walk` counts down the calls that lie inside one another. The relation `Walks` says the same
without a count: a walk over some trees handles the first of them, goes into the parts that the
tree has then, puts what it gets back into their place, and goes on to the rest. Every program can
be walked over so (`exists_walks`), because the parts of a handled call never hold more calls inside
one another than the call did, and a run is this walk (`run_eq_of_walks`).

A statement about runs is then an induction over `Walks`, with one case for no trees, one for a node
that is no call and one for a call.
-/

namespace ImageFallback

open Node

/-! ## Handling a call does not make calls lie deeper -/

namespace Node

theorem callDepth_eq_parts (node : Node) :
    node.callDepth =
      if node.isCall then callDepthAll node.parts + 1 else callDepthAll node.parts := by
  cases node <;> simp [callDepth, callDepthAll, parts, isCall]

theorem callDepthAll_mapIdsAll (f : NodeId → NodeId) (nodes : List Node) :
    callDepthAll (mapIdsAll f nodes) = callDepthAll nodes := by
  induction nodes using forestInduction with
  | nil => rfl
  | cons node rest inside after =>
      rw [mapIdsAll, callDepthAll, callDepthAll, after, callDepth_eq_parts, callDepth_eq_parts,
        parts_mapIds, inside, isCall_mapIds]

end Node

/-- A changed argument has as many calls inside one another as the argument had. -/
theorem Swaps.callDepth_eq {config : Config} {node node' : Node} {s s' : Swapper}
    (h : Swaps config node s node' s') : node'.callDepth = node.callDepth := by
  induction h with
  | settled | other | kept => rfl
  | paren h inside ih => rw [ih, callDepth]
  | text => simp [callDepth]
  | template => simp [callDepth, callDepthAll_mapIdsAll]
  | conditional fresh h first second ihYes ihNo => simp [callDepth, ihYes, ihNo]

namespace Pass

variable (config : Config) (remarks : List Remark)

/-- The ways in which handling a call of the loader ends. -/
inductive Handles (span : Span) (callee : Node) (arguments : List Node) (pass : Pass) :
    List Node → Pass → Prop where
  /-- After an error nothing is handled. -/
  | failed (h : pass.error.isSome = true) : Handles span callee arguments pass arguments pass
  /-- The call is none of the loader. -/
  | foreign (ok : pass.error = none) (h : config.loaderArgument? callee arguments = none) :
      Handles span callee arguments pass arguments pass
  /-- The argument is settled. -/
  | settled {argument : Node} (ok : pass.error = none)
      (h : config.loaderArgument? callee arguments = some argument)
      (marked : pass.swapper.visited.contains argument = true) :
      Handles span callee arguments pass arguments
        { pass with report := { pass.report with loaderCalls := pass.report.loaderCalls + 1 } }
  /-- A comment keeps the argument as it is. -/
  | ignored {argument : Node} (events : List Event) (ok : pass.error = none)
      (h : config.loaderArgument? callee arguments = some argument)
      (unmarked : pass.swapper.visited.contains argument = false)
      (skip : config.isIgnored remarks argument span = true) :
      Handles span callee arguments pass arguments
        { pass with
          swapper := { pass.swapper with events := events }
          report := { pass.report with
            loaderCalls := pass.report.loaderCalls + 1
            skipped := pass.report.skipped + 1 } }
  /-- A template in the argument is malformed. -/
  | malformed {argument : Node} {e : SwapError} (ok : pass.error = none)
      (h : config.loaderArgument? callee arguments = some argument)
      (unmarked : pass.swapper.visited.contains argument = false)
      (noSkip : config.isIgnored remarks argument span = false)
      (bad : Swapper.wellFormed argument = .error e) :
      Handles span callee arguments pass arguments
        { pass with
          report := { pass.report with loaderCalls := pass.report.loaderCalls + 1 }
          error := some e }
  /-- The argument is changed. -/
  | swapped {argument argument' : Node} {s : Swapper} (ok : pass.error = none)
      (h : config.loaderArgument? callee arguments = some argument)
      (unmarked : pass.swapper.visited.contains argument = false)
      (noSkip : config.isIgnored remarks argument span = false)
      (formed : Swapper.wellFormed argument = .ok ())
      (swaps : Swaps config argument pass.swapper argument' s) :
      Handles span callee arguments pass [argument']
        { pass with
          swapper := s
          report := { pass.report with
            loaderCalls := pass.report.loaderCalls + 1
            swapped := pass.report.swapped +
              if pass.swapper.synthesized < s.synthesized then 1 else 0 } }

/-- `Pass.handleCall` ends in one of these ways. -/
theorem handleCall_handles (span : Span) (callee : Node) (arguments : List Node) (pass : Pass) :
    Handles config remarks span callee arguments pass
      (pass.handleCall config remarks span callee arguments).1
      (pass.handleCall config remarks span callee arguments).2 := by
  unfold handleCall handleCallBy
  split
  · exact Handles.failed ‹_›
  · have ok : pass.error = none := by simpa using ‹¬pass.error.isSome = true›
    split
    · exact Handles.foreign ok ‹_›
    · rename_i argument h
      dsimp only
      split
      · exact Handles.settled ok h ‹_›
      · have unmarked : pass.swapper.visited.contains argument = false := by simp_all
        split
        · exact Handles.ignored _ ok h unmarked ‹_›
        · have noSkip : config.isIgnored remarks argument span = false := by simp_all
          unfold Swapper.swapInPlaceBy
          cases formed : Swapper.wellFormed argument with
          | error e => exact Handles.malformed ok h unmarked noSkip formed
          | ok => exact Handles.swapped ok h unmarked noSkip formed (Swapper.swap_swaps _ _ _)

variable {config remarks}

theorem Handles.callDepthAll_eq {span : Span} {callee : Node} {arguments arguments' : List Node}
    {pass pass' : Pass} (h : Handles config remarks span callee arguments pass arguments' pass') :
    callDepthAll arguments' = callDepthAll arguments := by
  cases h with
  | swapped ok h unmarked noSkip formed swaps =>
      simp [Config.loaderArgument?_eq_some h, callDepthAll, swaps.callDepth_eq]
  | _ => rfl

variable (config remarks) in
/-- A walk over trees with a pass: the trees afterwards, and the pass. -/
inductive Walks : List Node → Pass → List Node → Pass → Prop where
  | nil (pass : Pass) : Walks [] pass [] pass
  /-- The walk goes into the parts of a node that is no call. -/
  | inert {node : Node} {rest inner rest' : List Node} {pass mid last : Pass}
      (notCall : node.isCall = false) (inside : Walks node.parts pass inner mid)
      (after : Walks rest mid rest' last) :
      Walks (node :: rest) pass (node.withParts inner :: rest') last
  /-- A call is handled first, and the walk goes into the arguments that it has then. -/
  | call {span : Span} {callee callee' : Node} {arguments handled inner rest rest' : List Node}
      {optional : Bool} {pass begun mid last : Pass}
      (handling : pass.handleCall config remarks span callee arguments = (handled, begun))
      (inside : Walks (callee :: handled) begun (callee' :: inner) mid)
      (after : Walks rest mid rest' last) :
      Walks (.call span callee arguments optional :: rest) pass
        (.call span callee' inner optional :: rest') last

theorem handles_of_eq {span : Span} {callee : Node} {arguments handled : List Node}
    {pass begun : Pass}
    (h : pass.handleCall config remarks span callee arguments = (handled, begun)) :
    Handles config remarks span callee arguments pass handled begun := by
  simpa [h] using handleCall_handles config remarks span callee arguments pass

namespace Walks

theorem length_eq {nodes nodes' : List Node} {pass pass' : Pass}
    (h : Walks config remarks nodes pass nodes' pass') : nodes'.length = nodes.length := by
  induction h with
  | nil => rfl
  | inert _ _ _ _ ih => simp [ih]
  | call _ _ _ _ ih => simp [ih]

theorem append {xs xs' ys ys' : List Node} {pass mid last : Pass}
    (first : Walks config remarks xs pass xs' mid)
    (second : Walks config remarks ys mid ys' last) :
    Walks config remarks (xs ++ ys) pass (xs' ++ ys') last := by
  induction first with
  | nil => exact second
  | inert notCall inside after _ ih => exact inert notCall inside (ih second)
  | call handling inside after _ ih => exact call handling inside (ih second)

/-- A walk over trees is a walk over the first of them and one over the rest. -/
theorem cons_inv {node : Node} {rest out : List Node} {pass last : Pass}
    (h : Walks config remarks (node :: rest) pass out last) :
    ∃ node' rest' mid, out = node' :: rest' ∧ Walks config remarks [node] pass [node'] mid ∧
      Walks config remarks rest mid rest' last := by
  cases h with
  | inert notCall inside after => exact ⟨_, _, _, rfl, inert notCall inside (nil _), after⟩
  | call handling inside after => exact ⟨_, _, _, rfl, call handling inside (nil _), after⟩

/-- A walk over a node that is no call is a walk over its parts. -/
theorem inert_inv {node node' : Node} {pass last : Pass} (notCall : node.isCall = false)
    (h : Walks config remarks [node] pass [node'] last) :
    ∃ inner, node' = node.withParts inner ∧ Walks config remarks node.parts pass inner last := by
  generalize out : [node'] = nodes' at h
  cases h with
  | inert _ inside after =>
      cases after
      cases out
      exact ⟨_, rfl, inside⟩
  | call => cases notCall

/-- A walk ends in one way only. -/
theorem unique {nodes xs ys : List Node} {pass p q : Pass}
    (hx : Walks config remarks nodes pass xs p) (hy : Walks config remarks nodes pass ys q) :
    xs = ys ∧ p = q := by
  induction hx generalizing ys q with
  | nil => cases hy; exact ⟨rfl, rfl⟩
  | inert notCall inside after ihInside ihAfter =>
      cases hy with
      | inert _ inside' after' =>
          obtain ⟨rfl, rfl⟩ := ihInside inside'
          obtain ⟨rfl, rfl⟩ := ihAfter after'
          exact ⟨rfl, rfl⟩
      | call => cases notCall
  | call handling inside after ihInside ihAfter =>
      cases hy with
      | inert notCall => cases notCall
      | call handling' inside' after' =>
          cases handling.symm.trans handling'
          obtain ⟨same, rfl⟩ := ihInside inside'
          cases same
          obtain ⟨rfl, rfl⟩ := ihAfter after'
          exact ⟨rfl, rfl⟩

/-- A walk keeps what a node has in common with itself around other parts, as long as a call has it
in common with itself whatever its parts are. -/
theorem related {R : Node → Node → Prop} {nodes nodes' : List Node} {pass pass' : Pass}
    (h : Walks config remarks nodes pass nodes' pass')
    (parts : ∀ {node : Node} {ps : List Node}, List.Forall₂ R node.parts ps →
      R node (node.withParts ps))
    (calls : ∀ span callee callee' arguments arguments' optional,
      R (.call span callee arguments optional) (.call span callee' arguments' optional)) :
    List.Forall₂ R nodes nodes' := by
  induction h with
  | nil => exact List.Forall₂.nil
  | inert _ _ _ ihInside ihAfter => exact List.Forall₂.cons (parts ihInside) ihAfter
  | call _ _ _ _ ihAfter => exact List.Forall₂.cons (calls _ _ _ _ _ _) ihAfter

/-- A node keeps its head on a walk. -/
theorem sameHead {nodes nodes' : List Node} {pass pass' : Pass}
    (h : Walks config remarks nodes pass nodes' pass') : List.Forall₂ SameHead nodes nodes' :=
  h.related sameHead_withParts fun _ _ _ _ _ _ => sameHead_call _ _ _ _ _ _ _

/-- Where there is no call nothing happens. -/
theorem of_callDepthAll_eq_zero (nodes : List Node) (pass : Pass)
    (h : callDepthAll nodes = 0) : Walks config remarks nodes pass nodes pass := by
  induction nodes using forestInduction with
  | nil => exact nil pass
  | cons node rest inside after =>
      have ⟨hnode, hrest⟩ : node.callDepth = 0 ∧ callDepthAll rest = 0 := by
        simpa [callDepthAll] using h
      rw [callDepth_eq_parts] at hnode
      split at hnode
      · cases hnode
      · rename_i notCall
        simpa using inert (by simpa using notCall) (inside hnode) (after hrest)

end Walks

/-! ## Runs are walks -/

theorem onCalls_of_not_call {σ : Type} (f : CallStep σ) {node : Node} (s : σ)
    (h : node.isCall = false) :
    node.onCalls f s =
      (node.withParts (onCallsAll f node.parts s).1, (onCallsAll f node.parts s).2) := by
  cases node with
  | call => cases h
  | _ => simp [onCalls, onCallsAll, parts, withParts]

variable (config remarks)

/-- If changing a call is a walk over it, changing all calls of trees is a walk over them. -/
theorem onCallsAll_walks (f : CallStep Pass) (depth : Nat)
    (step : ∀ span callee arguments optional pass,
      (Node.call span callee arguments optional).callDepth ≤ depth →
        Walks config remarks [.call span callee arguments optional] pass
          [(f span callee arguments optional pass).1] (f span callee arguments optional pass).2)
    (nodes : List Node) (pass : Pass) (h : callDepthAll nodes ≤ depth) :
    Walks config remarks nodes pass (onCallsAll f nodes pass).1 (onCallsAll f nodes pass).2 := by
  induction nodes using callInduction generalizing pass with
  | nil => exact Walks.nil pass
  | inert node rest notCall inside after =>
      have hnode : callDepthAll node.parts ≤ depth := by
        have low := Nat.le_trans (Nat.le_max_left _ _) h
        rwa [callDepth_eq_parts, notCall] at low
      have hrest : callDepthAll rest ≤ depth := Nat.le_trans (Nat.le_max_right _ _) h
      rw [onCallsAll, onCalls_of_not_call f pass notCall]
      exact Walks.inert notCall (inside pass hnode) (after _ hrest)
  | call span callee arguments optional rest inside after =>
      have hrest : callDepthAll rest ≤ depth := Nat.le_trans (Nat.le_max_right _ _) h
      have first := step span callee arguments optional pass
        (Nat.le_trans (Nat.le_max_left _ _) h)
      exact first.append (after _ hrest)

/-- If a function walks over single nodes, it walks over trees one after the other. -/
theorem thread_walks (f : Node → Pass → Node × Pass) (depth : Nat)
    (step : ∀ node pass, node.callDepth ≤ depth →
      Walks config remarks [node] pass [(f node pass).1] (f node pass).2)
    (nodes : List Node) (pass : Pass) (h : callDepthAll nodes ≤ depth) :
    Walks config remarks nodes pass (thread f nodes pass).1 (thread f nodes pass).2 := by
  induction nodes generalizing pass with
  | nil => exact Walks.nil pass
  | cons node rest ih =>
      have first := step node pass (Nat.le_trans (Nat.le_max_left _ _) h)
      exact first.append (ih _ (Nat.le_trans (Nat.le_max_right _ _) h))

/-- A depth that the calls of a node do not exceed is depth enough for a walk over it. -/
theorem walk_walks (depth : Nat) (node : Node) (pass : Pass) (h : node.callDepth ≤ depth) :
    Walks config remarks [node] pass [(walk config remarks depth node pass).1]
      (walk config remarks depth node pass).2 := by
  induction depth generalizing node pass with
  | zero => exact Walks.of_callDepthAll_eq_zero _ _ (by simpa [callDepthAll] using h)
  | succ depth ih =>
      rw [walk]
      have walked := onCallsAll_walks config remarks
        (fun span callee arguments optional pass =>
          let handled := pass.handleCall config remarks span callee arguments
          let callee := walk config remarks depth callee handled.2
          let arguments := Node.thread (walk config remarks depth) handled.1 callee.2
          (.call span callee.1 arguments.1 optional, arguments.2)) (depth + 1) ?_ [node] pass
        (by simpa [callDepthAll] using h)
      · simpa only [onCallsAll] using walked
      · intro span callee arguments optional pass deep
        have enough : max callee.callDepth (callDepthAll arguments) ≤ depth :=
          Nat.le_of_succ_le_succ deep
        have handles := handleCall_handles config remarks span callee arguments pass
        have shallow : callDepthAll (pass.handleCall config remarks span callee arguments).1 ≤
            depth :=
          handles.callDepthAll_eq ▸ Nat.le_trans (Nat.le_max_right _ _) enough
        have first := ih callee (pass.handleCall config remarks span callee arguments).2
          (Nat.le_trans (Nat.le_max_left _ _) enough)
        exact Walks.call rfl (first.append (thread_walks config remarks _ depth ih _ _ shallow))
          (Walks.nil _)

/-- Every program can be walked over. -/
theorem exists_walks (body : List Node) (pass : Pass) :
    ∃ out last, Walks config remarks body pass out last :=
  ⟨_, _, thread_walks config remarks _ _ (walk_walks config remarks _) body pass (Nat.le_refl _)⟩

variable {config remarks}

/-- A run is a walk over the program; its outcome is the error at the end, or the report. -/
theorem run_eq_of_walks {body out : List Node} {pass last : Pass}
    (h : Walks config remarks body pass out last) :
    pass.run config remarks body =
      match last.error with
      | some e => (.error e, out, { last with error := none })
      | none => (.ok last.report, out, last) := by
  have walked := thread_walks config remarks _ _ (walk_walks config remarks _) body pass
    (Nat.le_refl _)
  obtain ⟨rfl, rfl⟩ := h.unique walked
  rfl

/-- A run that ends well is a walk without an error. -/
theorem walks_of_run_ok {body out : List Node} {pass last : Pass} {report : Report}
    (h : pass.run config remarks body = (.ok report, out, last)) :
    Walks config remarks body pass out last ∧ last.error = none ∧ last.report = report := by
  obtain ⟨out', last', walks⟩ := exists_walks config remarks body pass
  rw [run_eq_of_walks walks] at h
  cases ok : last'.error with
  | some e => simp [ok] at h
  | none =>
      simp only [ok, Prod.mk.injEq, Except.ok.injEq] at h
      obtain ⟨same, rfl, rfl⟩ := h
      exact ⟨walks, ok, same⟩

end Pass

end ImageFallback
