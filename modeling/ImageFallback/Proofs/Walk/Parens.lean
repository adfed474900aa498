import ImageFallback.Proofs.Walk.Meetings
import ImageFallback.Proofs.Walk.Ready

/-!
# Parentheses around the parts of a call

`bare` takes all parentheses away. A change of an argument does not see them: it gives the same node
without parentheses, and the same state to the letter (`swap_bare`). A walk is simulated by the walk
over the bare trees, in which it skips a step where the trees have parentheses, as long as every call
is handled alike with and without them.

Two things about a call are told from its parts as they stand: whether its callee is the name of the
loader, and which comments follow its argument. `Config.seesThrough` says that neither depends on
parentheses, and it holds exactly when the counters do not tell the two ways apart
(`seesThrough_iff`). It fails for a loader between parentheses, and for a comment inside the
parentheses around an argument.
-/

namespace ImageFallback

open Node Swapper

namespace Node

mutual

/-- The node without parentheses. -/
@[local simp] def bare : Node → Node
  | text id span value lone => text id span value lone
  | template id span quasis parts => template id span quasis (bareAll parts)
  | conditional id span test yes no => conditional id span (bare test) (bare yes) (bare no)
  | paren _ inner => bare inner
  | name span value => name span value
  | call span callee arguments optional => call span (bare callee) (bareAll arguments) optional
  | atom span value => atom span value
  | unary span form inner => unary span form (bare inner)
  | binary span form left right => binary span form (bare left) (bare right)
  | group span form items => group span form (bareAll items)

/-- The nodes without parentheses. -/
@[local simp] def bareAll : List Node → List Node
  | [] => []
  | node :: rest => bare node :: bareAll rest

end

/-- The node stands between parentheses. -/
def isParen : Node → Bool
  | paren .. => true
  | _ => false

theorem length_bareAll (nodes : List Node) : (bareAll nodes).length = nodes.length := by
  induction nodes with
  | nil => rfl
  | cons node rest ih => simp [ih]

theorem parts_bare {node : Node} (h : node.isParen = false) :
    node.bare.parts = bareAll node.parts := by
  cases node with
  | paren => cases h
  | _ => simp [parts]

theorem isCall_bare {node : Node} (h : node.isParen = false) : node.bare.isCall = node.isCall := by
  cases node with
  | paren => cases h
  | _ => rfl

theorem id?_bare {node : Node} (h : node.isParen = false) : node.bare.id? = node.id? := by
  cases node with
  | paren => cases h
  | _ => rfl

theorem bare_withParts {node : Node} (h : node.isParen = false) (ps : List Node)
    (length : ps.length = node.parts.length) :
    (node.withParts ps).bare = node.bare.withParts (bareAll ps) := by
  cases node with
  | paren => cases h
  | text | name | atom => rfl
  | template | group => simp [withParts]
  | unary =>
      obtain ⟨p, rfl⟩ := List.length_eq_one_iff.1 length
      simp [withParts]
  | binary =>
      obtain ⟨p, q, rfl⟩ := List.length_eq_two.1 length
      simp [withParts]
  | conditional =>
      obtain ⟨p, q, r, rfl⟩ := List.length_eq_three.1 length
      simp [withParts]
  | call =>
      cases ps with
      | nil => simp [parts] at length
      | cons p ps => simp [withParts]

theorem shape_bare (node : Node) : node.bare.shape = node.shape := by
  induction node using shape.induct with
  | case4 span inner ih => exact ih
  | case5 node => cases node <;> simp_all [shape]
  | _ => simp [shape]

/-- The first leaf with a fault has the same one without parentheses. -/
theorem findSome?_leaves_bare (node : Node) :
    node.bare.leaves.findSome? misshapen? = node.leaves.findSome? misshapen? := by
  induction node using leaves.induct with
  | case1 id span test yes no ihYes ihNo =>
      simp only [bare, leaves, List.findSome?_append, ihYes, ihNo]
  | case2 span inner ih => exact ih
  | case3 node notConditional notParen =>
      cases node with
      | conditional => exact (notConditional _ _ _ _ _ rfl).elim
      | paren => exact (notParen _ _ rfl).elim
      | template => simp [leaves, misshapen?, length_bareAll]
      | _ => rfl

theorem bareAll_mapIdsAll (f : NodeId → NodeId) (nodes : List Node) :
    bareAll (mapIdsAll f nodes) = mapIdsAll f (bareAll nodes) := by
  induction nodes using forestInduction with
  | nil => rfl
  | cons node rest inside after =>
      rw [mapIdsAll, bareAll, bareAll, mapIdsAll, after]
      congr 1
      cases node <;> simp_all [mapIds, mapIdsAll, parts]

theorem idsAll_bareAll (nodes : List Node) : idsAll (bareAll nodes) = idsAll nodes := by
  induction nodes using forestInduction with
  | nil => rfl
  | cons node rest inside after =>
      rw [bareAll, idsAll, idsAll, after]
      congr 1
      cases node <;> simp_all [ids, idsAll, parts]

end Node

@[simp] theorem Config.bare_supportTest (config : Config) : config.supportTest.bare =
    config.supportTest :=
  config.supportTest_induction (motive := fun node => node.bare = node) rfl
    fun _ _ h => by simpa [bare] using h

/-! ## Changing an argument without parentheses -/

namespace Swapper

theorem wellFormed_bare (node : Node) : wellFormed node.bare = wellFormed node := by
  rw [wellFormed_eq, wellFormed_eq, findSome?_leaves_bare]

theorem swapText_bare (config : Config) (id : NodeId) (span : Span) (value : String) (lone : Bool)
    (s : Swapper) :
    (s.swapText config id span value lone).1.bare = (s.swapText config id span value lone).1 := by
  unfold swapText choice
  split <;> simp [bare]

theorem swapTemplate_bare (config : Config) (id : NodeId) (span : Span) (quasis : List Quasi)
    (parts : List Node) (s : Swapper) :
    s.swapTemplate config id span quasis (bareAll parts) =
      ((s.swapTemplate config id span quasis parts).1.bare,
        (s.swapTemplate config id span quasis parts).2) := by
  unfold swapTemplate choice copyAll
  split
  · simp [bare, bareAll_mapIdsAll, length_bareAll, mark, Visited.mark, id?]
  · simp [bare]

theorem isParen_swapTemplate (config : Config) (id : NodeId) (span : Span) (quasis : List Quasi)
    (parts : List Node) (s : Swapper) :
    (s.swapTemplate config id span quasis parts).1.isParen = false := by
  unfold swapTemplate choice
  split <;> rfl

theorem mark_bare {node : Node} (h : node.isParen = false) (s : Swapper) :
    s.mark node.bare = s.mark node := by
  simp only [mark, Visited.mark, id?_bare h]

theorem swap_of_shape (config : Config) {node : Node} (h : node.shape = .other) (s : Swapper) :
    s.swap config node = (node, s) := by
  obtain ⟨same, same'⟩ := (swap_swaps config node s).of_shape h
  exact Prod.ext same same'

/-- A change gives the same without parentheses, and leaves the same state. -/
theorem swap_bare (config : Config) (node : Node) (s : Swapper) :
    s.swap config node.bare = ((s.swap config node).1.bare, (s.swap config node).2) := by
  simp only [← swapBy_contains]
  fun_induction swapBy Visited.contains config node s with
  | case1 span inner s h => exact swap_of_shape config ((shape_bare inner).trans h) s
  | case2 span inner s h ih => exact ih
  | case3 id span value lone s node h => simp [bare, swapBy, node, h]
  | case4 id span value lone s node h result =>
      have same : result.1.bare = result.1 := by
        unfold result
        split
        · exact swapText_bare config id span value lone s
        · rfl
      simp only [bare, swapBy]
      rw [if_neg h, same]
  | case5 id span quasis parts s node h =>
      have settled : s.visited.contains (.template id span quasis (bareAll parts)) = true := h
      simp only [bare, swapBy, node]
      rw [if_pos settled]
  | case6 id span quasis parts s node h result =>
      have unsettled : ¬s.visited.contains (.template id span quasis (bareAll parts)) = true := h
      simp only [bare, swapBy]
      rw [if_neg unsettled]
      by_cases enabled : config.shapes.template = true
      · have notParen := isParen_swapTemplate config id span quasis parts s
        simp only [result, if_pos enabled, swapTemplate_bare, mark_bare notParen]
      · simp only [result, if_neg enabled, node, bare]
        rfl
  | case7 id span test yes no s node h =>
      have settled : s.visited.contains (.conditional id span test.bare yes.bare no.bare) = true := h
      simp only [bare, swapBy, node]
      rw [if_pos settled]
  | case8 id span test yes no s node h enabled first second newId s' taken result ihYes ihNo =>
      have unsettled :
          ¬s.visited.contains (.conditional id span test.bare yes.bare no.bare) = true := h
      cases taken
      simp only [bare, swapBy, result]
      rw [if_neg unsettled, if_pos enabled]
      have inNo : swapBy Visited.contains config no.bare (swapBy Visited.contains config yes s).2 =
          (second.1.bare, second.2) := ihNo
      simp only [ihYes, inNo, fresh]
      rfl
  | case9 id span test yes no s node h disabled =>
      have unsettled :
          ¬s.visited.contains (.conditional id span test.bare yes.bare no.bare) = true := h
      simp only [bare, swapBy, node]
      rw [if_neg unsettled, if_neg disabled]
      rfl
  | case10 node s notParen notText notTemplate notConditional =>
      have other := shape_eq_other notParen notText notTemplate notConditional
      exact swap_of_shape config ((shape_bare node).trans other) s

end Swapper

/-! ## Handling a call without parentheses -/

namespace Config

variable (config : Config) (remarks : List Remark)

/-- Parentheses around its parts do not decide how a call is handled. -/
def seesThrough : Node → Bool
  | .call span callee arguments _ =>
    match config.loaderArgument? callee arguments,
      config.loaderArgument? callee.bare (bareAll arguments) with
    | some argument, some inner =>
      config.isIgnored remarks argument span == config.isIgnored remarks inner span
    | none, none => true
    | _, _ => false
  | _ => true

variable {config remarks} {callee argument inner : Node} {arguments : List Node}

/-- What is the argument of the loader with and without parentheses is the same node. -/
theorem eq_bare_of_loaderArgument? (h : config.loaderArgument? callee arguments = some argument)
    (h' : config.loaderArgument? callee.bare (bareAll arguments) = some inner) :
    inner = argument.bare := by
  have one := loaderArgument?_eq_some h'
  rw [loaderArgument?_eq_some h] at one
  simpa [bareAll] using one.symm

theorem seesThrough_mapIds (f : NodeId → NodeId) (node : Node) :
    config.seesThrough remarks (node.mapIds f) = config.seesThrough remarks node := by
  have same (node : Node) : (node.mapIds f).bare = node.bare.mapIds f := by
    simpa [mapIdsAll, bareAll] using bareAll_mapIdsAll f [node]
  cases node with
  | call span callee arguments optional =>
      simp only [mapIds, seesThrough, same, bareAll_mapIdsAll, loaderArgument?_mapIds]
      cases config.loaderArgument? callee arguments <;>
        cases config.loaderArgument? callee.bare (bareAll arguments) <;>
          simp [isIgnored_mapIds]
  | _ => rfl

end Config

namespace Pass

variable {config : Config} {remarks : List Remark} {span : Span} {callee : Node}
  {arguments : List Node} {pass : Pass}

theorem contains_eq_false {node : Node} (h : ∀ id ∈ node.ids, id ∉ pass.swapper.visited.ids) :
    pass.swapper.visited.contains node = false := by
  rw [Bool.eq_false_iff]
  intro marked
  obtain ⟨id, own, mem⟩ := (Visited.contains_iff _ _).1 marked
  exact h id (mem_ids_of_mem_branchIds (mem_branchIds_of_id? own)) mem

theorem report_of_foreign (remarks : List Remark) (span : Span) (ok : pass.error = none)
    (h : config.loaderArgument? callee arguments = none) :
    (pass.handleCall config remarks span callee arguments).2.report = pass.report := by
  simp [handleCall, handleCallBy, ok, h]

theorem report_of_found {argument : Node} (remarks : List Remark) (span : Span)
    (ok : pass.error = none)
    (h : config.loaderArgument? callee arguments = some argument)
    (fresh : pass.swapper.visited.contains argument = false) :
    (pass.handleCall config remarks span callee arguments).2.report.loaderCalls =
        pass.report.loaderCalls + 1 ∧
      (pass.handleCall config remarks span callee arguments).2.report.skipped =
        pass.report.skipped + if config.isIgnored remarks argument span then 1 else 0 := by
  unfold handleCall handleCallBy
  by_cases skip : config.isIgnored remarks argument span = true
  · simp [ok, h, fresh, skip]
  · simp only [ok, h, fresh, skip, swapInPlaceBy, Option.isSome_none, Bool.false_eq_true, if_false]
    cases wellFormed argument <;> exact ⟨rfl, rfl⟩

section Handled

variable (unsettled : ∀ id ∈ idsAll arguments, id ∉ pass.swapper.visited.ids)

include unsettled

theorem contains_argument {argument : Node}
    (found : config.loaderArgument? callee arguments = some argument) :
    pass.swapper.visited.contains argument = false := by
  apply contains_eq_false
  rwa [Config.idsAll_of_loaderArgument? found] at unsettled

theorem contains_bare_argument {inner : Node}
    (found : config.loaderArgument? callee.bare (bareAll arguments) = some inner) :
    pass.swapper.visited.contains inner = false := by
  apply contains_eq_false
  rwa [← idsAll_bareAll, Config.idsAll_of_loaderArgument? found] at unsettled

/-- A call that sees through parentheses is handled alike without them. -/
theorem handleCall_bare {optional : Bool}
    (through : config.seesThrough remarks (.call span callee arguments optional) = true) :
    pass.handleCall config remarks span callee.bare (bareAll arguments) =
      (bareAll (pass.handleCall config remarks span callee arguments).1,
        (pass.handleCall config remarks span callee arguments).2) := by
  unfold Config.seesThrough at through
  unfold handleCall handleCallBy
  by_cases failed : pass.error.isSome = true
  · rw [if_pos failed, if_pos failed]
  rw [if_neg failed, if_neg failed]
  cases found : config.loaderArgument? callee arguments with
  | none =>
      cases found' : config.loaderArgument? callee.bare (bareAll arguments) with
      | none => rfl
      | some inner => simp [found, found'] at through
  | some argument =>
      cases found' : config.loaderArgument? callee.bare (bareAll arguments) with
      | none => simp [found, found'] at through
      | some inner =>
          have fresh := contains_argument unsettled found
          have fresh' := contains_bare_argument unsettled found'
          cases Config.eq_bare_of_loaderArgument? found found'
          simp only [found, found', beq_iff_eq] at through
          simp only [fresh, fresh', through, swapInPlaceBy, swapBy_contains, wellFormed_bare,
            swap_bare, Bool.false_eq_true, if_false]
          split
          · rfl
          · cases wellFormed argument with
            | error e => rfl
            | ok => simp [bareAll]

/-- It is the only kind of call that the counters do not tell apart from the call without
parentheses. -/
theorem seesThrough_iff (ok : pass.error = none) (optional : Bool) :
    config.seesThrough remarks (.call span callee arguments optional) = true ↔
      (pass.handleCall config remarks span callee.bare (bareAll arguments)).2.report =
        (pass.handleCall config remarks span callee arguments).2.report := by
  refine ⟨fun through => by rw [handleCall_bare unsettled through], fun same => ?_⟩
  cases found : config.loaderArgument? callee arguments with
  | none =>
      cases found' : config.loaderArgument? callee.bare (bareAll arguments) with
      | none => simp only [Config.seesThrough, found, found']
      | some inner =>
          have fresh' := contains_bare_argument unsettled found'
          obtain ⟨counted, -⟩ := report_of_found remarks span ok found' fresh'
          rw [same, report_of_foreign remarks span ok found] at counted
          omega
  | some argument =>
      have fresh := contains_argument unsettled found
      obtain ⟨counted, skipped⟩ := report_of_found remarks span ok found fresh
      cases found' : config.loaderArgument? callee.bare (bareAll arguments) with
      | none =>
          rw [← same, report_of_foreign remarks span ok found'] at counted
          omega
      | some inner =>
          have fresh' := contains_bare_argument unsettled found'
          obtain ⟨-, skipped'⟩ := report_of_found remarks span ok found' fresh'
          rw [same, skipped] at skipped'
          have equal := Nat.add_left_cancel skipped'
          simp only [Config.seesThrough, found, found', beq_iff_eq]
          cases skip : config.isIgnored remarks argument span <;>
            cases skip' : config.isIgnored remarks inner span <;> simp [skip, skip'] at equal ⊢

end Handled

/-! ## Walking without parentheses -/

/-- The calls of handled arguments see through parentheses if those of the arguments do. -/
theorem Handles.seesThrough {handled : List Node} {begun : Pass}
    (h : Handles config remarks span callee arguments pass handled begun)
    (through : ∀ call ∈ callsAll arguments, config.seesThrough remarks call = true) :
    ∀ call ∈ callsAll handled, config.seesThrough remarks call = true := by
  intro call mem
  obtain ⟨original, found, same⟩ := h.exists_call mem
  have naturally (node : Node) :
      config.seesThrough remarks node.anonymous = config.seesThrough remarks node :=
    Config.seesThrough_mapIds _ node
  rw [← naturally, ← same, naturally]
  exact through original found

/-- A walk over calls that see through parentheses is a walk over the bare trees. -/
theorem Walks.bare {nodes nodes' : List Node} {pass' : Pass}
    (h : Walks config remarks nodes pass nodes' pass') (ready : Ready nodes pass)
    (through : ∀ call ∈ callsAll nodes, config.seesThrough remarks call = true) :
    Walks config remarks (bareAll nodes) pass (bareAll nodes') pass' := by
  induction h with
  | nil => exact Walks.nil _
  | @inert node rest inner rest' pass mid last notCall inside after ihInside ihAfter =>
      rw [callsAll, calls_eq_parts, notCall, List.forall_mem_append] at through
      have first := ihInside (ready.inert notCall) through.1
      have second := ihAfter (ready.after_inert notCall inside) through.2
      cases paren : node.isParen with
      | true =>
          cases node with
          | paren span part =>
              -- The bare trees have what stands between the parentheses in their place.
              obtain ⟨part', rfl⟩ := List.length_eq_one_iff.1 inside.length_eq
              exact first.append second
          | _ => cases paren
      | false =>
          rw [← parts_bare paren] at first
          rw [bareAll, bareAll, bare_withParts paren inner inside.length_eq]
          exact Walks.inert ((isCall_bare paren).trans notCall) first second
  | @call span callee callee' arguments handled inner rest rest' optional pass begun mid last
      handling inside after ihInside ihAfter =>
      have handles := handles_of_eq handling
      simp only [callsAll, calls, List.cons_append, List.forall_mem_cons,
        List.forall_mem_append] at through
      obtain ⟨own, ⟨inCallee, inArguments⟩, inRest⟩ := through
      have unsettled : ∀ id ∈ idsAll arguments, id ∉ pass.swapper.visited.ids :=
        fun id mem => ready.ofCall.unmarked id (List.mem_append_right _ mem)
      have handling' := handleCall_bare unsettled own
      rw [handling] at handling'
      have inHandled := List.forall_mem_append.2 ⟨inCallee, handles.seesThrough inArguments⟩
      exact Walks.call handling' (ihInside (ready.call handles) inHandled)
        (ihAfter (ready.after_call handles inside) inRest)

end Pass

/-- With and without parentheses the first run of a new pass gives the same report or error and the
same program but for the parentheses, if every call sees through them; and a call does so exactly
when handling it counts the same both ways. -/
theorem run_bare (config : Config) (remarks : List Remark) (body : List Node) (supply : NodeId)
    (numbered : Numbered body supply) :
    ((callsAll body).all (config.seesThrough remarks) = true →
        (Pass.new supply).run config remarks (bareAll body) =
          (((Pass.new supply).run config remarks body).1,
            bareAll ((Pass.new supply).run config remarks body).2.1,
            ((Pass.new supply).run config remarks body).2.2)) ∧
      ∀ span callee arguments optional (pass : Pass), pass.error = none →
        (∀ id ∈ idsAll arguments, id ∉ pass.swapper.visited.ids) →
          (config.seesThrough remarks (.call span callee arguments optional) = true ↔
            (pass.handleCall config remarks span callee.bare (bareAll arguments)).2.report =
              (pass.handleCall config remarks span callee arguments).2.report) := by
  refine ⟨fun through => ?_, fun span callee arguments optional pass ok unsettled => ?_⟩
  · obtain ⟨out, last, walks⟩ := Pass.exists_walks config remarks body (Pass.new supply)
    have bare := walks.bare (Pass.ready_new numbered) (List.all_eq_true.1 through)
    rw [Pass.run_eq_of_walks bare, Pass.run_eq_of_walks walks]
    cases last.error <;> rfl
  · exact Pass.seesThrough_iff unsettled ok optional

/-- One call has a choice between parentheses as a branch, and the other a text between parentheses
with a comment after them. -/
theorem run_bare_branch :
    let config : Config := {}
    let remarks : List Remark := [⟨⟨20, 37⟩, " webp-ignore "⟩]
    let body : List Node := [
      .call {} (.name {} "require")
        [.conditional 0 {} (.name {} "a")
          (.paren {} (.conditional 1 {} (.name {} "b") (.text 2 {} "./x.png" false)
            (.text 3 {} "./y.png" false)))
          (.text 4 {} "./z.png" false)] false,
      .call ⟨0, 38⟩ (.name ⟨0, 7⟩ "require")
        [.paren ⟨8, 19⟩ (.text 5 ⟨9, 18⟩ "./w.png" false)] false]
    Numbered body 6 ∧ (callsAll body).all (config.seesThrough remarks) = true ∧
      ((Pass.new 6).run config remarks body).1 = .ok ⟨2, 1, 1⟩ ∧
      (Pass.new 6).run config remarks (bareAll body) =
        (.ok ⟨2, 1, 1⟩, bareAll ((Pass.new 6).run config remarks body).2.1,
          ((Pass.new 6).run config remarks body).2.2) := by
  dsimp only
  refine ⟨⟨by decide, by decide⟩, by decide, rfl, ?_⟩
  exact (run_bare {} _ _ 6 ⟨by decide, by decide⟩).1 (by decide)

/-- A loader between parentheses is not called, and a comment inside the parentheses around an
argument does not keep it. Without the parentheses both are otherwise. -/
theorem run_bare_loader :
    let config : Config := {}
    let literal : Node := .text 0 ⟨9, 18⟩ "./a.png" false
    let calling : Node → Node → List Node := fun callee argument =>
      [.call ⟨0, 38⟩ callee [argument] false]
    let run := fun remarks body => ((Pass.new 1).run config remarks body).1
    let loader := calling (.paren {} (.name {} "require")) literal
    let comment := calling (.name {} "require") (.paren ⟨8, 37⟩ literal)
    let remarks : List Remark := [⟨⟨19, 36⟩, " webp-ignore "⟩]
    run [] loader = .ok ⟨0, 0, 0⟩ ∧ run [] (bareAll loader) = .ok ⟨1, 1, 0⟩ ∧
      run remarks comment = .ok ⟨1, 1, 0⟩ ∧ run remarks (bareAll comment) = .ok ⟨1, 0, 1⟩ := by
  dsimp only
  exact ⟨rfl, rfl, rfl, rfl⟩

end ImageFallback
