import ImageFallback.Proofs.Walk.Ready

/-!
# The first run expands the program

The first run of a new pass remembers what it settles, takes identities from a supply and goes into
trees that it has made itself. None of this shows in the program that it leaves: up to identities it
is the one that the plain recursion `Config.expand` computes. The run has no error when every
template of the program has one more text than expressions.
-/

namespace ImageFallback

open Node Swapper

namespace Node

mutual

/-- Every template of the node has one more text than expressions. -/
def formed : Node → Bool
  | text .. => true
  | template _ _ quasis parts => quasis.length == parts.length + 1 && formedAll parts
  | conditional _ _ test yes no => formed test && (formed yes && formed no)
  | paren _ inner => formed inner
  | name .. => true
  | call _ callee arguments _ => formed callee && formedAll arguments
  | atom .. => true
  | unary _ _ inner => formed inner
  | binary _ _ left right => formed left && formed right
  | group _ _ items => formedAll items

/-- Every template of the nodes has one more text than expressions. -/
def formedAll : List Node → Bool
  | [] => true
  | node :: rest => formed node && formedAll rest

end

theorem formedAll_parts {node : Node} (h : node.formed = true) : formedAll node.parts = true := by
  cases node <;> simp_all [formed, formedAll, parts]

theorem formedAll_mapIdsAll (f : NodeId → NodeId) (nodes : List Node) :
    formedAll (mapIdsAll f nodes) = formedAll nodes := by
  induction nodes using forestInduction with
  | nil => rfl
  | cons node rest inside after =>
      rw [mapIdsAll, formedAll, formedAll, after]
      congr 1
      cases node <;> simp_all [mapIds, mapIdsAll, formed, formedAll, parts, length_mapIdsAll]

end Node

theorem Config.formed_supportTest (config : Config) : config.supportTest.formed = true :=
  config.supportTest_induction (motive := fun node => node.formed = true) rfl
    fun _ _ h => by simpa [formed] using h

theorem Config.formed_plainSwap (config : Config) (node : Node) :
    (config.plainSwap node).formed = node.formed := by
  fun_induction plainSwap config node with
  | case2 span inner h ih => rw [ih, formed]
  | case3 => simp [formed, config.formed_supportTest]
  | case5 => simp [formed, config.formed_supportTest]
  | case7 id span test yes no h ihYes ihNo => simp [formed, ihYes, ihNo]
  | _ => rfl

theorem Config.formedAll_onArgument (config : Config) (remarks : List Remark) (span : Span)
    (callee : Node) (arguments : List Node) :
    formedAll (config.onArgument remarks config.plainSwap span callee arguments) =
      formedAll arguments := by
  apply onArgument_induction (motive := fun changed => formedAll changed = _)
  · rfl
  · rintro argument rfl
    simp [formedAll, formed_plainSwap]

theorem Swapper.wellFormed_of_formed {node : Node} (h : node.formed = true) :
    wellFormed node = .ok () := by
  fun_induction wellFormed node with
  | case1 | case5 => rfl
  | case2 id span quasis parts malformed => simp_all [formed]
  | case3 id span test yes no ihYes ihNo =>
      simp only [formed, Bool.and_eq_true] at h
      rw [ihYes h.2.1]
      exact ihNo h.2.2
  | case4 span inner ih => exact ih h

namespace Pass

variable {config : Config} {remarks : List Remark}

/-! ## What handling a call comes to -/

/-- Without an error, a call that a walk is ready for gets the arguments of the plain recursion. -/
theorem Ready.anonymousAll_handled {span : Span} {callee : Node}
    {arguments handled rest : List Node} {optional : Bool} {pass begun : Pass}
    (ready : Ready (.call span callee arguments optional :: rest) pass)
    (handles : Handles config remarks span callee arguments pass handled begun)
    (ok : begun.error = none) :
    anonymousAll handled =
      anonymousAll (config.onArgument remarks config.plainSwap span callee arguments) := by
  cases handles with
  | failed h => simp [ok] at h
  | foreign _ h => simp [Config.onArgument, h]
  | settled _ h marked => simp [ready.not_contains h] at marked
  | ignored events _ h unmarked skip => simp [Config.onArgument, h, skip]
  | malformed => cases ok
  | @swapped argument argument' s _ h unmarked noSkip formed swaps =>
      have branches : pass.swapper.Unsettled argument.branchIds := by
        refine ready.ofCall.sublist (argument.branchIds_sublist.trans ?_)
        rw [Config.idsAll_of_loaderArgument? h]
        exact List.sublist_append_right _ _
      have plain := swaps.anonymous_eq branches
      rw [anonymous, anonymous] at plain
      simp [Config.onArgument, h, noSkip, anonymousAll, mapIdsAll, plain]

/-- A call whose templates are well formed is handled without an error. -/
theorem Handles.error_eq_none {span : Span} {callee : Node} {arguments handled : List Node}
    {pass begun : Pass} (h : Handles config remarks span callee arguments pass handled begun)
    (formed : formedAll arguments = true) (ok : pass.error = none) : begun.error = none := by
  cases h with
  | malformed _ h unmarked noSkip bad =>
      rw [Config.loaderArgument?_eq_some h] at formed
      rw [wellFormed_of_formed (by simpa [formedAll] using formed)] at bad
      cases bad
  | _ => exact ok

namespace Walks

variable {nodes nodes' : List Node} {pass pass' : Pass}

/-- Over well-formed templates a walk that is ready has no error. -/
theorem ok_of_formed (h : Walks config remarks nodes pass nodes' pass')
    (ready : Ready nodes pass) (formed : formedAll nodes = true) (ok : pass.error = none) :
    pass'.error = none := by
  induction h with
  | nil => exact ok
  | inert notCall inside after ihInside ihAfter =>
      simp only [formedAll, Bool.and_eq_true] at formed
      have midOk := ihInside (ready.inert notCall) (formedAll_parts formed.1) ok
      exact ihAfter (ready.after_inert notCall inside) formed.2 midOk
  | @call span callee callee' arguments handled inner rest rest' optional pass begun mid last
      handling inside after ihInside ihAfter =>
      have handles := handles_of_eq handling
      simp only [formedAll, Node.formed, Bool.and_eq_true] at formed
      have begunOk := handles.error_eq_none formed.1.2 ok
      have plain := ready.anonymousAll_handled handles begunOk
      have formedHandled : formedAll handled = true := by
        rw [← formedAll_mapIdsAll (fun _ => 0), ← anonymousAll, plain, anonymousAll,
          formedAll_mapIdsAll, Config.formedAll_onArgument]
        exact formed.1.2
      have midOk := ihInside (ready.call handles) (by simp [formedAll, formed.1.1, formedHandled])
        begunOk
      exact ihAfter (ready.after_call handles inside) formed.2 midOk

/-- A walk that is ready and ends without an error leaves what the plain recursion computes. -/
theorem anonymousAll_eq (h : Walks config remarks nodes pass nodes' pass')
    (ready : Ready nodes pass) (ok : pass'.error = none) :
    anonymousAll nodes' = anonymousAll (config.expandAll remarks nodes) := by
  induction h with
  | nil => simp [Config.expandAll]
  | inert notCall inside after ihInside ihAfter =>
      have midOk := after.error_eq_none ok
      have ihParts := ihInside (ready.inert notCall) midOk
      have ihRest := ihAfter (ready.after_inert notCall inside) ok
      simp only [anonymousAll] at ihParts ihRest ⊢
      rw [Config.expandAll, mapIdsAll, mapIdsAll, ihRest, mapIds_withParts, ihParts,
        ← mapIds_withParts, Config.expand_of_not_call config remarks notCall]
  | @call span callee callee' arguments handled inner rest rest' optional pass begun mid last
      handling inside after ihInside ihAfter =>
      have handles := handles_of_eq handling
      have midOk := after.error_eq_none ok
      have plain := ready.anonymousAll_handled handles (inside.error_eq_none midOk)
      -- The walk goes into the handled arguments, the recursion into those it makes itself.
      have expanded := Config.anonymousAll_expandAll_congr config remarks plain
      have ihParts := ihInside (ready.call handles) midOk
      have ihRest := ihAfter (ready.after_call handles inside) ok
      simp only [anonymousAll, Config.expandAll, mapIdsAll, List.cons.injEq]
        at expanded ihParts ihRest ⊢
      refine ⟨?_, ihRest⟩
      rw [Config.expand, mapIds, mapIds, ihParts.1, ihParts.2, expanded]

end Walks

end Pass

/-- The first run of a new pass over a program with distinct identities and well-formed templates
ends well, and leaves what the plain recursion computes, up to identities. -/
theorem run_new_eq_expand (config : Config) (remarks : List Remark) (body : List Node)
    (supply : NodeId) (numbered : Numbered body supply) (formed : formedAll body = true) :
    ∃ report out pass, (Pass.new supply).run config remarks body = (.ok report, out, pass) ∧
      anonymousAll out = anonymousAll (config.expandAll remarks body) := by
  obtain ⟨out, last, walks⟩ := Pass.exists_walks config remarks body (Pass.new supply)
  have ready := Pass.ready_new numbered
  have ok := walks.ok_of_formed ready formed rfl
  refine ⟨last.report, out, last, ?_, walks.anonymousAll_eq ready ok⟩
  rw [Pass.run_eq_of_walks walks, ok]

/-- A template with a call of the loader inside, on a branch of the argument of another call, next
to an argument that a comment keeps. -/
theorem run_start_eq_expand :
    let runs := Runs.start [
      .call ⟨0, 40⟩ (.name {} "require")
        [.conditional 0 {} (.name {} "c")
          (.paren {} (.template 0 {} [⟨"./", some "./", false, {}⟩, ⟨".jpg", some ".jpg", false, {}⟩]
            [.call {} (.name {} "require") [.text 0 {} "./a.png" false] false]))
          (.text 0 {} "./b.svg" false)] false,
      .call ⟨41, 90⟩ (.name {} "require") [.text 0 ⟨49, 58⟩ "./c.png" false] false]
    let remarks := [⟨⟨60, 77⟩, " webp-ignore "⟩]
    Numbered runs.body 5 ∧ formedAll runs.body = true ∧
      ∃ report out pass, (Pass.new 5).run {} remarks runs.body = (.ok report, out, pass) ∧
        anonymousAll out = anonymousAll (({} : Config).expandAll remarks runs.body) := by
  intro runs remarks
  have numbered : Numbered runs.body 5 := Runs.numbered_start _
  have formed : formedAll runs.body = true := by decide
  exact ⟨numbered, formed, run_new_eq_expand {} remarks runs.body 5 numbered formed⟩

end ImageFallback
