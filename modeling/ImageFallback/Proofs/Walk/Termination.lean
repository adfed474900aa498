import ImageFallback.Proofs.Walk.Accounts

/-!
# A walk ends

After the argument of a call was changed the walk goes into the argument that it has made, which may
be larger than the one before and hold copies of whole calls. It ends all the same, because a change
never makes calls lie deeper, and every call that the walk goes into is left one level above.

Nothing of this rests on nodes being settled. `Swapper.swapBy` and `Pass.handleCallBy` take the
answer to whether a node is settled from a function `found`, which may as well say no to every node.
The recursion of the walk is well founded whatever `found` says (`wellFounded_enters`), and it has
exactly one solution (`existsUnique_traverses`). Where `found` looks into the set, `Pass.run`
computes it with a depth that it never runs out of.
-/

namespace ImageFallback

open Node

namespace Swapper

variable (found : Visited → Node → Bool) (config : Config)

theorem callDepth_swapText (id : NodeId) (span : Span) (value : String) (lone : Bool)
    (s : Swapper) : (s.swapText config id span value lone).1.callDepth = 0 := by
  unfold swapText
  split
  · simp [choice, fresh, callDepth]
  · rfl

theorem callDepth_swapTemplate (id : NodeId) (span : Span) (quasis : List Quasi)
    (parts : List Node) (s : Swapper) :
    (s.swapTemplate config id span quasis parts).1.callDepth = callDepthAll parts := by
  unfold swapTemplate
  split
  · simp [choice, fresh, copyAll, callDepth, callDepthAll_mapIdsAll]
  · rfl

/-- A change does not make calls lie deeper or less deep, whatever is settled. -/
theorem callDepth_swapBy (node : Node) (s : Swapper) :
    (s.swapBy found config node).1.callDepth = node.callDepth := by
  fun_induction swapBy found config node s with
  | case1 | case3 | case5 | case7 | case9 | case10 => rfl
  | case2 span inner s h ih => rw [ih, callDepth]
  | case4 id span value lone s node h result =>
      by_cases enabled : config.shapes.string = true
      · simp only [result, if_pos enabled, callDepth_swapText, callDepth]
      · simp only [result, if_neg enabled, node]
  | case6 id span quasis parts s node h result =>
      by_cases enabled : config.shapes.template = true
      · simp only [result, if_pos enabled, callDepth_swapTemplate, callDepth]
      · simp only [result, if_neg enabled, node]
  | case8 id span test yes no s node h enabled yes' no' newId s' taken result ihYes ihNo =>
      simp only [result, callDepth, ihYes, ihNo, yes', no']

theorem callDepth_swapInPlaceBy (slot : Node) (s : Swapper) :
    (s.swapInPlaceBy found config slot).2.1.callDepth = slot.callDepth := by
  unfold swapInPlaceBy
  cases wellFormed slot with
  | error e => rfl
  | ok => exact callDepth_swapBy found config slot s

/-- The copy of a template makes more calls, but none deeper. -/
example :
    let node : Node := .template 0 {}
      [⟨"./", some "./", false, {}⟩, ⟨".png", some ".png", false, {}⟩]
      [.call {} (.name {} "f") [] false]
    let changed := (swap {} node { supply := 1 }).1
    (node.calls.length, changed.calls.length) = (1, 2) ∧ changed.callDepth = node.callDepth := by
  decide

end Swapper

namespace Pass

variable (found : Visited → Node → Bool) (config : Config) (remarks : List Remark)

theorem callDepthAll_handleCallBy (span : Span) (callee : Node) (arguments : List Node)
    (pass : Pass) :
    callDepthAll (pass.handleCallBy found config remarks span callee arguments).1 =
      callDepthAll arguments := by
  fun_cases handleCallBy found config remarks span callee arguments pass with
  | case1 | case2 | case3 | case4 | case5 => rfl
  | case6 noError argument h report notFound notIgnored argument' s swapped grown =>
      have same := Swapper.callDepth_swapInPlaceBy found config argument pass.swapper
      rw [swapped] at same
      rw [Config.loaderArgument?_eq_some h]
      simp only [callDepthAll, same]

/-- A node as the walk goes into it: a call with the arguments that it has once it is handled. -/
def meet : Node → Pass → Node × Pass
  | .call span callee arguments optional, pass =>
    let handled := pass.handleCallBy found config remarks span callee arguments
    (.call span callee handled.1 optional, handled.2)
  | node, pass => (node, pass)

theorem meet_of_not_call {node : Node} (notCall : node.isCall = false) (pass : Pass) :
    pass.meet found config remarks node = (node, pass) := by
  cases node with
  | call => cases notCall
  | _ => rfl

/-- The trees that the walk goes on with when it is given some trees: the parts of the first one as
they are once it is met with some pass, and the others. -/
inductive Enters : List Node → List Node → Prop where
  | parts (node : Node) (rest : List Node) (pass : Pass) :
      Enters (pass.meet found config remarks node).1.parts (node :: rest)
  | rest (node : Node) (rest : List Node) : Enters rest (node :: rest)

/-- How many calls of the trees lie inside one another, and how many nodes there are. -/
def extent (nodes : List Node) : Nat × Nat :=
  (callDepthAll nodes, countNodes (fun _ => true) nodes)

theorem countNodes_true (node : Node) (rest : List Node) :
    countNodes (fun _ => true) (node :: rest) =
      1 + countNodes (fun _ => true) node.parts + countNodes (fun _ => true) rest := by
  rw [countNodes_cons, countNodes_singleton]
  rfl

variable {found config remarks}

/-- The walk goes on with calls that lie less deep, or with fewer nodes. -/
theorem Enters.extent_lt {inner nodes : List Node} (h : Enters found config remarks inner nodes) :
    Prod.Lex (· < ·) (· < ·) (extent inner) (extent nodes) := by
  apply Config.lex_of_depth_or_size
  cases h with
  | rest node rest =>
      rw [countNodes_true, callDepthAll]
      omega
  | parts node rest pass =>
      rw [countNodes_true, callDepthAll]
      cases isCall : node.isCall with
      | false =>
          rw [meet_of_not_call found config remarks isCall, callDepth_eq_parts, isCall]
          simp only [Bool.false_eq_true, if_false]
          omega
      | true =>
          cases node with
          | call span callee arguments optional =>
              left
              simp only [meet, Node.parts, callDepthAll, callDepthAll_handleCallBy, callDepth]
              omega
          | _ => cases isCall

variable (found config remarks)

theorem wellFounded_enters : WellFounded (Enters found config remarks) :=
  Subrelation.wf Enters.extent_lt (InvImage.wf extent (Prod.lex Nat.lt_wfRel Nat.lt_wfRel).wf)

/-- The recursion of a walk: it meets the first tree, goes into the parts that the tree has then,
puts what it gets back into their place, and goes on to the others. -/
structure Traverses (visit : List Node → Pass → List Node × Pass) : Prop where
  nil : ∀ pass, visit [] pass = ([], pass)
  cons : ∀ node rest pass, visit (node :: rest) pass =
    let met := pass.meet found config remarks node
    let inner := visit met.1.parts met.2
    let after := visit rest inner.2
    (met.1.withParts inner.1 :: after.1, after.2)

/-- A walk over trees by well-founded recursion. -/
def traverse : List Node → Pass → List Node × Pass
  | [], pass => ([], pass)
  | node :: rest, pass =>
    let met := pass.meet found config remarks node
    let inner := traverse met.1.parts met.2
    let after := traverse rest inner.2
    (met.1.withParts inner.1 :: after.1, after.2)
termination_by nodes => extent nodes
decreasing_by
  · exact Enters.extent_lt (Enters.parts node rest pass)
  · have step : Enters found config remarks rest (node :: rest) := Enters.rest node rest
    exact step.extent_lt

theorem traverses_traverse : Traverses found config remarks (traverse found config remarks) where
  nil pass := by rw [traverse]
  cons node rest pass := by rw [traverse]

variable {found config remarks}

theorem Traverses.unique {visit visit' : List Node → Pass → List Node × Pass}
    (h : Traverses found config remarks visit) (h' : Traverses found config remarks visit') :
    visit = visit' := by
  funext nodes
  induction nodes using (wellFounded_enters found config remarks).induction with
  | _ nodes ih =>
      funext pass
      cases nodes with
      | nil => rw [h.nil, h'.nil]
      | cons node rest =>
          have inner := ih _ (Enters.parts node rest pass)
          have after := ih _ (Enters.rest node rest)
          rw [h.cons, h'.cons]
          simp only [inner, after]

theorem existsUnique_traverses : ∃! visit, Traverses found config remarks visit :=
  ⟨_, traverses_traverse found config remarks,
    fun _ h => h.unique (traverses_traverse found config remarks)⟩

/-- Looking into the set gives the walk that runs. -/
theorem Traverses.walks {visit : List Node → Pass → List Node × Pass}
    (h : Traverses Visited.contains config remarks visit) (nodes : List Node) (pass : Pass) :
    Walks config remarks nodes pass (visit nodes pass).1 (visit nodes pass).2 := by
  induction nodes using (wellFounded_enters Visited.contains config remarks).induction
    generalizing pass with
  | _ nodes ih =>
      cases nodes with
      | nil =>
          rw [h.nil]
          exact Walks.nil pass
      | cons node rest =>
          have inside := ih _ (Enters.parts node rest pass)
            (pass.meet Visited.contains config remarks node).2
          rw [h.cons]
          cases isCall : node.isCall with
          | false =>
              rw [meet_of_not_call _ _ _ isCall] at inside ⊢
              exact Walks.inert isCall inside (ih _ (Enters.rest node rest) _)
          | true =>
              cases node with
              | call span callee arguments optional =>
                  simp only [meet, handleCallBy_contains, Node.parts] at inside ⊢
                  obtain ⟨callee', others, mid, out, -⟩ := inside.cons_inv
                  rw [out] at inside ⊢
                  exact Walks.call rfl inside (ih _ (Enters.rest _ rest) _)
              | _ => cases isCall

end Pass

/-- A change leaves calls as deep as they are, and so does one that finds no node or other nodes
settled. Whatever is found settled, the trees that a walk goes on with form no endless chain, and
the recursion of the walk has exactly one solution. Where it looks into the set of settled nodes, a
run gives what this solution gives, on every program and with every pass. -/
theorem traversal_ends (config : Config) (remarks : List Remark) :
    (∀ (node : Node) (s : Swapper), (s.swap config node).1.callDepth = node.callDepth) ∧
    (∀ found : Visited → Node → Bool,
      (∀ (node : Node) (s : Swapper),
        (s.swapBy found config node).1.callDepth = node.callDepth) ∧
      WellFounded (Pass.Enters found config remarks) ∧
      ∃! visit, Pass.Traverses found config remarks visit) ∧
    ∃ visit, Pass.Traverses Visited.contains config remarks visit ∧
      ∀ (body : List Node) (pass : Pass), pass.run config remarks body =
        match (visit body pass).2.error with
        | some e => (.error e, (visit body pass).1, { (visit body pass).2 with error := none })
        | none => (.ok (visit body pass).2.report, visit body pass) := by
  refine ⟨?_, ?_, Pass.traverse Visited.contains config remarks, ?_, ?_⟩
  · exact fun node s => (Swapper.swap_swaps config node s).callDepth_eq
  · intro found
    exact ⟨Swapper.callDepth_swapBy found config, Pass.wellFounded_enters found config remarks,
      Pass.existsUnique_traverses⟩
  · exact Pass.traverses_traverse Visited.contains config remarks
  · intro body pass
    have solution := Pass.traverses_traverse Visited.contains config remarks
    exact Pass.run_eq_of_walks (solution.walks body pass)

end ImageFallback
