import ImageFallback.Proofs.Swap.Freshness
import ImageFallback.Proofs.Tree.Subtrees

/-!
# The conditionals that a change makes

Which conditionals a change has built is read off two trees, the one that was given and the one that
came back. Both are followed along the branches of their conditionals; where the first has a literal
and the second a conditional, that conditional is new (`newChoices`). It asks the run-time test and
falls back to the literal that stood there (`Swaps.stands`).

No other conditional is made. Every conditional of the tree that came back, wherever it stands, is
one of these or is carried over: it stood in the tree, or is a copy of one that did, or was built
anew in the place of one, with the same test (`Swaps.carried_or_new`).
-/

namespace ImageFallback

open Node

namespace Node

/-- The node that the branches taken at one conditional after the other lead to. Parentheses do not
count. -/
def onBranch : List Bool → Node → Option Node
  | path, paren _ inner => onBranch path inner
  | [], node => some node
  | true :: path, conditional _ _ _ yes _ => onBranch path yes
  | false :: path, conditional _ _ _ _ no => onBranch path no
  | _ :: _, _ => none

/-- The identity of the literal that a conditional falls back to. -/
def fallbackId? : Node → Option NodeId
  | conditional _ _ _ _ no => no.id?
  | _ => none

/-- The node is a text or a template. -/
def isLiteral : Node → Bool
  | text .. | template .. => true
  | _ => false

/-- The node is a conditional. -/
def isConditional : Node → Bool
  | conditional .. => true
  | _ => false

/-- The conditionals in the result that stand where the tree has a literal, from left to right. -/
def newChoices : Node → Node → List Node
  | paren _ inner, result => newChoices inner result
  | conditional _ _ _ yes no, conditional _ _ _ yes' no' =>
    newChoices yes yes' ++ newChoices no no'
  | text .., conditional id span test yes no => [conditional id span test yes no]
  | template .., conditional id span test yes no => [conditional id span test yes no]
  | _, _ => []

theorem newChoices_paren_right (span : Span) (inner : Node) :
    ∀ tree : Node, tree.newChoices (paren span inner) = []
  | paren _ tree => newChoices_paren_right span inner tree
  | conditional .. | text .. | template .. | name .. | call .. | atom .. | unary .. | binary ..
  | group .. => rfl

/-- A tree that comes back as it was holds nothing new. -/
theorem newChoices_self : ∀ tree : Node, tree.newChoices tree = []
  | paren span inner => newChoices_paren_right span inner inner
  | conditional _ _ _ yes no => by
      rw [newChoices, newChoices_self yes, newChoices_self no, List.append_nil]
  | text .. | template .. | name .. | call .. | atom .. | unary .. | binary .. | group .. => rfl

/-- A node in the result of a change that was there in the tree before the change in one form or
another. New identities are from `supply` on. -/
inductive Carried (supply : NodeId) (tree result : Node) : Node → Prop where
  /-- It stood somewhere in the tree. -/
  | same {node : Node} (mem : node ∈ tree.subtrees) : Carried supply tree result node
  /-- It is a copy of a node that did, with new identities. -/
  | copied {node : Node} {offset : NodeId} (new : supply ≤ offset) (mem : node ∈ tree.subtrees) :
      Carried supply tree result (node.mapIds (offset + ·))
  /-- It is a conditional that was built anew, with the same test in the same place. -/
  | rebuilt (path : List Bool) {id id' : NodeId} {span : Span} {test yes no yes' no' : Node}
      (new : supply ≤ id')
      (before : tree.onBranch path = some (.conditional id span test yes no))
      (after : result.onBranch path = some (.conditional id' span test yes' no')) :
      Carried supply tree result (.conditional id' span test yes' no')

/-- What is carried over in a part that branches lead to is carried over in the whole. -/
theorem Carried.within {supply bound : NodeId} {tree result inner inner' node : Node}
    (h : Carried bound inner inner' node) (le : supply ≤ bound)
    (sub : inner.subtrees ⊆ tree.subtrees) (steps : List Bool → List Bool)
    (before : ∀ path, tree.onBranch (steps path) = inner.onBranch path)
    (after : ∀ path, result.onBranch (steps path) = inner'.onBranch path) :
    Carried supply tree result node := by
  cases h with
  | same mem => exact Carried.same (sub mem)
  | copied new mem => exact Carried.copied (Nat.le_trans le new) (sub mem)
  | rebuilt path new found found' =>
      exact Carried.rebuilt (steps path) (Nat.le_trans le new) ((before path).trans found)
        ((after path).trans found')

end Node

namespace Config

/-- There is no conditional in the run-time test. -/
theorem isConditional_of_mem_supportTest (config : Config) :
    ∀ node ∈ config.supportTest.subtrees, node.isConditional = false := by
  refine config.supportTest_induction
    (motive := fun test => ∀ node ∈ test.subtrees, node.isConditional = false) ?_ ?_
  · simp [subtrees, isConditional]
  · intro object property h
    rw [subtrees]
    exact List.forall_mem_cons.2 ⟨rfl, h⟩

/-- The choice asks the run-time test and stands where the tree had the literal that it falls back
to. It is new, and so is the literal on its other branch: their identities are from `supply` on. -/
def StandsFor (config : Config) (supply : NodeId) (tree result choice : Node) : Prop :=
  ∃ path id span yes no newId, choice = .conditional id span config.supportTest yes no ∧
    tree.onBranch path = some no ∧ result.onBranch path = some choice ∧
    no.isLiteral = true ∧ yes.isLiteral = true ∧ yes.id? = some newId ∧
    supply ≤ newId ∧ supply ≤ id

/-- What stands for a literal in a part that branches lead to does so in the whole. -/
theorem StandsFor.within {config : Config} {supply bound : NodeId}
    {tree result inner inner' choice : Node} (h : config.StandsFor bound inner inner' choice)
    (le : supply ≤ bound) (steps : List Bool → List Bool)
    (before : ∀ path, tree.onBranch (steps path) = inner.onBranch path)
    (after : ∀ path, result.onBranch (steps path) = inner'.onBranch path) :
    config.StandsFor supply tree result choice := by
  obtain ⟨path, id, span, yes, no, newId, form, found, found', isOld, isNew, own, new, new'⟩ := h
  exact ⟨steps path, id, span, yes, no, newId, form, (before path).trans found,
    (after path).trans found', isOld, isNew, own, Nat.le_trans le new, Nat.le_trans le new'⟩

end Config

namespace Swaps

variable {config : Config} {tree tree' node : Node} {s s' : Swapper}

/-- Each new choice stands for a literal of the tree. -/
theorem stands (h : Swaps config tree s tree' s') {choice : Node}
    (mem : choice ∈ tree.newChoices tree') :
    config.StandsFor s.supply tree tree' choice := by
  induction h with
  | settled | other | kept =>
      rw [newChoices_self] at mem
      cases mem
  | paren h inside ih => exact (ih mem).within (Nat.le_refl _) id (fun _ => rfl) fun _ => rfl
  | text events fresh h =>
      cases List.mem_singleton.1 mem
      exact ⟨[], _, _, _, _, _, rfl, rfl, rfl, rfl, rfl, rfl, Nat.le_refl _, Nat.le_succ _⟩
  | template events fresh h =>
      cases List.mem_singleton.1 mem
      exact ⟨[], _, _, _, _, _, rfl, rfl, rfl, rfl, rfl, rfl, Nat.le_add_right _ _,
        Nat.le_add_right _ _⟩
  | conditional fresh h first second ihYes ihNo =>
      rcases List.mem_append.1 mem with mem | mem
      · exact (ihYes mem).within (Nat.le_refl _) (true :: ·) (fun _ => rfl) fun _ => rfl
      · exact (ihNo mem).within first.supply_le (false :: ·) (fun _ => rfl) fun _ => rfl

/-- Every conditional in what comes back is carried over or is a new choice. -/
theorem carried_or_new (h : Swaps config tree s tree' s') (mem : node ∈ tree'.subtrees)
    (isConditional : node.isConditional = true) :
    Carried s.supply tree tree' node ∨ node ∈ tree.newChoices tree' := by
  induction h with
  | settled | other | kept => exact Or.inl (Carried.same mem)
  | paren h inside ih =>
      exact (ih mem).imp_left fun carried => carried.within (Nat.le_refl _)
        (List.subset_cons_self _ _) id (fun _ => rfl) fun _ => rfl
  | text events fresh h =>
      simp only [subtrees, List.mem_cons, List.mem_append, List.not_mem_nil, or_false] at mem
      rcases mem with rfl | inTest | rfl | rfl
      · exact Or.inr List.mem_cons_self
      · rw [config.isConditional_of_mem_supportTest _ inTest] at isConditional
        cases isConditional
      · cases isConditional
      · cases isConditional
  | template events fresh h =>
      simp only [subtrees, subtreesAll_mapIdsAll, List.mem_cons, List.mem_append,
        List.mem_map] at mem
      rcases mem with rfl | inTest | (rfl | ⟨original, inParts, rfl⟩) | (rfl | inParts)
      · exact Or.inr List.mem_cons_self
      · rw [config.isConditional_of_mem_supportTest _ inTest] at isConditional
        cases isConditional
      · cases isConditional
      · exact Or.inl (Carried.copied (Nat.le_refl _) (List.mem_cons_of_mem _ inParts))
      · cases isConditional
      · exact Or.inl (Carried.same (List.mem_cons_of_mem _ inParts))
  | conditional fresh h first second ihYes ihNo =>
      simp only [subtrees, List.mem_cons, List.mem_append] at mem
      rw [newChoices, List.mem_append]
      rcases mem with rfl | inTest | inYes | inNo
      · have le := Nat.le_trans first.supply_le second.supply_le
        exact Or.inl (Carried.rebuilt [] le rfl rfl)
      · exact Or.inl (Carried.same (by simp [subtrees, inTest]))
      · refine (ihYes inYes).imp (fun carried => ?_) Or.inl
        exact carried.within (Nat.le_refl _) (fun _ mem => by simp [subtrees, mem]) (true :: ·)
          (fun _ => rfl) fun _ => rfl
      · refine (ihNo inNo).imp (fun carried => ?_) Or.inr
        exact carried.within first.supply_le (fun _ mem => by simp [subtrees, mem]) (false :: ·)
          (fun _ => rfl) fun _ => rfl

end Swaps

end ImageFallback
