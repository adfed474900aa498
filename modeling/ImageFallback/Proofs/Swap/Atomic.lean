import ImageFallback.Proofs.Swap.Argument
import ImageFallback.Proofs.Swap.Session

/-!
# Changing an argument in its place, or not at all

An argument is checked by one recursion and changed by another. The check follows parentheses and
branches to every template that the change could come to, whatever shapes may be changed, and it
refuses the argument for the leftmost template that is malformed. `MalformedAt` says where a
malformed template stands, by the branches that lead to it, and `LeftOf` compares two such places.

A refused argument and the state stay as they are. An accepted one becomes what the change gives,
and the check accepts this as well: a change keeps the number of texts and of expressions of every
template and copies both (`Swaps.findSome?_leaves`).
-/

namespace ImageFallback

open Node

namespace Node

/-- The branches lead to a template with these numbers of texts and expressions, and the first is
not one more than the second. -/
def MalformedAt (node : Node) (path : List Bool) (texts expressions : Nat) : Prop :=
  texts ≠ expressions + 1 ∧ ∃ id span quasis parts,
    node.onBranch path = some (.template id span quasis parts) ∧ quasis.length = texts ∧
      parts.length = expressions

/-- The paths part at some conditional, the first one into its first branch. -/
inductive LeftOf : List Bool → List Bool → Prop where
  | parting (path other : List Bool) : LeftOf (true :: path) (false :: other)
  | common (side : Bool) {path other : List Bool} (h : LeftOf path other) :
      LeftOf (side :: path) (side :: other)

theorem LeftOf.asymm {path other : List Bool} (h : LeftOf path other) : ¬LeftOf other path := by
  induction h with
  | parting => exact fun back => by cases back
  | common side h ih =>
      intro back
      cases back with
      | common _ back => exact ih back

/-- The place of a malformed template that every other one is to the right of. -/
def LeftmostMalformedAt (node : Node) (path : List Bool) (texts expressions : Nat) : Prop :=
  node.MalformedAt path texts expressions ∧
    ∀ other texts' expressions', node.MalformedAt other texts' expressions' →
      other = path ∨ LeftOf path other

theorem exists_of_misshapen? {node : Node} {e : SwapError} (h : node.misshapen? = some e) :
    ∃ texts expressions, e = .malformedTemplate texts expressions := by
  unfold misshapen? at h
  split at h
  · split at h
    · cases h
    · cases h
      exact ⟨_, _, rfl⟩
  · cases h

theorem leaves_of_leaf {node : Node}
    (notConditional : ∀ id span test yes no, node = conditional id span test yes no → False)
    (notParen : ∀ span inner, node = paren span inner → False) : node.leaves = [node] := by
  rw [leaves]
  · exact notConditional
  · exact notParen

section Places

variable {id : NodeId} {span : Span} {test yes no inner node : Node} {side : Bool}
  {path : List Bool} {texts expressions : Nat}

theorem malformedAt_paren :
    (paren span inner).MalformedAt path texts expressions ↔
      inner.MalformedAt path texts expressions := by
  simp only [MalformedAt, onBranch]

theorem malformedAt_conditional :
    (conditional id span test yes no).MalformedAt (side :: path) texts expressions ↔
      (if side then yes else no).MalformedAt path texts expressions := by
  cases side <;> simp [MalformedAt, onBranch]

theorem not_malformedAt_conditional_nil :
    ¬(conditional id span test yes no).MalformedAt [] texts expressions := by
  simp [MalformedAt, onBranch]

/-- A node that no branch leads away from is the only place in it. -/
theorem malformedAt_leaf
    (notConditional : ∀ id span test yes no, node = conditional id span test yes no → False)
    (notParen : ∀ span inner, node = paren span inner → False) :
    node.MalformedAt path texts expressions ↔
      path = [] ∧ node.misshapen? = some (.malformedTemplate texts expressions) := by
  cases node with
  | conditional => exact (notConditional _ _ _ _ _ rfl).elim
  | paren => exact (notParen _ _ rfl).elim
  | template id span quasis parts =>
      cases path with
      | nil =>
          simp only [MalformedAt, onBranch, misshapen?]
          grind
      | cons side path => cases side <;> simp [MalformedAt, onBranch]
  | _ =>
      cases path with
      | nil => simp [MalformedAt, onBranch, misshapen?]
      | cons side path => cases side <;> simp [MalformedAt, onBranch]

theorem LeftmostMalformedAt.unique {path' : List Bool} {texts' expressions' : Nat}
    (h : node.LeftmostMalformedAt path texts expressions)
    (h' : node.LeftmostMalformedAt path' texts' expressions') :
    texts' = texts ∧ expressions' = expressions := by
  have same : path' = path := by
    rcases h.2 _ _ _ h'.1 with same | left
    · exact same
    · rcases h'.2 _ _ _ h.1 with same | left'
      · exact same.symm
      · exact (left.asymm left').elim
  subst same
  obtain ⟨-, _, _, _, _, found, rfl, rfl⟩ := h.1
  obtain ⟨-, _, _, _, _, found', rfl, rfl⟩ := h'.1
  cases found.symm.trans found'
  exact ⟨rfl, rfl⟩

end Places

/-- Where the check finds nothing there is no malformed template. -/
theorem findSome?_leaves_eq_none_iff (node : Node) :
    node.leaves.findSome? misshapen? = none ↔
      ∀ path texts expressions, ¬node.MalformedAt path texts expressions := by
  induction node using leaves.induct with
  | case1 id span test yes no ihYes ihNo =>
      rw [leaves, List.findSome?_append, Option.or_eq_none_iff, ihYes, ihNo]
      constructor
      · rintro ⟨noneYes, noneNo⟩ (_ | ⟨side, path⟩) texts expressions
        · exact not_malformedAt_conditional_nil
        · rw [malformedAt_conditional]
          cases side with
          | true => exact noneYes path texts expressions
          | false => exact noneNo path texts expressions
      · intro none
        refine ⟨fun path texts expressions found => ?_, fun path texts expressions found => ?_⟩
        · exact none (true :: path) texts expressions (malformedAt_conditional.2 found)
        · exact none (false :: path) texts expressions (malformedAt_conditional.2 found)
  | case2 span inner ih =>
      simp only [leaves, ih, malformedAt_paren]
  | case3 node notConditional notParen =>
      simp only [leaves_of_leaf notConditional notParen, List.findSome?_singleton,
        malformedAt_leaf notConditional notParen]
      refine ⟨fun none path texts expressions found => by simp [none] at found, fun none => ?_⟩
      cases misshapen : node.misshapen? with
      | none => rfl
      | some e =>
          obtain ⟨texts, expressions, rfl⟩ := exists_of_misshapen? misshapen
          exact (none [] texts expressions ⟨rfl, misshapen⟩).elim

/-- What the check finds is the leftmost malformed template. -/
theorem exists_leftmost {node : Node} {e : SwapError}
    (h : node.leaves.findSome? misshapen? = some e) :
    ∃ path texts expressions, node.LeftmostMalformedAt path texts expressions ∧
      e = .malformedTemplate texts expressions := by
  induction node using leaves.induct with
  | case1 id span test yes no ihYes ihNo =>
      rw [leaves, List.findSome?_append] at h
      cases inYes : yes.leaves.findSome? misshapen? with
      | some e' =>
          rw [inYes] at h
          cases h
          obtain ⟨path, texts, expressions, ⟨found, first⟩, rfl⟩ := ihYes inYes
          refine ⟨true :: path, texts, expressions,
            ⟨malformedAt_conditional.2 found, fun other texts' expressions' found' => ?_⟩, rfl⟩
          rcases other with _ | ⟨_ | _, other⟩
          · exact (not_malformedAt_conditional_nil found').elim
          · exact Or.inr (LeftOf.parting path other)
          · exact (first _ _ _ (malformedAt_conditional.1 found')).imp (congrArg (true :: ·))
              (LeftOf.common true)
      | none =>
          rw [inYes] at h
          obtain ⟨path, texts, expressions, ⟨found, first⟩, rfl⟩ := ihNo h
          have noneYes := (findSome?_leaves_eq_none_iff yes).1 inYes
          refine ⟨false :: path, texts, expressions,
            ⟨malformedAt_conditional.2 found, fun other texts' expressions' found' => ?_⟩, rfl⟩
          rcases other with _ | ⟨_ | _, other⟩
          · exact (not_malformedAt_conditional_nil found').elim
          · exact (first _ _ _ (malformedAt_conditional.1 found')).imp (congrArg (false :: ·))
              (LeftOf.common false)
          · exact (noneYes _ _ _ (malformedAt_conditional.1 found')).elim
  | case2 span inner ih =>
      obtain ⟨path, texts, expressions, ⟨found, first⟩, rfl⟩ := ih h
      refine ⟨path, texts, expressions, ⟨malformedAt_paren.2 found, ?_⟩, rfl⟩
      exact fun other texts' expressions' found' => first _ _ _ (malformedAt_paren.1 found')
  | case3 node notConditional notParen =>
      rw [leaves_of_leaf notConditional notParen, List.findSome?_singleton] at h
      obtain ⟨texts, expressions, rfl⟩ := exists_of_misshapen? h
      refine ⟨[], texts, expressions,
        ⟨(malformedAt_leaf notConditional notParen).2 ⟨rfl, h⟩, fun other _ _ found' => ?_⟩, rfl⟩
      exact Or.inl ((malformedAt_leaf notConditional notParen).1 found').1

end Node

/-- The check finds the same in a changed argument. -/
theorem Swaps.findSome?_leaves {config : Config} {node node' : Node} {s s' : Swapper}
    (h : Swaps config node s node' s') :
    node'.leaves.findSome? misshapen? = node.leaves.findSome? misshapen? := by
  induction h with
  | settled | other | kept => rfl
  | paren h inside ih => exact ih
  | text => rfl
  | @template id span quasis parts s events fresh h =>
      -- The second version has as many texts and expressions as the first.
      simp only [leaves, List.cons_append, List.nil_append, List.findSome?_cons,
        List.findSome?_nil, misshapen?, List.length_map, length_mapIdsAll]
      split <;> rfl
  | conditional fresh h first second ihYes ihNo =>
      simp only [leaves, List.findSome?_append, ihYes, ihNo]

theorem Swapper.wellFormed_eq_ok_iff (node : Node) :
    wellFormed node = .ok () ↔
      ∀ path texts expressions, ¬node.MalformedAt path texts expressions := by
  rw [← findSome?_leaves_eq_none_iff, wellFormed_eq]
  cases node.leaves.findSome? misshapen? <;> simp

theorem Swapper.wellFormed_eq_error_iff (node : Node) (e : SwapError) :
    wellFormed node = .error e ↔
      ∃ path texts expressions, node.LeftmostMalformedAt path texts expressions ∧
        e = .malformedTemplate texts expressions := by
  rw [wellFormed_eq]
  constructor
  · intro h
    split at h
    · rename_i found
      cases h
      exact exists_leftmost found
    · cases h
  · rintro ⟨path, texts, expressions, leftmost, rfl⟩
    cases found : node.leaves.findSome? misshapen? with
    | none => exact ((findSome?_leaves_eq_none_iff node).1 found _ _ _ leftmost.1).elim
    | some e =>
        obtain ⟨path', texts', expressions', leftmost', rfl⟩ := exists_leftmost found
        obtain ⟨rfl, rfl⟩ := leftmost.unique leftmost'
        rfl

/-- Changing an argument in its place fails exactly when a malformed template is reached through
parentheses and branches, for the leftmost one, and leaves argument and state as they are. Otherwise
the argument becomes what the change gives, and the check accepts it again. -/
theorem swapInPlace_atomic (config : Config) (s : Swapper) (slot : Node) :
    ((∃ e, (s.swapInPlace config slot).1 = .error e) ↔
        ∃ path texts expressions, slot.MalformedAt path texts expressions) ∧
      (∀ e, (s.swapInPlace config slot).1 = .error e ↔
        ∃ path texts expressions, slot.LeftmostMalformedAt path texts expressions ∧
          e = .malformedTemplate texts expressions) ∧
      (∀ e, (s.swapInPlace config slot).1 = .error e → (s.swapInPlace config slot).2 = (slot, s)) ∧
      ((∀ path texts expressions, ¬slot.MalformedAt path texts expressions) →
        s.swapInPlace config slot = (.ok (), s.swap config slot) ∧
          Swapper.wellFormed (s.swapInPlace config slot).2.1 = .ok ()) := by
  have outcome : (s.swapInPlace config slot).1 = Swapper.wellFormed slot := by
    unfold Swapper.swapInPlace Swapper.swapInPlaceBy
    cases Swapper.wellFormed slot <;> rfl
  refine ⟨?_, fun e => ?_, fun e failed => ?_, fun none => ?_⟩
  · rw [outcome]
    cases checked : Swapper.wellFormed slot with
    | error e =>
        obtain ⟨path, texts, expressions, leftmost, -⟩ :=
          (Swapper.wellFormed_eq_error_iff slot e).1 checked
        exact ⟨fun _ => ⟨path, texts, expressions, leftmost.1⟩, fun _ => ⟨e, rfl⟩⟩
    | ok =>
        have none := (Swapper.wellFormed_eq_ok_iff slot).1 checked
        constructor
        · rintro ⟨e, failed⟩
          cases failed
        · rintro ⟨path, texts, expressions, found⟩
          exact (none path texts expressions found).elim
  · rw [outcome]
    exact Swapper.wellFormed_eq_error_iff slot e
  · rw [outcome] at failed
    simp only [Swapper.swapInPlace, Swapper.swapInPlaceBy, failed]
  · have formed := (Swapper.wellFormed_eq_ok_iff slot).2 none
    have changed : s.swapInPlace config slot = (.ok (), s.swap config slot) := by
      simp only [Swapper.swapInPlace, Swapper.swapInPlaceBy, formed, Swapper.swapBy_contains]
    refine ⟨changed, ?_⟩
    rw [changed, Swapper.wellFormed_eq, (Swapper.swap_swaps config slot s).findSome?_leaves,
      ← Swapper.wellFormed_eq]
    exact formed

end ImageFallback
