import ImageFallback.Proofs.Swap.Derivation

/-!
# Identities that a change may touch

Nothing is changed twice because settled identities are remembered, and nothing is passed over by
mistake because the remembered identities stay apart from those still to come. The second half is
the invariant of this module. `Unsettled s ids` says that identities are distinct, below the supply
and not settled; `Advance touched s s'` says that on the way from one state to another only the
identities `touched` and identities new from the supply were settled. What is unsettled and is not
touched stays unsettled (`Unsettled.after`), and advances follow one another (`Advance.trans`).

A change of an argument touches the identities on its branches. The identities inside calls of the
result, which the walk goes on to, are unsettled again: those of the argument because no branch goes
into a call, and those of a copied template because they are new.
-/

namespace ImageFallback

open Node

namespace Swapper

/-- The settled identities lie below the supply. -/
def Bounded (s : Swapper) : Prop := ∀ id ∈ s.visited.ids, id < s.supply

/-- The identities are distinct, below the supply and not settled. -/
structure Unsettled (s : Swapper) (ids : List NodeId) : Prop where
  distinct : ids.Nodup
  below : ∀ id ∈ ids, id < s.supply
  unmarked : ∀ id ∈ ids, id ∉ s.visited.ids

/-- Only the identities `touched` and new ones were settled on the way from `s` to `s'`. -/
structure Advance (touched : List NodeId) (s s' : Swapper) : Prop where
  supply_le : s.supply ≤ s'.supply
  grown : ∀ id ∈ s.visited.ids, id ∈ s'.visited.ids
  marks : ∀ id ∈ s'.visited.ids,
    id ∈ s.visited.ids ∨ id ∈ touched ∨ s.supply ≤ id ∧ id < s'.supply

theorem Advance.refl (touched : List NodeId) (s : Swapper) : Advance touched s s :=
  ⟨Nat.le_refl _, fun _ h => h, fun _ h => Or.inl h⟩

theorem Advance.mono {xs ys : List NodeId} {s s' : Swapper} (h : Advance xs s s')
    (sub : ∀ id ∈ xs, id ∈ ys ∨ s.supply ≤ id ∧ id < s'.supply) : Advance ys s s' := by
  refine ⟨h.supply_le, h.grown, fun id marked => ?_⟩
  rcases h.marks id marked with old | touched | new
  · exact Or.inl old
  · exact Or.inr (sub id touched)
  · exact Or.inr (Or.inr new)

theorem Advance.trans {xs ys : List NodeId} {s s₁ s₂ : Swapper} (first : Advance xs s s₁)
    (second : Advance ys s₁ s₂) : Advance (xs ++ ys) s s₂ := by
  have h₁ := first.supply_le
  have h₂ := second.supply_le
  refine ⟨Nat.le_trans h₁ h₂, fun id h => second.grown id (first.grown id h), fun id marked => ?_⟩
  simp only [List.mem_append]
  rcases second.marks id marked with old | touched | ⟨low, high⟩
  · rcases first.marks id old with older | touched | ⟨low, high⟩
    · exact Or.inl older
    · exact Or.inr (Or.inl (Or.inl touched))
    · exact Or.inr (Or.inr ⟨low, Nat.lt_of_lt_of_le high h₂⟩)
  · exact Or.inr (Or.inl (Or.inr touched))
  · exact Or.inr (Or.inr ⟨Nat.le_trans h₁ low, high⟩)

theorem Advance.bounded {touched : List NodeId} {s s' : Swapper} (h : Advance touched s s')
    (bounded : s.Bounded) (below : ∀ id ∈ touched, id < s.supply) : s'.Bounded := by
  have le := h.supply_le
  intro id marked
  rcases h.marks id marked with old | touched | ⟨-, high⟩
  · exact Nat.lt_of_lt_of_le (bounded id old) le
  · exact Nat.lt_of_lt_of_le (below id touched) le
  · exact high

theorem Unsettled.sublist {xs ys : List NodeId} {s : Swapper} (h : s.Unsettled ys)
    (sub : xs.Sublist ys) : s.Unsettled xs :=
  ⟨h.distinct.sublist sub, fun id mem => h.below id (sub.subset mem),
    fun id mem => h.unmarked id (sub.subset mem)⟩

theorem Unsettled.append {xs ys : List NodeId} {s : Swapper} (hx : s.Unsettled xs)
    (hy : s.Unsettled ys) (apart : ∀ id ∈ xs, id ∉ ys) : s.Unsettled (xs ++ ys) := by
  refine ⟨List.nodup_append.2 ⟨hx.distinct, hy.distinct, ?_⟩, ?_, ?_⟩
  · rintro id inX _ inY rfl
    exact apart id inX inY
  · exact fun id mem => (List.mem_append.1 mem).elim (hx.below id) (hy.below id)
  · exact fun id mem => (List.mem_append.1 mem).elim (hx.unmarked id) (hy.unmarked id)

/-- What is not touched stays unsettled. -/
theorem Unsettled.stays {xs touched : List NodeId} {s s' : Swapper} (h : s.Unsettled xs)
    (advance : Advance touched s s') (apart : ∀ id ∈ xs, id ∉ touched) : s'.Unsettled xs := by
  refine ⟨h.distinct, fun id mem => Nat.lt_of_lt_of_le (h.below id mem) advance.supply_le,
    fun id mem marked => ?_⟩
  rcases advance.marks id marked with old | touched | ⟨new, -⟩
  · exact h.unmarked id mem old
  · exact apart id mem touched
  · exact Nat.not_le_of_lt (h.below id mem) new

theorem Unsettled.after {xs ys : List NodeId} {s s' : Swapper} (h : s.Unsettled (xs ++ ys))
    (advance : Advance xs s s') : s'.Unsettled ys :=
  (h.sublist (List.sublist_append_right xs ys)).stays advance fun id inY inX =>
    (List.nodup_append.1 h.distinct).2.2 id inX id inY rfl

/-- Taking one identity from the supply and settling it touches nothing. -/
theorem advance_fresh (s : Swapper) :
    Advance [] s { s with visited := s.visited.insert s.supply, supply := s.supply + 1 } := by
  refine ⟨Nat.le_succ _, fun id mem => by simp [mem], fun id marked => ?_⟩
  rcases (Visited.mem_insert _ _ _).1 marked with rfl | old
  · exact Or.inr (Or.inr ⟨Nat.le_refl _, Nat.lt_succ_self _⟩)
  · exact Or.inl old

/-- Identities below the supply and their copies above it are distinct. -/
theorem nodup_copied_append {n : NodeId} {xs : List NodeId} (distinct : xs.Nodup)
    (below : ∀ id ∈ xs, id < n) : (xs.map (n + ·) ++ xs).Nodup := by
  refine List.nodup_append.2 ⟨distinct.map fun a b same => Nat.add_left_cancel same, distinct, ?_⟩
  intro copy copied id mem same
  obtain ⟨original, -, rfl⟩ := List.mem_map.1 copied
  exact Nat.not_le_of_lt (below id mem) (same ▸ Nat.le_add_right n original)

/-- Unsettled identities and their copies are unsettled once a template beside them was copied. -/
theorem Unsettled.copied {xs : List NodeId} {id : NodeId} {s s' : Swapper} (h : s.Unsettled xs)
    (bounded : s.Bounded) (apart : id ∉ xs) (low : id < s.supply)
    (visited : s'.visited =
      ((s.visited.insert (s.supply + id)).insert id).insert (s.supply + s.supply))
    (supply : s'.supply = s.supply + s.supply + 1) :
    s'.Unsettled (xs.map (s.supply + ·) ++ xs) := by
  refine ⟨nodup_copied_append h.distinct h.below, fun other mem => ?_, fun other mem marked => ?_⟩
  · rw [supply]
    rcases List.mem_append.1 mem with copied | original
    · obtain ⟨original, found, rfl⟩ := List.mem_map.1 copied
      have := h.below original found
      grind
    · have := h.below other original
      grind
  · simp only [visited, Visited.mem_insert] at marked
    rcases List.mem_append.1 mem with copied | original
    · obtain ⟨original, found, rfl⟩ := List.mem_map.1 copied
      have h₁ := h.below original found
      have h₂ := bounded (s.supply + original)
      grind
    · have h₁ := h.below other original
      have h₂ := h.unmarked other original
      grind

end Swapper

open Swapper

namespace Swaps

variable {config : Config} {node node' : Node} {s s' : Swapper}

theorem supply_le (h : Swaps config node s node' s') : s.supply ≤ s'.supply := by
  induction h with
  | settled | other | kept => exact Nat.le_refl _
  | paren h inside ih => exact ih
  | text | template => grind
  | conditional fresh h first second ihYes ihNo => grind

/-- A change of an argument touches the identities on its branches only. -/
theorem advance (h : Swaps config node s node' s')
    (below : ∀ id ∈ node.branchIds, id < s.supply) : Advance node.branchIds s s' := by
  induction h with
  | settled | other => exact Advance.refl _ _
  | paren h inside ih => exact ih below
  | @kept node id s events own fresh h =>
      have touched := mem_branchIds_of_id? own
      refine ⟨Nat.le_refl _, fun other mem => by simp [mem], fun other marked => ?_⟩
      rcases (Visited.mem_insert _ _ _).1 marked with rfl | old
      · exact Or.inr (Or.inl touched)
      · exact Or.inl old
  | text events fresh h =>
      refine ⟨by grind, fun other mem => by simp [mem], fun other marked => ?_⟩
      simp only [Visited.mem_insert, branchIds, List.mem_singleton] at marked ⊢
      grind
  | @template id span quasis parts s events fresh h =>
      have low : id < s.supply := below id (by simp [branchIds])
      refine ⟨by grind, fun other mem => by simp [mem], fun other marked => ?_⟩
      simp only [Visited.mem_insert, branchIds, List.mem_singleton] at marked ⊢
      grind
  | @conditional id span test yes no yes' no' s s₁ s₂ fresh h first second ihYes ihNo =>
      have advanceYes := ihYes fun id mem => below id (by simp [branchIds, mem])
      have advanceNo := ihNo fun id mem =>
        Nat.lt_of_lt_of_le (below id (by simp [branchIds, mem])) advanceYes.supply_le
      refine ((advanceYes.trans advanceNo).trans (advance_fresh s₂)).mono fun id mem => ?_
      rw [List.append_nil] at mem
      exact Or.inl (List.mem_cons_of_mem _ mem)

/-- The identities inside calls of the result are those of the argument and new ones. -/
theorem callIds_within (h : Swaps config node s node' s')
    (below : ∀ id ∈ node.ids, id < s.supply) :
    ∀ id ∈ node'.callIds, id ∈ node.callIds ∨ s.supply ≤ id ∧ id < s'.supply := by
  induction h with
  | settled | other | kept => exact fun id mem => Or.inl mem
  | paren h inside ih => exact ih below
  | text => simp [callIds]
  | @template id span quasis parts s events fresh h =>
      intro other mem
      simp only [callIds, Config.callIds_supportTest, callIdsAll_mapIdsAll, List.nil_append,
        List.mem_append, List.mem_map] at mem ⊢
      rcases mem with ⟨part, inPart, rfl⟩ | mem
      · have low : part < s.supply :=
          below part (List.mem_cons_of_mem _ ((callIdsAll_sublist parts).subset inPart))
        grind
      · exact Or.inl mem
  | @conditional id span test yes no yes' no' s s₁ s₂ fresh h first second ihYes ihNo =>
      have advanceYes := first.advance fun id mem =>
        below id (by simp [ids, mem_ids_of_mem_branchIds mem])
      have advanceNo := second.advance fun id mem =>
        Nat.lt_of_lt_of_le (below id (by simp [ids, mem_ids_of_mem_branchIds mem]))
          advanceYes.supply_le
      have withinYes := ihYes fun id mem => below id (by simp [ids, mem])
      have withinNo := ihNo fun id mem =>
        Nat.lt_of_lt_of_le (below id (by simp [ids, mem])) advanceYes.supply_le
      have h₁ := advanceYes.supply_le
      have h₂ := advanceNo.supply_le
      intro other mem
      simp only [callIds, List.mem_append] at mem ⊢
      grind

/-- The identities inside calls of the result are unsettled. -/
theorem callIds_unsettled (h : Swaps config node s node' s') (bounded : s.Bounded)
    (unsettled : s.Unsettled node.ids) : s'.Unsettled node'.callIds := by
  induction h with
  | settled | other => exact unsettled.sublist (callIds_sublist _)
  | paren h inside ih => exact ih bounded unsettled
  | @kept node id s events own fresh h =>
      have kept : Swaps config node s node _ := Swaps.kept events own fresh h
      refine (unsettled.sublist node.callIds_sublist).stays (kept.advance ?_) ?_
      · exact fun id mem => unsettled.below id (mem_ids_of_mem_branchIds mem)
      · exact fun id inCall onBranch =>
          not_mem_callIds_of_mem_branchIds unsettled.distinct onBranch inCall
  | text => exact ⟨by simp [callIds], by simp [callIds], by simp [callIds]⟩
  | @template id span quasis parts s events fresh h =>
      have inner := callIdsAll_sublist parts
      have distinct := List.nodup_cons.1 unsettled.distinct
      have inParts := unsettled.sublist (inner.cons id)
      have apart : id ∉ callIdsAll parts := fun mem => distinct.1 (inner.subset mem)
      have low : id < s.supply := unsettled.below id List.mem_cons_self
      simp only [callIds, Config.callIds_supportTest, callIdsAll_mapIdsAll, List.nil_append]
      exact inParts.copied bounded apart low rfl rfl
  | @conditional id span test yes no yes' no' s s₁ s₂ fresh h first second ihYes ihNo =>
      have all : s.Unsettled (test.ids ++ (yes.ids ++ no.ids)) :=
        unsettled.sublist (List.sublist_cons_self _ _)
      have both := all.sublist (List.sublist_append_right _ _)
      have ofYes := both.sublist (List.sublist_append_left _ _)
      have ofNo := both.sublist (List.sublist_append_right _ _)
      have ofTest := all.sublist (test.callIds_sublist.trans (List.sublist_append_left _ _))
      have advanceYes := first.advance fun id mem =>
        ofYes.below id (mem_ids_of_mem_branchIds mem)
      have noLater : s₁.Unsettled no.ids :=
        (both.sublist (yes.branchIds_sublist.append_right _)).after advanceYes
      have advanceNo := second.advance fun id mem =>
        noLater.below id (mem_ids_of_mem_branchIds mem)
      have bounded₁ : s₁.Bounded := advanceYes.bounded bounded fun id mem =>
        ofYes.below id (mem_ids_of_mem_branchIds mem)
      have withinYes := first.callIds_within ofYes.below
      have withinNo := second.callIds_within noLater.below
      have freshYes := ihYes bounded ofYes
      have freshNo := ihNo bounded₁ noLater
      have distinct := all.distinct
      simp only [List.nodup_append, List.mem_append] at distinct
      have h₁ := advanceYes.supply_le
      have branchYes := @mem_ids_of_mem_branchIds yes
      have branchNo := @mem_ids_of_mem_branchIds no
      have callYes := @mem_ids_of_mem_callIds yes
      have callNo := @mem_ids_of_mem_callIds no
      have callTest := @mem_ids_of_mem_callIds test
      have testLater : s₂.Unsettled test.callIds := by
        refine ofTest.stays (advanceYes.trans advanceNo) fun id inTest touched => ?_
        simp only [List.mem_append] at touched
        grind
      have yesLater : s₂.Unsettled yes'.callIds := by
        refine freshYes.stays advanceNo fun id inYes touched => ?_
        have := ofNo.below id (branchNo touched)
        rcases withinYes id inYes with old | new <;> grind
      have lower : ∀ id ∈ test.callIds ++ (yes.callIds ++ no.callIds), id < s.supply := by
        intro id mem
        refine all.below id ?_
        simp only [List.mem_append] at mem ⊢
        grind
      simp only [List.mem_append] at lower
      refine Unsettled.stays ?_ (advance_fresh s₂) (by simp)
      refine testLater.append (yesLater.append freshNo fun id inYes inNo => ?_) fun id inTest h => ?_
      · have := withinYes id inYes
        have := withinNo id inNo
        grind
      · simp only [List.mem_append] at h
        have := withinYes id
        have := withinNo id
        grind

/-- The result of a change is settled if it has an identity. -/
theorem result_settled (h : Swaps config node s node' s') :
    node'.shape = .other ∨ s'.visited.contains node' = true := by
  induction h with
  | settled h => exact Or.inr h
  | other h => exact Or.inl h
  | paren h inside ih => exact ih
  | kept events own fresh h => exact Or.inr ((Visited.contains_iff _ _).2 ⟨_, own, by simp⟩)
  | text | template | conditional =>
      exact Or.inr ((Visited.contains_iff _ _).2 ⟨_, rfl, by simp⟩)

/-- The result of a change of a shape that may be changed has an identity. -/
theorem exists_id (h : Swaps config node s node' s') (shape : node.shape ≠ .other) :
    ∃ id, node'.id? = some id := by
  rcases h.result_settled with other | settled
  · exact absurd other (h.shape_ne_other shape)
  · obtain ⟨id, own, -⟩ := (Visited.contains_iff _ _).1 settled
    exact ⟨id, own⟩

end Swaps

end ImageFallback
