import ImageFallback.Proofs.Data.Ordered
import Mathlib.Data.List.Sort

/-!
# Deep merges

`Merges lower upper merged` describes the merge of two values without computing it: of two maps every
key is kept as it is spelled, with the value of the only map that has it or else with the merge of
both values, and of any other two values the upper one stays. For values in order there is exactly
one merge, and `overlay` computes it (`merges_iff`).
-/

namespace ImageFallback.Value

/-- The upper value merged over the lower one. -/
inductive Merges : Value → Value → Value → Prop where
  | upper {lower upper : Value}
      (other : ∀ below above, lower = .map below → upper ≠ .map above) :
      Merges lower upper upper
  | maps {lower upper merged : List (String × Value)}
      (keys : (merged.map Prod.fst).Pairwise (· < ·))
      (names : ∀ key, key ∈ merged.map Prod.fst ↔
        key ∈ lower.map Prod.fst ∨ key ∈ upper.map Prod.fst)
      (onlyLower : ∀ key, field? key upper = none → field? key merged = field? key lower)
      (onlyUpper : ∀ key, field? key lower = none → field? key merged = field? key upper)
      (both : ∀ key below above laid, field? key lower = some below →
        field? key upper = some above → field? key merged = some laid → Merges below above laid) :
      Merges (.map lower) (.map upper) (.map merged)

theorem overlay_map (lower upper : List (String × Value)) :
    (Value.map lower).overlay (.map upper) = .map (overlayFields lower upper) := by
  rw [overlay]

theorem overlay_of_not_maps {lower upper : Value}
    (other : ∀ below above, lower = .map below → upper ≠ .map above) :
    lower.overlay upper = upper := by
  cases upper with
  | map above =>
      cases lower with
      | map below => exact absurd rfl (other below above rfl)
      | _ =>
          rw [overlay]
          exact fun _ h => by cases h
  | _ => exact overlay_of_not_map fun _ h => by cases h

/-- Maps with their keys in order are the same when they hold the same under every key. -/
theorem eq_of_field? {fields others : List (String × Value)}
    (keys : (fields.map Prod.fst).Pairwise (· < ·)) (keys' : (others.map Prod.fst).Pairwise (· < ·))
    (same : ∀ key, field? key fields = field? key others) : fields = others := by
  have mem : ∀ field, field ∈ fields ↔ field ∈ others := by
    rintro ⟨key, value⟩
    rw [← field?_eq_some_iff keys, ← field?_eq_some_iff keys', same key]
  rw [List.pairwise_map] at keys keys'
  have irreflexive : Std.Irrefl fun field other : String × Value => field.1 < other.1 :=
    ⟨fun field => lt_irrefl field.1⟩
  have antisymmetric : Std.Antisymm fun field other : String × Value => field.1 < other.1 :=
    ⟨fun _ _ h h' => absurd h' (lt_asymm h)⟩
  exact keys.eq_of_mem_iff keys' mem

theorem Merges.eq_overlay {lower upper merged : Value} (merges : Merges lower upper merged)
    (below : lower.Ordered) (above : upper.Ordered) : merged = lower.overlay upper := by
  induction merges with
  | upper other => rw [overlay_of_not_maps other]
  | @maps lower upper merged keys names onlyLower onlyUpper both ih =>
      rw [overlay_map]
      congr 1
      refine eq_of_field? keys (below.overlayFields above.each).keys fun key => ?_
      rw [field?_overlayFields key lower above.keys]
      cases top : field? key upper with
      | none => exact onlyLower key top
      | some newer =>
          cases bottom : field? key lower with
          | none => exact (onlyUpper key bottom).trans top
          | some older =>
              have present : key ∈ merged.map Prod.fst := by
                refine (names key).2 (Or.inl ?_)
                exact List.mem_map_of_mem (f := Prod.fst) (mem_of_field? bottom)
              cases found : field? key merged with
              | none => exact absurd present (field?_eq_none_iff.1 found)
              | some value =>
                  congr 1
                  exact ih key older newer value bottom top found (below.of_field? bottom)
                    (above.of_field? top)

theorem merges_overlay {lower upper : Value} (below : lower.Ordered) (above : upper.Ordered) :
    Merges lower upper (lower.overlay upper) := by
  induction above generalizing lower with
  | @map upper keys each ih =>
      cases lower with
      | map lower =>
          rw [overlay_map]
          have held := fun key => field?_overlayFields key lower keys
          refine Merges.maps (below.overlayFields each).keys
            (fun key => mem_keys_overlayFields_iff keys) (fun key absent => ?_)
            (fun key absent => ?_) fun key older newer value bottom top found => ?_
          · rw [held, absent]
          · rw [held, absent]
            cases field? key upper <;> rfl
          · rw [held, top, bottom] at found
            cases found
            exact ih _ (mem_of_field? top) (below.of_field? bottom)
      | _ =>
          rw [overlay_of_not_maps fun _ _ h => by cases h]
          exact Merges.upper fun _ _ h => by cases h
  | _ =>
      rw [overlay_of_not_map fun _ h => by cases h]
      exact Merges.upper fun _ _ _ h => by cases h

/-- Values in order have exactly one merge. -/
theorem merges_iff {lower upper merged : Value} (below : lower.Ordered) (above : upper.Ordered) :
    Merges lower upper merged ↔ merged = lower.overlay upper := by
  constructor
  · intro merges
    exact merges.eq_overlay below above
  · rintro rfl
    exact merges_overlay below above

end ImageFallback.Value
