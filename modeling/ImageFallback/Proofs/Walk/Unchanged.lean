import ImageFallback.Proofs.Walk.Accounts
import ImageFallback.Proofs.Walk.Renewed

/-!
# Whether a run has changed anything

A run builds conditionals anew and drops parentheses even where nothing is eligible, and a second
version may read like the first. Still the counter of changed arguments tells whether the program is
another one than before, up to parentheses and identities.

A run that counts no change has built no conditional on the run-time test, and then every step keeps
the bare trees (`Walks.bare_eq`). A run that counts one has made the program larger: every step adds
as many nodes besides parentheses as it counts changes, or more (`Walks.size_add_le`).
-/

namespace ImageFallback

open Node

namespace Node

/-- The number of nodes besides parentheses. -/
def size (nodes : List Node) : Nat := countNodes (fun node => !node.isParen) nodes

theorem isParen_withParts (node : Node) (ps : List Node) :
    (node.withParts ps).isParen = node.isParen := by
  cases node <;> rcases ps with _ | ⟨p, _ | ⟨q, _ | ⟨r, _ | ⟨x, ps⟩⟩⟩⟩ <;> rfl

theorem size_cons (node : Node) (rest : List Node) :
    size (node :: rest) = size [node] + size rest :=
  countNodes_cons _ node rest

theorem size_singleton (node : Node) :
    size [node] = (if node.isParen then 0 else 1) + size node.parts := by
  rw [size, countNodes_singleton, size]
  cases node.isParen <;> rfl

theorem size_conditional (id : NodeId) (span : Span) (test yes no : Node) :
    size [.conditional id span test yes no] = 1 + (size [test] + (size [yes] + size [no])) :=
  countNodes_conditional _ id span test yes no

theorem size_mapIdsAll (f : NodeId → NodeId) (nodes : List Node) :
    size (mapIdsAll f nodes) = size nodes :=
  countNodes_mapIdsAll (fun node => by rw [isParen_mapIds]) nodes

theorem size_bareAll (nodes : List Node) : size (bareAll nodes) = size nodes := by
  induction nodes using forestInduction with
  | nil => rfl
  | cons node rest inside after =>
      rw [bareAll, size_cons, size_cons node, after]
      congr 1
      cases paren : node.isParen with
      | false =>
          rw [size_singleton, size_singleton node, parts_bare paren, inside, paren,
            node.isParen_bare]
      | true =>
          cases node with
          | paren span inner =>
              rw [size_singleton (.paren span inner), ← inside]
              simp [parts, bareAll, bare, isParen]
          | _ => cases paren

/-- Trees that are equal up to parentheses and identities have the same size. -/
theorem size_eq_of_bare {xs ys : List Node}
    (same : anonymousAll (bareAll xs) = anonymousAll (bareAll ys)) : size xs = size ys := by
  rw [← size_bareAll xs, ← size_bareAll ys, ← size_mapIdsAll (fun _ => 0) (bareAll xs),
    ← size_mapIdsAll (fun _ => 0) (bareAll ys)]
  exact congrArg size same

/-- A node with other parts is the same node up to parentheses and identities if the parts are the
same up to them. -/
theorem anonymous_bare_withParts {node : Node} {ps : List Node}
    (length : ps.length = node.parts.length)
    (same : anonymousAll (bareAll ps) = anonymousAll (bareAll node.parts)) :
    (node.withParts ps).bare.anonymous = node.bare.anonymous := by
  cases paren : node.isParen with
  | false =>
      rw [bare_withParts paren ps length, anonymous, mapIds_withParts, ← anonymousAll, same,
        anonymousAll, ← parts_bare paren, ← mapIds_withParts, withParts_parts, anonymous]
  | true =>
      cases node with
      | paren span inner =>
          obtain ⟨p, rfl⟩ := List.length_eq_one_iff.1 length
          simpa [withParts, bare, parts, bareAll, anonymousAll, mapIdsAll, anonymous] using same
      | _ => cases paren

end Node

namespace Config

/-- No literal gets a second version: nothing but a conditional is ever changed. -/
def KeepsLiterals (config : Config) : Prop :=
  ∀ node, config.changes node = true → node.shape = .conditional

theorem keepsLiterals_of_disabled {config : Config}
    (disabled : config.shapes = Shapes.none ∨ config.extensions.recognized = []) :
    config.KeepsLiterals := by
  intro node h
  cases node with
  | text | template =>
      rcases disabled with none | empty
      · simp [changes, none, Shapes.none] at h
      · simp [changes, Extensions.isEligible_eq, Extensions.containsAny, Extensions.firstMatch,
          empty] at h
  | conditional => rfl
  | _ => cases h

end Config

/-! ## One change -/

namespace Swaps

variable {config : Config} {node node' : Node} {s s' : Swapper}

/-- A change adds as many nodes as it builds conditionals on the run-time test, or more. -/
theorem size_add_le (h : Swaps config node s node' s') :
    size [node] + s'.synthesized ≤ size [node'] + s.synthesized := by
  induction h with
  | settled | other | kept => exact Nat.le_refl _
  | @paren span inner node s s' h inside ih =>
      have same : size [.paren span inner] = size [inner] := by
        rw [size_singleton, parts, isParen, if_pos rfl, Nat.zero_add]
      rw [same]
      exact ih
  | @text id span value lone =>
      have one (id : NodeId) (value : String) (lone : Bool) :
          size [.text id span value lone] = 1 := rfl
      rw [size_conditional, one, one]
      dsimp only
      omega
  | @template id span quasis parts s =>
      have own (id : NodeId) (quasis : List Quasi) (parts : List Node) :
          size [.template id span quasis parts] = 1 + size parts := size_singleton _
      rw [size_conditional, own, own, size_mapIdsAll]
      dsimp only
      omega
  | conditional fresh h first second ihYes ihNo =>
      rw [size_conditional, size_conditional]
      dsimp only
      omega

theorem synthesized_le (h : Swaps config node s node' s') : s.synthesized ≤ s'.synthesized := by
  induction h with
  | settled | other | kept => exact Nat.le_refl _
  | paren h inside ih => exact ih
  | text | template => exact Nat.le_succ _
  | conditional fresh h first second ihYes ihNo => exact Nat.le_trans ihYes ihNo

/-- A change that builds none keeps the node, up to parentheses and identities. -/
theorem bare_eq (h : Swaps config node s node' s') (none : s'.synthesized = s.synthesized) :
    node'.bare.anonymous = node.bare.anonymous := by
  induction h with
  | settled | other | kept => rfl
  | paren h inside ih => exact ih none
  | text | template => exact absurd none (Nat.succ_ne_self _)
  | conditional fresh h first second ihYes ihNo =>
      have le := first.synthesized_le
      have le' := second.synthesized_le
      dsimp only at none
      have same := ihYes (by omega)
      have same' := ihNo (by omega)
      simp only [anonymous] at same same' ⊢
      simp only [bare, mapIds, same, same']

/-- Where no literal gets a second version none is built. -/
theorem synthesized_eq (h : Swaps config node s node' s') (keeps : config.KeepsLiterals) :
    s'.synthesized = s.synthesized := by
  induction h with
  | settled | other | kept => rfl
  | paren h inside ih => exact ih
  | text _ _ h => cases keeps _ h
  | template _ _ h => cases keeps _ h
  | conditional fresh h first second ihYes ihNo => exact ihNo.trans ihYes

end Swaps

/-! ## One call -/

namespace Pass

variable {config : Config} {remarks : List Remark}

namespace Handles

variable {span : Span} {callee : Node} {arguments handled : List Node} {pass begun : Pass}

theorem size_add_le (h : Handles config remarks span callee arguments pass handled begun) :
    size arguments + begun.report.swapped ≤ size handled + pass.report.swapped := by
  cases h with
  | swapped ok h unmarked noSkip formed swaps =>
      have grows := swaps.size_add_le
      have le := swaps.synthesized_le
      rw [Config.loaderArgument?_eq_some h]
      dsimp only
      split <;> omega
  | _ => exact Nat.le_refl _

theorem swapped_le (h : Handles config remarks span callee arguments pass handled begun) :
    pass.report.swapped ≤ begun.report.swapped := by
  cases h with
  | swapped => exact Nat.le_add_right _ _
  | _ => exact Nat.le_refl _

theorem bare_eq (h : Handles config remarks span callee arguments pass handled begun)
    (none : begun.report.swapped = pass.report.swapped) :
    anonymousAll (bareAll handled) = anonymousAll (bareAll arguments) := by
  cases h with
  | @swapped argument argument' s ok h unmarked noSkip formed swaps =>
      have le := swaps.synthesized_le
      have same := swaps.bare_eq (by
        dsimp only at none
        split at none <;> omega)
      rw [Config.loaderArgument?_eq_some h]
      simpa [bareAll, anonymousAll, mapIdsAll, anonymous] using same
  | _ => rfl

theorem swapped_eq (h : Handles config remarks span callee arguments pass handled begun)
    (keeps : config.KeepsLiterals) :
    begun.report.swapped = pass.report.swapped := by
  cases h with
  | swapped ok h unmarked noSkip formed swaps => simp [swaps.synthesized_eq keeps]
  | _ => rfl

end Handles

/-! ## A whole walk -/

namespace Walks

variable {nodes nodes' : List Node} {pass pass' : Pass}

theorem size_add_le (h : Walks config remarks nodes pass nodes' pass') :
    size nodes + pass'.report.swapped ≤ size nodes' + pass.report.swapped := by
  induction h with
  | nil => exact Nat.le_refl _
  | @inert node rest inner rest' pass mid last notCall inside after ihInside ihAfter =>
      rw [size_cons, size_cons (node.withParts inner), size_singleton,
        size_singleton (node.withParts inner), isParen_withParts,
        parts_withParts node inner inside.length_eq]
      omega
  | @call span callee callee' arguments handled inner rest rest' optional pass begun mid last
      handling inside after ihInside ihAfter =>
      have own := (handles_of_eq handling).size_add_le
      have whole (callee : Node) (arguments : List Node) :
          size [.call span callee arguments optional] = 1 + (size [callee] + size arguments) := by
        rw [size_singleton, parts, size_cons]
        rfl
      rw [size_cons callee, size_cons callee'] at ihInside
      rw [size_cons, size_cons (.call span callee' inner optional), whole, whole]
      omega

theorem swapped_le (h : Walks config remarks nodes pass nodes' pass') :
    pass.report.swapped ≤ pass'.report.swapped := by
  induction h with
  | nil => exact Nat.le_refl _
  | inert notCall inside after ihInside ihAfter => exact Nat.le_trans ihInside ihAfter
  | call handling inside after ihInside ihAfter =>
      have own := (handles_of_eq handling).swapped_le
      exact Nat.le_trans own (Nat.le_trans ihInside ihAfter)

/-- A walk that counts no change leaves its trees as they are, up to parentheses and identities. -/
theorem bare_eq (h : Walks config remarks nodes pass nodes' pass')
    (none : pass'.report.swapped = pass.report.swapped) :
    anonymousAll (bareAll nodes') = anonymousAll (bareAll nodes) := by
  induction h with
  | nil => rfl
  | @inert node rest inner rest' pass mid last notCall inside after ihInside ihAfter =>
      have le := inside.swapped_le
      have le' := after.swapped_le
      have first := anonymous_bare_withParts inside.length_eq (ihInside (by omega))
      have second := ihAfter (by omega)
      simp only [anonymousAll, anonymous] at first second ⊢
      simp only [bareAll, mapIdsAll, first, second]
  | @call span callee callee' arguments handled inner rest rest' optional pass begun mid last
      handling inside after ihInside ihAfter =>
      have handles := handles_of_eq handling
      have own := handles.swapped_le
      have le := inside.swapped_le
      have le' := after.swapped_le
      have kept := handles.bare_eq (by omega)
      have first := ihInside (by omega)
      have second := ihAfter (by omega)
      simp only [anonymousAll, bareAll, mapIdsAll, List.cons.injEq] at kept first second ⊢
      simp only [Node.bare, mapIds, first.1, first.2, kept, second, and_self]

theorem swapped_eq (h : Walks config remarks nodes pass nodes' pass')
    (keeps : config.KeepsLiterals) :
    pass'.report.swapped = pass.report.swapped := by
  induction h with
  | nil => rfl
  | inert notCall inside after ihInside ihAfter => exact ihAfter.trans ihInside
  | call handling inside after ihInside ihAfter =>
      have own := (handles_of_eq handling).swapped_eq keeps
      exact ihAfter.trans (ihInside.trans own)

end Walks

end Pass

/-- The first run of a new pass over a program with distinct identities and well-formed templates
ends well. Every first run that ends well reports no change exactly when it leaves the program as it
was, up to parentheses and identities; each change that it reports makes the program larger. It
reports none if no shape is enabled or no extension is recognized. -/
theorem swapped_eq_zero_iff (config : Config) (remarks : List Remark) (body : List Node)
    (supply : NodeId) :
    (Numbered body supply → formedAll body = true →
      ∃ report out last, (Pass.new supply).run config remarks body = (.ok report, out, last)) ∧
    ∀ report out last, (Pass.new supply).run config remarks body = (.ok report, out, last) →
      (report.swapped = 0 ↔ anonymousAll (bareAll out) = anonymousAll (bareAll body)) ∧
      size body + report.swapped ≤ size out ∧
      (config.shapes = Shapes.none ∨ config.extensions.recognized = [] →
        report.swapped = 0 ∧ anonymousAll (bareAll out) = anonymousAll (bareAll body)) := by
  refine ⟨fun numbered formed => ?_, fun report out last run => ?_⟩
  · obtain ⟨out, last, walks⟩ := Pass.exists_walks config remarks body (Pass.new supply)
    have ok := walks.ok_of_formed (Pass.ready_new numbered) formed rfl
    exact ⟨last.report, out, last, by rw [Pass.run_eq_of_walks walks, ok]⟩
  · obtain ⟨walks, -, rfl⟩ := Pass.walks_of_run_ok run
    have grows : size body + last.report.swapped ≤ size out := walks.size_add_le
    refine ⟨⟨fun none => walks.bare_eq none, fun same => ?_⟩, grows, fun disabled => ?_⟩
    · have equal := size_eq_of_bare same
      omega
    · have none := walks.swapped_eq (Config.keepsLiterals_of_disabled disabled)
      exact ⟨none, walks.bare_eq none⟩

/-- A conditional between parentheses, with a branch between parentheses, where no extension is
recognized: the run builds it anew without its parentheses, and reports no change. -/
theorem swapped_eq_zero_rebuilt :
    let config : Config := { extensions := { recognized := [] } }
    let body : List Node := [.call {} (.name {} "require")
      [.paren {} (.conditional 0 {} (.name {} "c") (.text 1 {} "./a.png" false)
        (.paren {} (.text 2 {} "./b.png" false)))] false]
    let out : List Node := [.call {} (.name {} "require")
      [.conditional 3 {} (.name {} "c") (.text 1 {} "./a.png" false)
        (.text 2 {} "./b.png" false)] false]
    Numbered body 3 ∧ formedAll body = true ∧ config.extensions.recognized = [] ∧
      ∃ last, (Pass.new 3).run config [] body = (.ok ⟨1, 0, 0⟩, out, last) ∧
        anonymousAll (bareAll out) = anonymousAll (bareAll body) := by
  intro config body out
  have numbered : Numbered body 3 := ⟨by decide, by decide⟩
  have formed : formedAll body = true := by decide
  obtain ⟨ends, tells⟩ := swapped_eq_zero_iff config [] body 3
  obtain ⟨report, left, last, run⟩ := ends numbered formed
  obtain ⟨-, same⟩ := (tells report left last run).2.2 (Or.inr rfl)
  have outcome : ((Pass.new 3).run config [] body).1 = .ok ⟨1, 0, 0⟩ := by
    unfold body config
    rfl
  have leaves : ((Pass.new 3).run config [] body).2.1 = out := by
    unfold body config
    rfl
  rw [run] at outcome leaves
  cases outcome
  obtain rfl : left = out := leaves
  exact ⟨numbered, formed, rfl, last, run, same⟩

end ImageFallback
