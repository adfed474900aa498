import ImageFallback.Proofs.Walk.Forest

/-!
# What a program means with and without the new format

A program that was walked over asks at run time whether the new format can be shown.
`Config.reading supported` answers the question beforehand: every conditional on the run-time test
becomes its first branch when the format is supported and its second branch when it is not, and
parentheses and identities, which have no meaning, are dropped.

Where the format is not supported, any number of runs leaves the reading of a program as it was,
whatever passes they use and however they end (`Runs.readingAll_after`). One step of a walk keeps
what its node reads as, given that the parts do.
-/

namespace ImageFallback

open Node Swapper

namespace Config

variable (config : Config)

/-- The node is the run-time test, wherever it stands in the source. -/
def isSupportTest (node : Node) : Bool :=
  node.memberPath? == some (config.predicateRoot :: config.predicateMembers)

theorem isSupportTest_supportTest : config.isSupportTest config.supportTest = true := by
  have chain : ∀ (members names : List String) (object : Node), object.memberPath? = some names →
      (members.foldl (fun object property => .unary Span.none (.member property false) object)
        object).memberPath? = some (names ++ members) := by
    intro members
    induction members with
    | nil => simp
    | cons property members ih =>
        intro names object h
        have next := ih (names ++ [property]) (.unary Span.none (.member property false) object)
          (by simp [memberPath?, h])
        simpa using next
  simpa [isSupportTest, supportTest] using
    chain config.predicateMembers [config.predicateRoot] (.name Span.none config.predicateRoot) rfl

mutual

/-- The node with the run-time test answered and without parentheses. -/
def resolve (supported : Bool) : Node → Node
  | .text id span value lone => .text id span value lone
  | .template id span quasis parts => .template id span quasis (resolveAll supported parts)
  | .conditional id span test yes no =>
    if config.isSupportTest test then
      if supported then resolve supported yes else resolve supported no
    else
      .conditional id span (resolve supported test) (resolve supported yes)
        (resolve supported no)
  | .paren _ inner => resolve supported inner
  | .name span value => .name span value
  | .call span callee arguments optional =>
    .call span (resolve supported callee) (resolveAll supported arguments) optional
  | .atom span value => .atom span value
  | .unary span form inner => .unary span form (resolve supported inner)
  | .binary span form left right =>
    .binary span form (resolve supported left) (resolve supported right)
  | .group span form items => .group span form (resolveAll supported items)

/-- The nodes with the run-time test answered and without parentheses. -/
def resolveAll (supported : Bool) : List Node → List Node
  | [] => []
  | node :: rest => resolve supported node :: resolveAll supported rest

end

/-- The node with the run-time test answered, without parentheses and identities. -/
def reading (supported : Bool) (node : Node) : Node := (config.resolve supported node).anonymous

/-- The nodes with the run-time test answered, without parentheses and identities. -/
def readingAll (supported : Bool) (nodes : List Node) : List Node :=
  anonymousAll (config.resolveAll supported nodes)

variable {config} {supported : Bool}

theorem readingAll_cons (node : Node) (rest : List Node) :
    config.readingAll supported (node :: rest) =
      config.reading supported node :: config.readingAll supported rest := rfl

/-- Nodes that read the same and are the run-time test together. -/
structure SameReading (config : Config) (supported : Bool) (node other : Node) : Prop where
  path : other.memberPath? = node.memberPath?
  reading : config.reading supported other = config.reading supported node

theorem SameReading.refl (node : Node) : SameReading config supported node node := ⟨rfl, rfl⟩

theorem SameReading.isSupportTest_eq {node other : Node}
    (h : SameReading config supported node other) :
    config.isSupportTest other = config.isSupportTest node := by
  rw [isSupportTest, isSupportTest, h.path]

theorem readingAll_congr {ps qs : List Node}
    (h : List.Forall₂ (SameReading config supported) ps qs) :
    config.readingAll supported qs = config.readingAll supported ps := by
  induction h with
  | nil => rfl
  | cons first _ ih => rw [readingAll_cons, readingAll_cons, first.reading, ih]

/-- A conditional reads the same when its parts do, since its identity is not read. -/
theorem reading_conditional_congr {id id' : NodeId} {span : Span}
    {test test' yes yes' no no' : Node}
    (first : SameReading config supported test test')
    (second : config.reading supported yes' = config.reading supported yes)
    (third : config.reading supported no' = config.reading supported no) :
    config.reading supported (.conditional id' span test' yes' no') =
      config.reading supported (.conditional id span test yes no) := by
  have test := first.reading
  simp only [reading, anonymous, resolve, first.isSupportTest_eq] at test second third ⊢
  split
  · split
    · exact second
    · exact third
  · simp only [mapIds, test, second, third]

/-- A node reads the same when its parts do. -/
theorem reading_withParts_congr {node : Node} {ps qs : List Node}
    (length : ps.length = node.parts.length)
    (h : List.Forall₂ (SameReading config supported) ps qs) :
    config.reading supported (node.withParts qs) =
      config.reading supported (node.withParts ps) := by
  have all := readingAll_congr h
  cases node with
  | text | name | atom => rfl
  | template id span quasis parts =>
      simpa [reading, readingAll, withParts, resolve, anonymous, anonymousAll, mapIds] using all
  | group span form items =>
      simpa [reading, readingAll, withParts, resolve, anonymous, anonymousAll, mapIds] using all
  | call span callee arguments optional =>
      obtain ⟨p, ps, rfl⟩ := List.exists_cons_of_length_eq_add_one length
      rcases h with _ | ⟨first, others⟩
      simpa [reading, readingAll, withParts, resolve, resolveAll, anonymous, anonymousAll, mapIds,
        mapIdsAll] using all
  | paren span inner =>
      obtain ⟨p, rfl⟩ := List.length_eq_one_iff.1 length
      rcases h with _ | ⟨first, _ | _⟩
      simpa [reading, withParts, resolve] using first.reading
  | unary span form inner =>
      obtain ⟨p, rfl⟩ := List.length_eq_one_iff.1 length
      rcases h with _ | ⟨first, _ | _⟩
      simpa [reading, withParts, resolve, anonymous, mapIds] using first.reading
  | binary span form left right =>
      obtain ⟨p, q, rfl⟩ := List.length_eq_two.1 length
      rcases h with _ | ⟨first, _ | ⟨second, _ | _⟩⟩
      have left := first.reading
      have right := second.reading
      simp_all [reading, withParts, resolve, anonymous, mapIds]
  | conditional id span test yes no =>
      obtain ⟨p, q, r, rfl⟩ := List.length_eq_three.1 length
      rcases h with _ | ⟨first, _ | ⟨second, _ | ⟨third, _ | _⟩⟩⟩
      exact reading_conditional_congr first second.reading third.reading

end Config

/-! ## Where the format is not supported -/

/-- A changed argument has the argument as its reading. -/
theorem Swaps.reading_false {config : Config} {node node' : Node} {s s' : Swapper}
    (h : Swaps config node s node' s') :
    config.reading false node' = config.reading false node := by
  induction h with
  | settled | other | kept => rfl
  | paren h inside ih => rw [ih, Config.reading, Config.reading, Config.resolve]
  | text => simp [Config.reading, Config.resolve, Config.isSupportTest_supportTest]
  | template => simp [Config.reading, Config.resolve, Config.isSupportTest_supportTest]
  | conditional fresh h first second ihYes ihNo =>
      exact Config.reading_conditional_congr (Config.SameReading.refl _) ihYes ihNo

namespace Pass

variable {config : Config} {remarks : List Remark}

theorem Handles.readingAll_false {span : Span} {callee : Node} {arguments handled : List Node}
    {pass begun : Pass} (h : Handles config remarks span callee arguments pass handled begun) :
    config.readingAll false handled = config.readingAll false arguments := by
  cases h with
  | swapped ok h unmarked noSkip formed swaps =>
      rw [Config.loaderArgument?_eq_some h, Config.readingAll_cons, Config.readingAll_cons,
        swaps.reading_false]
  | _ => rfl

/-- Every node of a walk reads as before, with an error or without one. -/
theorem Walks.sameReading_false {nodes nodes' : List Node} {pass pass' : Pass}
    (h : Walks config remarks nodes pass nodes' pass') :
    List.Forall₂ (Config.SameReading config false) nodes nodes' := by
  induction h with
  | nil => exact List.Forall₂.nil
  | @inert node rest inner rest' pass mid last notCall inside after ihInside ihAfter =>
      refine List.Forall₂.cons ⟨(sameHead_withParts inside.sameHead).path, ?_⟩ ihAfter
      rw [Config.reading_withParts_congr rfl ihInside, withParts_parts]
  | @call span callee callee' arguments handled inner rest rest' optional pass begun mid last
      handling inside after ihInside ihAfter =>
      refine List.Forall₂.cons ⟨rfl, ?_⟩ ihAfter
      rcases ihInside with _ | ⟨first, others⟩
      have arguments := (Config.readingAll_congr others).trans
        (handles_of_eq handling).readingAll_false
      have callee := first.reading
      simp only [Config.reading, Config.readingAll, Config.resolve, anonymous, anonymousAll,
        mapIds] at arguments callee ⊢
      rw [arguments, callee]

variable (config remarks)

theorem readingAll_run (body : List Node) (pass : Pass) :
    config.readingAll false (pass.run config remarks body).2.1 =
      config.readingAll false body := by
  obtain ⟨out, last, walks⟩ := exists_walks config remarks body pass
  rw [← Config.readingAll_congr walks.sameReading_false, run_eq_of_walks walks]
  split <;> rfl

end Pass

namespace Runs

variable (config : Config) (remarks : List Remark)

/-- The program and the current pass after runs of the given kinds, whatever they end in. -/
def after (kinds : List RunKind) (runs : Runs) : Runs :=
  kinds.foldl (fun runs kind => (runs.step config remarks kind).2) runs

theorem readingAll_step (kind : RunKind) (runs : Runs) :
    config.readingAll false (runs.step config remarks kind).2.body =
      config.readingAll false runs.body := by
  cases kind with
  | again => exact runs.pass.readingAll_run config remarks runs.body
  | renewed => exact Pass.readingAll_run config remarks runs.body _
  | once => exact Pass.readingAll_run config remarks runs.body _

/-- Where the format is not supported, runs do not change what a program means. -/
theorem readingAll_after (kinds : List RunKind) (runs : Runs) :
    config.readingAll false (runs.after config remarks kinds).body =
      config.readingAll false runs.body := by
  induction kinds generalizing runs with
  | nil => rfl
  | cons kind kinds ih =>
      have later := ih (runs.step config remarks kind).2
      rw [readingAll_step] at later
      exact later

end Runs

end ImageFallback
