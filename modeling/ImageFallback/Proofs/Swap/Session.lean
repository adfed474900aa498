import ImageFallback.Proofs.Swap.Choices
import ImageFallback.Swap.Bench

/-!
# One swapper over many trees

A swapper is given trees one after the other, and in between the trees may be taken apart, put
together in new ways and copied. `Swapper.choices` lists the conditionals on the run-time test that
a change builds, read off the tree that comes back, and `Builds s s' built` says what a swapper has
done on the way from `s` to `s'` if it built these: it settled identities and lost none, it counted
the conditionals, each of them has a settled literal on both branches, and no two of them stand for
the same literal. Such ways follow one another (`Builds.trans`), which is the step from the branches
of a conditional to the conditional and also the step from one change to a whole session.

An identity that is settled is `Final`: a node that has it comes back as it is, whatever lies below
it, and wherever a tree leads to it through parentheses and branches.
-/

namespace ImageFallback

open Node

namespace Swapper

/-- The conditionals on the run-time test that a change builds, from left to right. -/
def choices (config : Config) (node : Node) (s : Swapper) : List Node :=
  node.newChoices (s.swap config node).1

/-- On the way from `s` to `s'` the conditionals `built` were built, each for a literal of its
own. -/
structure Builds (config : Config) (s s' : Swapper) (built : List Node) : Prop where
  grown : ∀ id ∈ s.visited.ids, id ∈ s'.visited.ids
  counted : s'.synthesized = s.synthesized + built.length
  wraps : ∃ ids : List NodeId, built.map fallbackId? = ids.map some ∧ ids.Nodup ∧
    ∀ id ∈ ids, id ∉ s.visited.ids ∧ id ∈ s'.visited.ids
  settles : ∀ choice ∈ built, ∃ id span yes no yesId noId,
    choice = .conditional id span config.supportTest yes no ∧ yes.id? = some yesId ∧
      no.id? = some noId ∧ yesId ∈ s'.visited.ids ∧ noId ∈ s'.visited.ids

namespace Builds

variable {config : Config} {s s₁ s₂ s' : Swapper} {built built' : List Node}

/-- Where nothing is built, identities may still be settled. -/
theorem nothing (grown : ∀ id ∈ s.visited.ids, id ∈ s'.visited.ids)
    (counted : s'.synthesized = s.synthesized) : Builds config s s' [] :=
  ⟨grown, counted, ⟨[], rfl, List.nodup_nil, by simp⟩, by simp⟩

theorem trans (first : Builds config s s₁ built) (second : Builds config s₁ s₂ built') :
    Builds config s s₂ (built ++ built') := by
  obtain ⟨ids, same, distinct, fresh⟩ := first.wraps
  obtain ⟨ids', same', distinct', fresh'⟩ := second.wraps
  refine ⟨fun id mem => second.grown id (first.grown id mem), ?_, ⟨ids ++ ids', ?_, ?_, ?_⟩, ?_⟩
  · rw [second.counted, first.counted, List.length_append, Nat.add_assoc]
  · rw [List.map_append, List.map_append, same, same']
  · -- What was wrapped first is settled by then, and what is wrapped later is not.
    refine List.nodup_append.2 ⟨distinct, distinct', ?_⟩
    rintro id mem _ mem' rfl
    exact (fresh' id mem').1 (fresh id mem).2
  · intro id mem
    rcases List.mem_append.1 mem with mem | mem
    · exact ⟨(fresh id mem).1, second.grown id (fresh id mem).2⟩
    · exact ⟨fun old => (fresh' id mem).1 (first.grown id old), (fresh' id mem).2⟩
  · intro choice mem
    rcases List.mem_append.1 mem with mem | mem
    · obtain ⟨id, span, yes, no, yesId, noId, form, ofYes, ofNo, settled, settled'⟩ :=
        first.settles choice mem
      exact ⟨id, span, yes, no, yesId, noId, form, ofYes, ofNo, second.grown _ settled,
        second.grown _ settled'⟩
    · exact second.settles choice mem

end Builds

end Swapper

/-- A change builds the new choices of what comes back. -/
theorem Swaps.builds {config : Config} {tree tree' : Node} {s s' : Swapper}
    (h : Swaps config tree s tree' s') : Swapper.Builds config s s' (tree.newChoices tree') := by
  induction h with
  | settled | other =>
      rw [newChoices_self]
      exact Swapper.Builds.nothing (fun _ mem => mem) rfl
  | paren h inside ih => exact ih
  | kept events own fresh h =>
      rw [newChoices_self]
      exact Swapper.Builds.nothing (fun other mem => by simp [mem]) rfl
  | @text id span value lone s events fresh h =>
      refine ⟨fun other mem => by simp [mem], rfl, ⟨[id], rfl, by simp, by simp [fresh]⟩, ?_⟩
      intro choice mem
      cases List.mem_singleton.1 mem
      exact ⟨_, _, _, _, _, _, rfl, rfl, rfl, by simp, by simp⟩
  | @template id span quasis parts s events fresh h =>
      refine ⟨fun other mem => by simp [mem], rfl, ⟨[id], rfl, by simp, by simp [fresh]⟩, ?_⟩
      intro choice mem
      cases List.mem_singleton.1 mem
      exact ⟨_, _, _, _, _, _, rfl, rfl, rfl, by simp, by simp⟩
  | conditional fresh h first second ihYes ihNo =>
      -- Once its branches are changed, the conditional itself is settled.
      rw [newChoices, ← List.append_nil (_ ++ _)]
      refine (ihYes.trans ihNo).trans (Swapper.Builds.nothing (fun other mem => ?_) rfl)
      simp [mem]

/-! ## Settled identities -/

namespace Swapper

/-- A node with the identity is never changed again: on its own nothing happens, and wherever a tree
leads to it through parentheses and branches, what becomes of the tree does too. -/
structure Final (config : Config) (s : Swapper) (id : NodeId) : Prop where
  alone : ∀ node, node.id? = some id → s.swap config node = (node, s)
  within : ∀ tree path node, node.id? = some id → tree.onBranch path = some node →
    (s.swap config tree).1.onBranch path = some node

end Swapper

namespace Swaps

variable {config : Config} {tree tree' : Node} {s s' : Swapper}

theorem grown (h : Swaps config tree s tree' s') : ∀ id ∈ s.visited.ids, id ∈ s'.visited.ids := by
  induction h with
  | settled | other => exact fun id mem => mem
  | paren h inside ih => exact ih
  | kept | text | template => exact fun id mem => by simp [mem]
  | conditional fresh h first second ihYes ihNo =>
      exact fun id mem => by simp [ihNo id (ihYes id mem)]

theorem eq_of_settled (h : Swaps config tree s tree' s') {id : NodeId}
    (own : tree.id? = some id) (settled : id ∈ s.visited.ids) : tree' = tree ∧ s' = s := by
  cases h with
  | settled | other => exact ⟨rfl, rfl⟩
  | paren => cases own
  | kept events own' fresh h =>
      rw [own] at own'
      cases own'
      exact (fresh settled).elim
  | text events fresh | template events fresh | conditional fresh =>
      cases own
      exact (fresh settled).elim

theorem onBranch_eq (h : Swaps config tree s tree' s') {id : NodeId} {node : Node}
    {path : List Bool} (own : node.id? = some id) (settled : id ∈ s.visited.ids)
    (found : tree.onBranch path = some node) : tree'.onBranch path = some node := by
  induction h generalizing path with
  | settled | other | kept => exact found
  | paren h inside ih => exact ih settled found
  | text events fresh | template events fresh =>
      cases path with
      | nil =>
          cases found
          cases own
          exact (fresh settled).elim
      | cons side path => cases side <;> cases found
  | conditional fresh h first second ihYes ihNo =>
      cases path with
      | nil =>
          cases found
          cases own
          exact (fresh settled).elim
      | cons side path =>
          cases side with
          | true => exact ihYes settled found
          | false => exact ihNo (first.grown id settled) found

end Swaps

theorem Swapper.final_of_mem {config : Config} {s : Swapper} {id : NodeId}
    (settled : id ∈ s.visited.ids) : Final config s id := by
  refine ⟨fun node own => ?_, fun tree path node own found => ?_⟩
  · obtain ⟨same, same'⟩ := (swap_swaps config node s).eq_of_settled own settled
    exact Prod.ext same same'
  · exact (swap_swaps config tree s).onBranch_eq own settled found

/-! ## Sessions -/

/-- Something that is done between and with changes by one swapper: an action, or any other way to
take trees apart and to put them together, for which nodes may take identities from the supply. -/
inductive Deed where
  | perform (action : Action) (same : action ≠ .renew)
  | arrange (slots : List (String × Node)) (taken : Nat)

/-- A tree that was given to a swapper. -/
structure Change where
  swapper : Swapper
  tree : Node

namespace Change

/-- The tree that came back. -/
def result (config : Config) (change : Change) : Node :=
  (change.swapper.swap config change.tree).1

/-- The conditionals on the run-time test that were built. -/
def choices (config : Config) (change : Change) : List Node :=
  change.swapper.choices config change.tree

end Change

namespace Bench

/-- The tree that is given to the swapper; none if the change is refused. -/
def given? (bench : Bench) : Deed → Option Node
  | .perform (.swap slot) _ => some (bench.tree slot)
  | .perform (.swapInPlace slot) _ =>
    match Swapper.wellFormed (bench.tree slot) with
    | .ok () => some (bench.tree slot)
    | .error _ => none
  | _ => none

/-- The bench once something is done. -/
def next (config : Config) (bench : Bench) : Deed → Bench
  | .perform action _ => (bench.perform config action).2
  | .arrange slots taken =>
    { bench with
      slots := slots
      swapper := { bench.swapper with supply := bench.swapper.supply + taken } }

/-- The bench once some things are done one after the other. -/
def after (config : Config) : Bench → List Deed → Bench
  | bench, [] => bench
  | bench, deed :: rest => after config (bench.next config deed) rest

/-- The changes among some things that are done one after the other. -/
def changes (config : Config) : Bench → List Deed → List Change
  | _, [] => []
  | bench, deed :: rest =>
    (bench.given? deed).toList.map (Change.mk bench.swapper) ++
      changes config (bench.next config deed) rest

theorem swapper_removeAll (names : List String) (bench : Bench) :
    (bench.removeAll names).2.swapper = bench.swapper := by
  induction names generalizing bench with
  | nil => rfl
  | cons name rest ih => exact ih (bench.remove name).2

/-- What is done either gives a tree to the swapper or settles and counts nothing. -/
theorem next_cases (config : Config) (bench : Bench) (deed : Deed) :
    (∃ tree, bench.given? deed = some tree ∧
        (bench.next config deed).swapper = (bench.swapper.swap config tree).2) ∨
      bench.given? deed = none ∧
        (bench.next config deed).swapper.visited = bench.swapper.visited ∧
        (bench.next config deed).swapper.synthesized = bench.swapper.synthesized := by
  cases deed with
  | arrange slots taken => exact Or.inr ⟨rfl, rfl, rfl⟩
  | perform action same =>
      cases action with
      | renew => exact (same rfl).elim
      | swap slot => exact Or.inl ⟨_, rfl, rfl⟩
      | swapInPlace slot =>
          simp only [given?, next, perform, Swapper.swapInPlace, Swapper.swapInPlaceBy]
          cases Swapper.wellFormed (bench.tree slot) with
          | error e => exact Or.inr ⟨rfl, rfl, rfl⟩
          | ok => exact Or.inl ⟨_, rfl, rfl⟩
      | template slot span quasis parts =>
          have kept := swapper_removeAll parts bench
          refine Or.inr ⟨rfl, ?_, ?_⟩
          · simp [next, perform, put, Swapper.fresh, kept]
          · simp [next, perform, put, Swapper.fresh, kept]
      | _ => exact Or.inr ⟨rfl, rfl, rfl⟩

/-- What is done builds the choices of the tree that it gives to the swapper, and settles what comes
back. -/
theorem next_builds (config : Config) (bench : Bench) (deed : Deed) :
    let given := (bench.given? deed).toList.map (Change.mk bench.swapper)
    Swapper.Builds config bench.swapper (bench.next config deed).swapper
        (given.flatMap (Change.choices config)) ∧
      ∀ change ∈ given, ∀ id, (change.result config).id? = some id →
        id ∈ (bench.next config deed).swapper.visited.ids := by
  rcases next_cases config bench deed with ⟨tree, given, same⟩ | ⟨none, visited, counted⟩
  · simp only [given, same, Option.toList_some, List.map_cons, List.map_nil, List.flatMap_cons,
      List.flatMap_nil, List.append_nil, List.mem_singleton, forall_eq]
    have swaps := Swapper.swap_swaps config tree bench.swapper
    refine ⟨swaps.builds, fun id own => ?_⟩
    rcases swaps.result_settled with other | settled
    · rw [Change.result, id?_eq_none_of_shape other] at own
      cases own
    · obtain ⟨id', own', settled⟩ := (Visited.contains_iff _ _).1 settled
      rw [Change.result, own'] at own
      cases own
      exact settled
  · simp only [none, Option.toList_none, List.map_nil, List.flatMap_nil]
    exact ⟨Swapper.Builds.nothing (fun id mem => visited ▸ mem) counted, by simp⟩

/-- So do some things that are done one after the other. -/
theorem after_builds (config : Config) (bench : Bench) (deeds : List Deed) :
    Swapper.Builds config bench.swapper (bench.after config deeds).swapper
        ((bench.changes config deeds).flatMap (Change.choices config)) ∧
      ∀ change ∈ bench.changes config deeds, ∀ id, (change.result config).id? = some id →
        id ∈ (bench.after config deeds).swapper.visited.ids := by
  induction deeds generalizing bench with
  | nil => exact ⟨Swapper.Builds.nothing (fun _ mem => mem) rfl, by simp [changes]⟩
  | cons deed rest ih =>
      obtain ⟨first, settled⟩ := next_builds config bench deed
      obtain ⟨others, settled'⟩ := ih (bench.next config deed)
      rw [changes, List.flatMap_append]
      refine ⟨first.trans others, fun change mem id own => ?_⟩
      rcases List.mem_append.1 mem with mem | mem
      · exact others.grown id (settled change mem id own)
      · exact settled' change mem id own

end Bench

/-- One swapper, from its start on, over any trees and whatever else is done with them: it never
loses a settled identity, it builds one conditional for a literal at most and counts these
conditionals, and neither what came back from it nor a branch of such a conditional is ever changed
again. Each of them stands where its tree had the literal, and a tree that came back holds no other
conditional that was not there before in one form or another. -/
theorem session_wraps_once (config : Config) (supply : NodeId) (slots : List (String × Node))
    (deeds later : List Deed) :
    let start : Bench := { swapper := { supply := supply }, slots := slots }
    let bench := start.after config deeds
    let last := bench.after config later
    let built := (start.changes config deeds).flatMap (Change.choices config)
    (∀ id ∈ bench.swapper.visited.ids, id ∈ last.swapper.visited.ids) ∧
      (∃ wrapped : List NodeId, built.map fallbackId? = wrapped.map some ∧ wrapped.Nodup ∧
        bench.swapper.synthesized = wrapped.length) ∧
      (∀ change ∈ start.changes config deeds,
        (∀ id, (change.result config).id? = some id → last.swapper.Final config id) ∧
        (∀ choice ∈ change.choices config,
          config.StandsFor change.swapper.supply change.tree (change.result config) choice) ∧
        ∀ node ∈ (change.result config).subtrees, node.isConditional = true →
          Carried change.swapper.supply change.tree (change.result config) node ∨
            node ∈ change.choices config) ∧
      ∀ choice ∈ built, ∃ id span yes no yesId noId,
        choice = .conditional id span config.supportTest yes no ∧ yes.id? = some yesId ∧
          no.id? = some noId ∧ last.swapper.Final config yesId ∧
          last.swapper.Final config noId := by
  intro start bench last built
  obtain ⟨builds, settled⟩ := start.after_builds config deeds
  have grown := (bench.after_builds config later).1.grown
  refine ⟨grown, ?_, ?_, ?_⟩
  · obtain ⟨wrapped, same, distinct, -⟩ := builds.wraps
    refine ⟨wrapped, same, distinct, ?_⟩
    have length := congrArg List.length same
    rw [List.length_map, List.length_map] at length
    rw [← length]
    exact builds.counted.trans (Nat.zero_add _)
  · intro change mem
    have swaps := Swapper.swap_swaps config change.tree change.swapper
    refine ⟨fun id own => ?_, fun choice => swaps.stands, fun node => swaps.carried_or_new⟩
    exact Swapper.final_of_mem (grown id (settled change mem id own))
  · intro choice mem
    obtain ⟨id, span, yes, no, yesId, noId, form, ofYes, ofNo, settledYes, settledNo⟩ :=
      builds.settles choice mem
    exact ⟨id, span, yes, no, yesId, noId, form, ofYes, ofNo,
      Swapper.final_of_mem (grown yesId settledYes), Swapper.final_of_mem (grown noId settledNo)⟩

end ImageFallback
