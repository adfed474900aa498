import ImageFallback.Proofs.Swap.Atomic
import ImageFallback.Proofs.Swap.Marking
import ImageFallback.Proofs.Walk.Failure
import ImageFallback.Proofs.Walk.Parens
import ImageFallback.Proofs.Walk.Windows

/-!
# A new pass over the program of another one

A new pass has settled nothing, so it handles every call of the loader that an earlier pass has left
and changes arguments a second time. Whether a comment keeps an argument it tells from the end of
the argument and the end of the call. A change puts a node with the same span into the place of an
argument, unless the argument stands between parentheses, which have a span of their own and are
dropped. So in a program without parentheses the test comes out at every call as it did when the
earlier pass met the call.

The new pass meets all calls of the program, and copies of them. It is ready for them because a walk
leaves identities that are distinct and lie below its supply (`Walks.renews`), and it ends well
because a change keeps the faults of arguments.
-/

namespace ImageFallback

open Node Swapper

/-! ## The identities that a walk leaves -/

/-- Identities below `low` became identities below `high`: each is one of the former or a new one,
and they are distinct if the former are. -/
structure Renews (xs : List NodeId) (low : NodeId) (ys : List NodeId) (high : NodeId) : Prop where
  le : low ≤ high
  within : (∀ id ∈ xs, id < low) → ∀ id ∈ ys, id ∈ xs ∨ low ≤ id ∧ id < high
  distinct : (∀ id ∈ xs, id < low) → xs.Nodup → ys.Nodup

namespace Renews

variable {xs xs' ys ys' zs : List NodeId} {low mid high : NodeId}

theorem refl (xs : List NodeId) (low : NodeId) : Renews xs low xs low :=
  ⟨Nat.le_refl low, fun _ _ mem => Or.inl mem, fun _ distinct => distinct⟩

/-- Former identities and new ones lie below the later bound. -/
theorem below (h : Renews xs low ys high) (below : ∀ id ∈ xs, id < low) : ∀ id ∈ ys, id < high := by
  intro id mem
  rcases h.within below id mem with old | new
  · exact Nat.lt_of_lt_of_le (below id old) h.le
  · exact new.2

theorem trans (first : Renews xs low ys mid) (second : Renews ys mid zs high) :
    Renews xs low zs high := by
  have le := first.le
  have le' := second.le
  refine ⟨Nat.le_trans le le', fun below id mem => ?_, fun below distinct => ?_⟩
  · rcases second.within (first.below below) id mem with old | new
    · rcases first.within below id old with old | new
      · exact Or.inl old
      · exact Or.inr ⟨new.1, Nat.lt_of_lt_of_le new.2 le'⟩
    · exact Or.inr ⟨Nat.le_trans le new.1, new.2⟩
  · exact second.distinct (first.below below) (first.distinct below distinct)

theorem append (first : Renews xs low xs' mid) (second : Renews ys mid ys' high) :
    Renews (xs ++ ys) low (xs' ++ ys') high := by
  have le := first.le
  have le' := second.le
  refine ⟨Nat.le_trans le le', fun below id mem => ?_, fun below distinct => ?_⟩
  · obtain ⟨belowFirst, belowSecond⟩ := List.forall_mem_append.1 below
    have within := first.within belowFirst id
    have within' := second.within (fun id mem => Nat.lt_of_lt_of_le (belowSecond id mem) le) id
    grind
  · obtain ⟨belowFirst, belowSecond⟩ := List.forall_mem_append.1 below
    obtain ⟨distinctFirst, distinctSecond, apart⟩ := List.nodup_append.1 distinct
    have belowMid : ∀ id ∈ ys, id < mid := fun id mem => Nat.lt_of_lt_of_le (belowSecond id mem) le
    refine List.nodup_append.2 ⟨first.distinct belowFirst distinctFirst,
      second.distinct belowMid distinctSecond, ?_⟩
    rintro id mem _ mem' rfl
    -- New identities of the first part lie below those of the second.
    have within := first.within belowFirst id mem
    have within' := second.within belowMid id mem'
    have bound := belowSecond id
    have other := apart id
    grind

end Renews

theorem Swaps.renews {config : Config} {node node' : Node} {s s' : Swapper}
    (h : Swaps config node s node' s') : Renews node.ids s.supply node'.ids s'.supply :=
  ⟨h.supply_le, h.ids_within, h.nodup_ids⟩

namespace Pass

variable {config : Config} {remarks : List Remark}

theorem Handles.renews {span : Span} {callee : Node} {arguments handled : List Node}
    {pass begun : Pass} (h : Handles config remarks span callee arguments pass handled begun) :
    Renews (idsAll arguments) pass.swapper.supply (idsAll handled) begun.swapper.supply := by
  cases h with
  | swapped ok h unmarked noSkip formed swaps =>
      simpa [Config.idsAll_of_loaderArgument? h, idsAll] using swaps.renews
  | _ => exact Renews.refl _ _

/-- A walk leaves identities of its trees and new ones. -/
theorem Walks.renews {nodes nodes' : List Node} {pass pass' : Pass}
    (h : Walks config remarks nodes pass nodes' pass') :
    Renews (idsAll nodes) pass.swapper.supply (idsAll nodes') pass'.swapper.supply := by
  induction h with
  | nil => exact Renews.refl _ _
  | @inert node rest inner rest' pass mid last notCall inside after ihInside ihAfter =>
      have own := (sameHead_withParts inside.sameHead).id
      rw [idsAll, idsAll, ids_eq_parts, ids_eq_parts (node.withParts inner), own,
        parts_withParts node inner inside.length_eq]
      exact ((Renews.refl _ _).append ihInside).append ihAfter
  | call handling inside after ihInside ihAfter =>
      have handled := (handles_of_eq handling).renews
      rw [idsAll, idsAll, ids, ids]
      exact (((Renews.refl _ _).append handled).trans ihInside).append ihAfter

/-- A new pass leaves a numbered program. -/
theorem Walks.numbered {body out : List Node} {supply : NodeId} {last : Pass}
    (h : Walks config remarks body (Pass.new supply) out last) (numbered : Numbered body supply) :
    Numbered out last.swapper.supply :=
  ⟨h.renews.distinct numbered.below numbered.distinct, h.renews.below numbered.below⟩

end Pass

/-! ## What a pass looks at -/

namespace Config

variable (config : Config) (remarks : List Remark)

/-- Whether a comment keeps the argument of a call of the loader. -/
def skipTest? (node : Node) : Option Bool :=
  (config.loaderArgumentOf? node).map fun argument => config.isIgnored remarks argument node.span

/-- The span of the argument of a call of the loader and the first fault in it. -/
def glance? (node : Node) : Option (Span × Option SwapError) :=
  (config.loaderArgumentOf? node).map fun argument =>
    (argument.span, argument.leaves.findSome? misshapen?)

variable {config remarks} {node other : Node}

theorem skipTest?_mapIds (config : Config) (remarks : List Remark) (f : NodeId → NodeId)
    (node : Node) : config.skipTest? remarks (node.mapIds f) = config.skipTest? remarks node := by
  rw [skipTest?, loaderArgumentOf?_mapIds, Option.map_map, span_mapIds]
  simp only [Function.comp_def, isIgnored_mapIds, skipTest?]

theorem fault?_eq (node : Node) :
    config.fault? remarks node = (config.loaderArgumentOf? node).bind fun argument =>
      if config.isIgnored remarks argument node.span then none
      else argument.leaves.findSome? misshapen? := by
  cases node with
  | call outer callee arguments optional =>
      rw [fault?, loaderArgumentOf?]
      cases config.loaderArgument? callee arguments <;> rfl
  | _ => rfl

/-- The test and the fault of a call are told from its span and a glance at its argument. -/
theorem tests_eq_of_glance? (span : node.span = other.span)
    (same : config.glance? node = config.glance? other) :
    config.skipTest? remarks node = config.skipTest? remarks other ∧
      config.fault? remarks node = config.fault? remarks other := by
  rw [skipTest?, skipTest?, fault?_eq, fault?_eq, span]
  rw [glance?, glance?] at same
  cases found : config.loaderArgumentOf? node with
  | none =>
      rw [found, Option.map_none, eq_comm, Option.map_eq_none_iff] at same
      rw [same]
      exact ⟨rfl, rfl⟩
  | some argument =>
      rw [found, Option.map_some, eq_comm, Option.map_eq_some_iff] at same
      obtain ⟨argument', found', same⟩ := same
      rw [Prod.mk.injEq] at same
      have ignored : config.isIgnored remarks argument' other.span =
          config.isIgnored remarks argument other.span := by
        rw [isIgnored, isIgnored, same.1]
      rw [found', Option.map_some, Option.map_some, Option.bind_some, Option.bind_some, ignored,
        same.2]
      exact ⟨rfl, rfl⟩

end Config

/-! ## Programs without parentheses -/

theorem Node.isParen_bare (node : Node) : node.bare.isParen = false := by
  induction node using shape.induct with
  | case4 span inner ih => exact ih
  | case5 node notText notTemplate notConditional notParen =>
      cases node with
      | paren => exact (notParen _ _ rfl).elim
      | _ => rfl
  | _ => rfl

@[simp] theorem Node.isParen_mapIds (f : NodeId → NodeId) (node : Node) :
    (node.mapIds f).isParen = node.isParen := by
  cases node <;> rfl

/-- The calls of trees without parentheses have none. -/
theorem Node.bare_of_mem_callsAll {nodes : List Node} (free : bareAll nodes = nodes) {call : Node}
    (mem : call ∈ callsAll nodes) : call.bare = call := by
  induction nodes using forestInduction with
  | nil => cases mem
  | cons node rest inside after =>
      rw [bareAll, List.cons.injEq] at free
      have plain : node.isParen = false := free.1 ▸ node.isParen_bare
      have parts : bareAll node.parts = node.parts := by rw [← parts_bare plain, free.1]
      rw [callsAll, calls_eq_parts, List.mem_append] at mem
      rcases mem with mem | mem
      · split at mem
        · rcases List.mem_cons.1 mem with rfl | mem
          · exact free.1
          · exact inside parts mem
        · exact inside parts mem
      · exact after free.2 mem

namespace Config

/-- The argument of a call of the loader does not stand between parentheses. -/
def hasPlainArgument (config : Config) (node : Node) : Bool :=
  (config.loaderArgumentOf? node).all fun argument => !argument.isParen

theorem hasPlainArgument_mapIds (config : Config) (f : NodeId → NodeId) (node : Node) :
    config.hasPlainArgument (node.mapIds f) = config.hasPlainArgument node := by
  simp [hasPlainArgument, loaderArgumentOf?_mapIds, Option.all_map]

theorem hasPlainArgument_of_bare {config : Config} {node : Node} (free : node.bare = node) :
    config.hasPlainArgument node = true := by
  cases node with
  | call outer callee arguments optional =>
      rw [hasPlainArgument, loaderArgumentOf?]
      cases found : config.loaderArgument? callee arguments with
      | none => rfl
      | some argument =>
          cases loaderArgument?_eq_some found
          simp only [bare, bareAll, call.injEq, List.cons.injEq] at free
          have plain := argument.isParen_bare
          simp_all
  | _ => rfl

end Config

/-! ## Changes keep spans -/

/-- A node that does not stand between parentheses keeps its span. -/
theorem Swaps.span_eq {config : Config} {node node' : Node} {s s' : Swapper}
    (h : Swaps config node s node' s') (plain : node.isParen = false) :
    node'.span = node.span := by
  cases h with
  | paren => cases plain
  | _ => rfl

/-- The two nodes have the same head and the same first fault. -/
def Node.SameGlance (node other : Node) : Prop :=
  SameHead node other ∧
    other.leaves.findSome? misshapen? = node.leaves.findSome? misshapen?

theorem Node.sameGlance_withParts {node : Node} {ps : List Node}
    (h : List.Forall₂ SameGlance node.parts ps) : SameGlance node (node.withParts ps) := by
  refine ⟨sameHead_withParts (h.imp fun _ _ same => same.1), ?_⟩
  cases node with
  | template id span quasis parts =>
      have length : parts.length = ps.length := h.length_eq
      simp [withParts, leaves, misshapen?, length]
  | conditional id span test yes no =>
      rcases h with _ | ⟨first, _ | ⟨second, _ | ⟨third, _ | _⟩⟩⟩
      simp only [withParts, leaves, List.findSome?_append, second.2, third.2]
  | paren span inner =>
      rcases h with _ | ⟨first, _ | _⟩
      simp only [withParts, leaves, first.2]
  | _ => rcases ps with _ | ⟨p, _ | ⟨q, _ | ⟨r, ps⟩⟩⟩ <;> rfl

namespace Pass

variable {config : Config} {remarks : List Remark}

theorem Walks.sameGlance {nodes nodes' : List Node} {pass pass' : Pass}
    (h : Walks config remarks nodes pass nodes' pass') :
    List.Forall₂ SameGlance nodes nodes' :=
  h.related sameGlance_withParts fun _ _ _ _ _ _ => ⟨sameHead_call _ _ _ _ _ _ _, rfl⟩

/-- A walk over the parts of a call leaves its argument with the same span and fault. -/
theorem Walks.glance?_eq {callee callee' : Node} {arguments arguments' : List Node}
    {pass pass' : Pass}
    (h : Walks config remarks (callee :: arguments) pass (callee' :: arguments') pass')
    (span : Span) (optional : Bool) :
    config.glance? (.call span callee' arguments' optional) =
      config.glance? (.call span callee arguments optional) := by
  obtain ⟨first, others⟩ := List.forall₂_cons.1 h.sameGlance
  rw [Config.glance?, Config.glance?, Config.loaderArgumentOf?, Config.loaderArgumentOf?]
  rcases Config.loaderArgument?_related (fun _ _ same => same.1) first.1 others with
    ⟨none, none'⟩ | ⟨argument, argument', found, found', same⟩
  · rw [none, none']
  · rw [found, found', Option.map_some, Option.map_some, same.1.span, same.2]

/-- So does handling a call, unless the argument stands between parentheses. -/
theorem Handles.glance?_eq {span : Span} {callee : Node} {arguments handled : List Node}
    {pass begun : Pass} (h : Handles config remarks span callee arguments pass handled begun)
    (optional : Bool)
    (plain : config.hasPlainArgument (.call span callee arguments optional) = true) :
    config.glance? (.call span callee handled optional) =
      config.glance? (.call span callee arguments optional) := by
  cases h with
  | swapped ok h unmarked noSkip formed swaps =>
      simp only [Config.hasPlainArgument, Config.loaderArgumentOf?, h, Option.all_some,
        Bool.not_eq_true'] at plain
      simp only [Config.glance?, Config.loaderArgumentOf?, h, loaderArgument?_of_swaps h swaps,
        Option.map_some, swaps.span_eq plain, swaps.findSome?_leaves]
  | _ => rfl

/-- A call that is met and the call that is left of it are looked at alike. -/
theorem Meets.Leaves.tests_eq {log : List Meeting} {m : Meeting} {left : Node}
    (h : Leaves config remarks log m left) (plain : config.hasPlainArgument m.call = true) :
    config.skipTest? remarks left = config.skipTest? remarks m.call ∧
      config.fault? remarks left = config.fault? remarks m.call := by
  obtain ⟨callee', inner, mid, inside, rfl, met, -⟩ := h
  have handled := (m.handles config remarks).glance?_eq m.optional plain
  refine Config.tests_eq_of_glance? rfl ?_
  rw [met.walks.glance?_eq m.span m.optional, handled]
  rfl

end Pass

/-! ## The calls that a new pass meets -/

/-- A changed argument holds the calls of the argument, and copies of them. -/
theorem Swaps.mem_calls {config : Config} {node node' : Node} {s s' : Swapper}
    (h : Swaps config node s node' s') {call : Node} (mem : call ∈ node.calls) :
    call ∈ node'.calls := by
  induction h with
  | settled | other | kept => exact mem
  | paren h inside ih => exact ih mem
  | text => cases mem
  | template => exact List.mem_append_right _ mem
  | conditional fresh h first second ihYes ihNo =>
      simp only [calls, List.mem_append] at mem ⊢
      exact mem.imp (Or.imp_right ihYes) ihNo

namespace Pass

variable {config : Config} {remarks : List Remark}

theorem Handles.mem_calls {span : Span} {callee : Node} {arguments handled : List Node}
    {pass begun : Pass} (h : Handles config remarks span callee arguments pass handled begun)
    {call : Node} (mem : call ∈ callsAll arguments) : call ∈ callsAll handled := by
  cases h with
  | swapped ok h unmarked noSkip formed swaps =>
      simp only [Config.loaderArgument?_eq_some h, callsAll, List.append_nil] at mem ⊢
      exact swaps.mem_calls mem
  | _ => exact mem

namespace Meets

variable {nodes nodes' : List Node} {pass pass' : Pass} {log : List Meeting}

/-- A walk meets every call of its trees as it is. -/
theorem exists_meeting (h : Meets config remarks nodes pass nodes' pass' log) {call : Node}
    (mem : call ∈ callsAll nodes) : ∃ m ∈ log, m.call = call := by
  induction h with
  | nil => cases mem
  | inert notCall inside after ihInside ihAfter =>
      rw [callsAll, calls_eq_parts, notCall] at mem
      rcases List.mem_append.1 mem with mem | mem
      · obtain ⟨m, found, same⟩ := ihInside mem
        exact ⟨m, List.mem_append_left _ found, same⟩
      · obtain ⟨m, found, same⟩ := ihAfter mem
        exact ⟨m, List.mem_append_right _ found, same⟩
  | @call own callee' inner rest rest' mid last log log' inside after ihInside ihAfter =>
      have handles := own.handles config remarks
      rw [callsAll, calls, List.cons_append, List.mem_cons, List.mem_append, List.mem_append] at mem
      rcases mem with rfl | (inCallee | inArguments) | mem
      · exact ⟨own, List.mem_cons_self, rfl⟩
      · obtain ⟨m, found, same⟩ := ihInside (List.mem_append_left _ inCallee)
        exact ⟨m, by simp [found], same⟩
      · obtain ⟨m, found, same⟩ :=
          ihInside (List.mem_append_right _ (handles.mem_calls inArguments))
        exact ⟨m, by simp [found], same⟩
      · obtain ⟨m, found, same⟩ := ihAfter mem
        exact ⟨m, by simp [found], same⟩

/-- A walk without an error at its end meets its calls without one. -/
theorem error_eq_none (h : Meets config remarks nodes pass nodes' pass' log)
    (ok : pass'.error = none) : ∀ m ∈ log, m.pass.error = none := by
  intro m mem
  by_contra failed
  obtain ⟨before, later, rfl⟩ := List.append_of_mem mem
  obtain ⟨-, after⟩ := h.chain.split
  obtain ⟨rfl, -⟩ := (Chain.cons after).of_error (Option.isSome_iff_ne_none.2 failed)
  exact failed ok

/-- A new pass that ends well counts an argument as kept exactly when the test says so. -/
theorem isSkipped_eq (h : Meets config remarks nodes pass nodes' pass' log)
    (ready : Ready nodes pass) (ok : pass'.error = none) :
    ∀ m ∈ log, m.isSkipped config remarks = (config.skipTest? remarks m.call == some true) := by
  intro m mem
  rw [m.isSkipped_eq config remarks, h.error_eq_none ok m mem, Config.skipTest?]
  cases found : config.loaderArgumentOf? m.call with
  | none => rfl
  | some argument =>
      have unmarked := (h.ready ready m mem).not_contains found
      simp [unmarked, Meeting.call, Node.span]

end Meets

end Pass

/-- A change of an expression without parentheses keeps its span. A new pass over a program without
parentheses that ends well leaves a program over which another new pass ends well too. The other
pass meets every call of this program, and what else it meets are copies of them. Whether a comment
keeps its argument comes out as it did when the first pass met the call, and both passes count
exactly the arguments as kept for which it does. -/
theorem skip_tests_renewed (config : Config) (remarks : List Remark) :
    (∀ (s : Swapper) (node : Node), node.bare = node →
      (s.swap config node).1.span = node.span) ∧
    ∀ (body : List Node) (supply : NodeId) (report : Report) (out : List Node) (pass : Pass),
      Numbered body supply → bareAll body = body →
      (Pass.new supply).run config remarks body = (.ok report, out, pass) →
      ∃ log report' out' pass' log',
        Pass.Meets config remarks body (Pass.new supply) out pass log ∧
        log.length = (callsAll out).length ∧
        (Pass.new pass.swapper.supply).run config remarks out = (.ok report', out', pass') ∧
        Pass.Meets config remarks out (Pass.new pass.swapper.supply) out' pass' log' ∧
        (∀ m ∈ log ++ log',
          m.isSkipped config remarks = (config.skipTest? remarks m.call == some true)) ∧
        (∀ left ∈ callsAll out, ∃ m' ∈ log', m'.call = left) ∧
        (∀ m' ∈ log', ∃ left ∈ callsAll out, left.anonymous = m'.call.anonymous) ∧
        ∀ m left m', (m, left) ∈ log.zip (callsAll out) → m' ∈ log' →
          left.anonymous = m'.call.anonymous →
          config.skipTest? remarks m'.call = config.skipTest? remarks m.call := by
  refine ⟨fun s node free => ?_, fun body supply report out pass numbered free run => ?_⟩
  · exact (swap_swaps config node s).span_eq (free ▸ node.isParen_bare)
  obtain ⟨walks, ok, rfl⟩ := Pass.walks_of_run_ok run
  obtain ⟨log, meets⟩ := walks.exists_meets
  have ready := Pass.ready_new numbered
  have tests : ∀ m left, (m, left) ∈ log.zip (callsAll out) →
      config.skipTest? remarks left = config.skipTest? remarks m.call ∧
        config.fault? remarks left = config.fault? remarks m.call := by
    intro m left mem
    obtain ⟨call, found, same⟩ := meets.exists_call (List.of_mem_zip mem).1
    have plain := config.hasPlainArgument_of_bare (bare_of_mem_callsAll free found)
    rw [eq_of_anonymous config.hasPlainArgument_mapIds same] at plain
    exact (meets.leaves mem).tests_eq plain
  -- The first pass found no fault, so there is none for the second one.
  obtain ⟨out', pass', walks'⟩ := Pass.exists_walks config remarks out
    (Pass.new pass.swapper.supply)
  obtain ⟨log', meets'⟩ := walks'.exists_meets
  have ready' := Pass.ready_new (walks.numbered numbered)
  have ok' : pass'.error = none := by
    have none := meets.chain.error_eq (meets.ready ready) rfl
    rw [ok, eq_comm, List.findSome?_eq_none_iff] at none
    rw [meets'.chain.error_eq (meets'.ready ready') rfl,
      meets'.findSome?_calls (config.fault?_mapIds remarks), List.findSome?_eq_none_iff]
    intro left mem
    rw [← List.map_snd_zip (Nat.le_of_eq meets.length_eq.symm)] at mem
    obtain ⟨⟨m, _⟩, both, rfl⟩ := List.mem_map.1 mem
    exact (tests m _ both).2.trans (none m (List.of_mem_zip both).1)
  refine ⟨log, pass'.report, out', pass', log', meets, meets.length_eq, ?_, meets', ?_,
    fun left mem => meets'.exists_meeting mem, fun m' mem => meets'.exists_call mem, ?_⟩
  · rw [Pass.run_eq_of_walks walks', ok']
  · exact List.forall_mem_append.2 ⟨meets.isSkipped_eq ready ok, meets'.isSkipped_eq ready' ok'⟩
  · intro m left m' mem mem' same
    rw [← (tests m left mem).1]
    exact (eq_of_anonymous (config.skipTest?_mapIds remarks) same).symm

/-- A comment keeps the argument of a call inside a template, which is the argument of another call,
next to a third one. The first pass meets the call inside twice, the second one three times, and the
comment keeps its argument each time. -/
theorem skip_tests_renewed_copied :
    let config : Config := {}
    let remarks : List Remark := [⟨⟨31, 48⟩, " webp-ignore "⟩]
    let body : List Node := [
      .call ⟨0, 56⟩ (.name ⟨0, 7⟩ "require")
        [.template 0 ⟨8, 55⟩ [⟨"./", some "./", false, {}⟩, ⟨".jpg", some ".jpg", false, {}⟩]
          [.call ⟨13, 49⟩ (.name ⟨13, 20⟩ "require") [.text 1 ⟨21, 30⟩ "./a.png" false] false]]
        false,
      .call ⟨58, 76⟩ (.name ⟨58, 65⟩ "require") [.text 2 ⟨66, 75⟩ "./b.png" false] false]
    let first := (Pass.new 3).run config remarks body
    let second := (Pass.new first.2.2.swapper.supply).run config remarks first.2.1
    Numbered body 3 ∧ bareAll body = body ∧ first.1 = .ok ⟨4, 2, 2⟩ ∧ second.1 = .ok ⟨5, 2, 3⟩ ∧
      ∃ log log',
        Pass.Meets config remarks body (Pass.new 3) first.2.1 first.2.2 log ∧
        Pass.Meets config remarks first.2.1 (Pass.new first.2.2.swapper.supply) second.2.1
          second.2.2 log' ∧
        ∀ m left m', (m, left) ∈ log.zip (callsAll first.2.1) → m' ∈ log' →
          left.anonymous = m'.call.anonymous →
          config.skipTest? remarks m'.call = config.skipTest? remarks m.call := by
  intro config remarks body first second
  have numbered : Numbered body 3 := ⟨by decide, by decide⟩
  have free : bareAll body = body := rfl
  have outcome : first.1 = .ok ⟨4, 2, 2⟩ := by
    unfold first body remarks config
    rfl
  have outcome' : second.1 = .ok ⟨5, 2, 3⟩ := by
    unfold second first body remarks config
    rfl
  have run : first = (.ok ⟨4, 2, 2⟩, first.2.1, first.2.2) := by rw [← outcome]
  obtain ⟨log, report', out', pass', log', meets, -, again, meets', -, -, -, same⟩ :=
    (skip_tests_renewed config remarks).2 body 3 ⟨4, 2, 2⟩ first.2.1 first.2.2 numbered free run
  have left : second = (.ok report', out', pass') := again
  refine ⟨numbered, free, outcome, outcome', log, log', meets, ?_, same⟩
  rw [left]
  exact meets'

end ImageFallback
