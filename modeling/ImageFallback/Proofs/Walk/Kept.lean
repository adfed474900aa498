import ImageFallback.Proofs.Walk.Renewed

/-!
# Arguments that a comment keeps

A comment keeps an argument from being changed at its own call only. The walk goes on into the
argument, and the argument stays as it is exactly when handling keeps the arguments of every call
that is met inside it.

Which calls those are is told from the program. `Config.rewrites` says of a call of the loader that
no comment keeps its argument, that the check of the argument finds nothing, and that a change puts
another node into its place. An argument that holds no such call stays as it is on every run, and on
a first run that ends well no other argument does (`skipped_argument_kept_iff`).
-/

namespace ImageFallback

open Node

/-! ## Calls that are rewritten -/

namespace Config

variable (config : Config) (remarks : List Remark)

/-- A change puts another node into the place of this one: it takes the node out of its parentheses,
gives it a second version or builds it anew. -/
def replaces : Node → Bool
  | .paren _ inner => inner.shape ≠ .other
  | node => config.changes node

/-- The node is a call of the loader whose argument is replaced when the call is first handled. -/
def rewrites (node : Node) : Bool :=
  (config.loaderArgumentOf? node).any fun argument =>
    !config.isIgnored remarks argument node.span && (Swapper.wellFormed argument).isOk &&
      config.replaces argument

theorem replaces_mapIds (f : NodeId → NodeId) (node : Node) :
    config.replaces (node.mapIds f) = config.replaces node := by
  cases node with
  | paren span inner => simp [mapIds, replaces]
  | _ => rfl

theorem rewrites_mapIds (f : NodeId → NodeId) (node : Node) :
    config.rewrites remarks (node.mapIds f) = config.rewrites remarks node := by
  simp only [rewrites, loaderArgumentOf?_mapIds, Option.any_map, span_mapIds, isIgnored_mapIds,
    Swapper.wellFormed_mapIds, replaces_mapIds]

variable {config}

/-- A node of no shape that may be changed is not replaced. -/
theorem replaces_of_shape {node : Node} (h : node.shape = .other) :
    config.replaces node = false := by
  cases node with
  | text | template | conditional => cases h
  | paren span inner => simpa [replaces, shape] using h
  | _ => rfl

/-- A node with an identity is replaced if it is changed. -/
theorem replaces_of_id {node : Node} {id : NodeId} (own : node.id? = some id) :
    config.replaces node = config.changes node := by
  cases node with
  | paren => cases own
  | _ => rfl

end Config

namespace Swaps

variable {config : Config} {node node' : Node} {s s' : Swapper}

/-- A node that is not to be replaced comes back as it is. -/
theorem eq_of_replaces (h : Swaps config node s node' s') (keeps : config.replaces node = false) :
    node' = node := by
  cases h with
  | settled | other | kept => rfl
  | paren h inside => simp [Config.replaces, h] at keeps
  | text events fresh h | template events fresh h | conditional fresh h =>
      rw [Config.replaces_of_id rfl, h] at keeps
      cases keeps

/-- A node that is not settled and comes back as it is was not to be replaced. -/
theorem replaces_eq_false (h : Swaps config node s node' s')
    (unmarked : s.visited.contains node = false) (below : ∀ id ∈ node.ids, id < s.supply)
    (same : node' = node) : config.replaces node = false := by
  cases h with
  | settled h =>
      rw [h] at unmarked
      cases unmarked
  | other h => exact Config.replaces_of_shape h
  | paren h inside =>
      obtain ⟨id, own⟩ := inside.exists_id h
      rw [same] at own
      cases own
  | kept events own fresh h => rw [Config.replaces_of_id own, h]
  | text | template => cases same
  | @conditional id span test yes no yes' no' s s₁ s₂ fresh h first second =>
      -- The new conditional has an identity of its own.
      have low : id < s.supply := below id (by simp [ids])
      have le := first.supply_le
      have le' := second.supply_le
      cases same
      exact absurd low (Nat.not_lt_of_le (Nat.le_trans le le'))

end Swaps

namespace Meeting

variable {config : Config} {remarks : List Remark} {m : Meeting}

theorem kept_of_rewrites (h : config.rewrites remarks m.call = false) : m.Kept config remarks := by
  have handles := m.handles config remarks
  rw [Kept]
  generalize m.handled config remarks = outcome at handles ⊢
  obtain ⟨handled, begun⟩ := outcome
  cases handles with
  | @swapped argument argument' s ok found unmarked noSkip formed swaps =>
      have keeps : config.replaces argument = false := by
        simpa [Config.rewrites, Config.loaderArgumentOf?, call, Node.span, found, noSkip, formed,
          Except.isOk, Except.toBool] using h
      rw [swaps.eq_of_replaces keeps, Config.loaderArgument?_eq_some found]
  | _ => rfl

/-- Handling keeps the arguments of a call that a walk is ready for only if they are not to be
replaced. -/
theorem rewrites_eq_false (ready : Pass.Ready [m.call] m.pass) (ok : m.pass.error = none)
    (kept : m.Kept config remarks) : config.rewrites remarks m.call = false := by
  have own : config.loaderArgumentOf? m.call = config.loaderArgument? m.callee m.arguments := rfl
  have handles := m.handles config remarks
  rw [Kept] at kept
  rw [Config.rewrites, own]
  generalize m.handled config remarks = outcome at handles kept
  obtain ⟨handled, begun⟩ := outcome
  cases handles with
  | failed h => simp [ok] at h
  | foreign _ h => simp [h]
  | settled _ found marked => simp [ready.not_contains found] at marked
  | ignored events _ found unmarked skip => simp [found, call, Node.span, skip]
  | malformed _ found unmarked noSkip bad => simp [found, bad, Except.isOk, Except.toBool]
  | @swapped argument argument' s _ found unmarked noSkip formed swaps =>
      have one := Config.loaderArgument?_eq_some found
      have same : argument' = argument := by simpa [one] using kept
      have below : ∀ id ∈ argument.ids, id < m.pass.swapper.supply := fun id mem =>
        ready.ofCall.below id (by simp [one, idsAll, mem])
      simp [found, swaps.replaces_eq_false unmarked below same]

end Meeting

/-! ## What becomes of the argument -/

namespace Pass

namespace Meets

variable {config : Config} {remarks : List Remark} {nodes nodes' : List Node} {pass pass' : Pass}
  {log : List Meeting}

/-- Trees that hold no call to be rewritten stay as they are. -/
theorem eq_of_rewrites (h : Meets config remarks nodes pass nodes' pass' log)
    (none : (callsAll nodes).any (config.rewrites remarks) = false) : nodes' = nodes := by
  rw [h.eq_iff]
  intro m mem
  obtain ⟨call, found, same⟩ := h.exists_call mem
  have keeps : config.rewrites remarks call = false := by
    simpa using List.any_eq_false.1 none call found
  rw [eq_of_anonymous (config.rewrites_mapIds remarks) same] at keeps
  exact Meeting.kept_of_rewrites keeps

/-- Trees that a walk is ready for and leaves as they are hold no call to be rewritten. -/
theorem rewrites_eq_false (h : Meets config remarks nodes pass nodes' pass' log)
    (ready : ∀ m ∈ log, Ready [m.call] m.pass) (ok : ∀ m ∈ log, m.pass.error = none)
    (same : nodes' = nodes) : (callsAll nodes).any (config.rewrites remarks) = false := by
  rw [List.any_eq_false]
  intro call found
  obtain ⟨m, mem, rfl⟩ := h.exists_meeting found
  simp [Meeting.rewrites_eq_false (ready m mem) (ok m mem) (h.eq_iff.1 same m mem)]

/-- A walk over a name and other trees is one over the other trees. -/
theorem name_inv {span : Span} {value : String} {rest out : List Node}
    (h : Meets config remarks (.name span value :: rest) pass out pass' log) :
    ∃ rest', out = .name span value :: rest' ∧ Meets config remarks rest pass rest' pass' log := by
  cases h with
  | inert notCall inside after =>
      cases inside
      exact ⟨_, rfl, after⟩

/-- Of a call whose argument a comment keeps the walk leaves the call with what becomes of the
argument inside it, which is the argument exactly when every call in it keeps its arguments. -/
theorem Leaves.of_isSkipped {m : Meeting} {left : Node} (h : Leaves config remarks log m left)
    (skipped : m.isSkipped config remarks = true) :
    ∃ argument argument' mid inside, m.arguments = [argument] ∧
      left = .call m.span m.callee [argument'] m.optional ∧
      Meets config remarks [argument] (m.handled config remarks).2 [argument'] mid inside ∧
      callsAll m.call.parts = callsAll [argument] ∧ inside <:+: log ∧
      (argument' = argument ↔ ∀ n ∈ inside, n.Kept config remarks) := by
  obtain ⟨callee', inner, mid, inside, rfl, met, part⟩ := h
  obtain ⟨kept, argument, found⟩ := m.kept_of_isSkipped config remarks skipped
  obtain ⟨nameSpan, name⟩ := Config.callee_of_loaderArgument? found
  have one := Config.loaderArgument?_eq_some found
  have same : (m.handled config remarks).1 = [argument] := Eq.trans kept one
  rw [name, same] at met
  obtain ⟨inner', out, met⟩ := met.name_inv
  cases out
  obtain ⟨argument', rfl⟩ := List.length_eq_one_iff.1 met.walks.length_eq
  have calls : callsAll m.call.parts = callsAll [argument] := by
    simp [Meeting.call, parts, name, one, callsAll, Node.calls]
  refine ⟨argument, argument', mid, inside, one, by rw [name], met, calls, part, ?_⟩
  rw [← met.eq_iff, List.cons.injEq]
  exact (and_iff_left rfl).symm

end Meets

end Pass

/-- A run follows every call that it meets to its place in the program that it leaves, and its
counter counts those whose argument a comment keeps. Such an argument is that of a call of the
program, up to identities. The run leaves it as it is exactly when handling keeps the arguments of
every call that the run meets inside it, and so if the call of the program holds no call to be
rewritten. If the run is the first one over the program and ends well, it leaves the argument as it
is in this case only. -/
theorem skipped_argument_kept_iff (config : Config) (remarks : List Remark) (body : List Node)
    (pass : Pass) :
    ∃ out last log, Pass.Meets config remarks body pass out last log ∧
      (pass.run config remarks body).2.1 = out ∧
      (pass.run config remarks body).2.2.report.skipped =
        pass.report.skipped + log.countP (Meeting.isSkipped config remarks) ∧
      log.length = (callsAll out).length ∧
      ∀ m left, (m, left) ∈ log.zip (callsAll out) → m.isSkipped config remarks = true →
        ∃ call ∈ callsAll body, call.anonymous = m.call.anonymous ∧
          ∃ argument argument' mid inside, m.arguments = [argument] ∧
            left = .call m.span m.callee [argument'] m.optional ∧
            Pass.Meets config remarks [argument] (m.handled config remarks).2 [argument'] mid
              inside ∧
            inside <:+: log ∧
            (argument' = argument ↔ ∀ n ∈ inside, n.Kept config remarks) ∧
            ((callsAll call.parts).any (config.rewrites remarks) = false →
              argument' = argument) ∧
            ∀ supply report, pass = Pass.new supply → Numbered body supply →
              (pass.run config remarks body).1 = .ok report →
              (argument' = argument ↔
                (callsAll call.parts).any (config.rewrites remarks) = false) := by
  obtain ⟨out, last, walks⟩ := Pass.exists_walks config remarks body pass
  obtain ⟨log, meets⟩ := walks.exists_meets
  have run := Pass.run_eq_of_walks walks
  refine ⟨out, last, log, meets, ?_, ?_, meets.length_eq, ?_⟩
  · rw [run]
    split <;> rfl
  · rw [run, ← meets.skipped_eq]
    split <;> rfl
  intro m left mem skipped
  obtain ⟨call, found, same⟩ := meets.exists_call (List.of_mem_zip mem).1
  obtain ⟨argument, argument', mid, inside, one, becomes, met, calls, part, kept⟩ :=
    (meets.leaves mem).of_isSkipped skipped
  -- The call of the program holds the calls of the argument, up to identities.
  have natural (g : NodeId → NodeId) (node : Node) :
      (callsAll (node.mapIds g).parts).any (config.rewrites remarks) =
        (callsAll node.parts).any (config.rewrites remarks) := by
    simp only [parts_mapIds, callsAll_mapIdsAll, List.any_map, Function.comp_def,
      config.rewrites_mapIds]
  have inCall : (callsAll call.parts).any (config.rewrites remarks) =
      (callsAll [argument]).any (config.rewrites remarks) := by
    rw [← calls]
    exact @eq_of_anonymous _ (fun node => (callsAll node.parts).any (config.rewrites remarks))
      natural _ _ same
  have enough : (callsAll call.parts).any (config.rewrites remarks) = false →
      argument' = argument := by
    intro none
    have stays := met.eq_of_rewrites (inCall.symm.trans none)
    simpa using stays
  refine ⟨call, found, same, argument, argument', mid, inside, one, becomes, met, part, kept,
    enough, ?_⟩
  rintro supply report rfl numbered ended
  refine ⟨fun stays => ?_, enough⟩
  have ok : last.error = none := by
    rw [run] at ended
    split at ended
    · cases ended
    · assumption
  have ready := meets.ready (Pass.ready_new numbered)
  rw [inCall]
  exact met.rewrites_eq_false (fun n inLog => ready n (part.subset inLog))
    (fun n inLog => meets.error_eq_none ok n (part.subset inLog)) (by rw [stays])

/-- A comment keeps the argument of the outer call, and is counted. The call of the loader inside it
is changed all the same. -/
theorem skipped_argument_changed :
    let config : Config := {}
    let argument : List Node → Node := fun inner =>
      .call ⟨8, 29⟩ (.name ⟨8, 9⟩ "f")
        [.call ⟨10, 28⟩ (.name ⟨10, 17⟩ "require") inner false] false
    let program : Node → List Node := fun argument =>
      [.call ⟨0, 48⟩ (.name ⟨0, 7⟩ "require") [argument] false]
    let literal : Node := .text 0 ⟨18, 27⟩ "./a.png" false
    let changed : Node := .conditional 2 ⟨18, 27⟩ config.supportTest
      (.text 1 ⟨18, 27⟩ "./a.webp" false) literal
    let run := (Pass.new 1).run config [⟨⟨30, 47⟩, " webp-ignore "⟩] (program (argument [literal]))
    run.1 = .ok ⟨2, 1, 1⟩ ∧ run.2.1 = program (argument [changed]) ∧
      argument [changed] ≠ argument [literal] := by
  dsimp only
  exact ⟨rfl, rfl, by simp⟩

end ImageFallback
