import ImageFallback.Proofs.Walk.Forest

/-!
# The calls that a walk meets

`Meets` is a walk together with the calls that it meets, each as it is when it is met and with the
pass at that time. The calls of the program that the walk leaves are what becomes of them, in the
same order, so that a call that is met can be followed to its place in the result.

A walk leaves its trees as they are exactly when handling leaves the arguments of every call as they
are (`Meets.eq_iff`). A change cannot be undone further inside, since it shows in the heads along
the branches of the changed argument and a walk keeps heads.
-/

namespace ImageFallback

open Node

/-! ## Changes are not undone -/

/-- A change that a walk gives back was none. -/
theorem Swaps.eq_of_walks_back {config : Config} {remarks : List Remark} {node node' : Node}
    {s s' : Swapper} (h : Swaps config node s node' s') {pass last : Pass}
    (back : Pass.Walks config remarks [node'] pass [node] last) : node' = node := by
  induction h generalizing pass last with
  | settled | other | kept => rfl
  | @paren span inner node s s' h inside ih =>
      -- What stands between parentheses has an identity, and parentheses have none.
      have head := (List.forall₂_cons.1 back.sameHead).1.id
      obtain ⟨id, own⟩ := inside.exists_id h
      rw [own] at head
      cases head
  | text => simpa [shape] using (List.forall₂_cons.1 back.sameHead).1.shape
  | template => simpa [shape] using (List.forall₂_cons.1 back.sameHead).1.shape
  | @conditional id span test yes no yes' no' s s₁ s₂ fresh h first second ihYes ihNo =>
      obtain ⟨inner, same, inside⟩ := back.inert_inv rfl
      obtain ⟨test', _, _, rfl, -, inside⟩ := inside.cons_inv
      obtain ⟨yes'', _, _, rfl, backYes, inside⟩ := inside.cons_inv
      obtain ⟨no'', _, _, rfl, backNo, inside⟩ := inside.cons_inv
      cases inside
      cases same
      rw [ihYes backYes, ihNo backNo]

/-- Arguments that a walk gives back were not changed when the call was handled. -/
theorem Pass.Handles.eq_of_walks_back {config : Config} {remarks : List Remark} {span : Span}
    {callee callee' : Node} {arguments handled : List Node} {pass begun last : Pass}
    (h : Handles config remarks span callee arguments pass handled begun)
    (back : Walks config remarks (callee :: handled) begun (callee' :: arguments) last) :
    handled = arguments := by
  cases h with
  | swapped ok h unmarked noSkip formed swaps =>
      cases Config.loaderArgument?_eq_some h
      obtain ⟨_, _, _, same, -, others⟩ := back.cons_inv
      cases same
      rw [swaps.eq_of_walks_back others]
  | _ => rfl

/-! ## Changes make no calls -/

@[simp] theorem Config.calls_supportTest (config : Config) : config.supportTest.calls = [] :=
  config.supportTest_induction (motive := fun node => node.calls = []) rfl
    fun _ _ h => by simpa [calls] using h

/-- The calls of a changed argument are calls of the argument, up to identities. -/
theorem Swaps.exists_call {config : Config} {node node' : Node} {s s' : Swapper}
    (h : Swaps config node s node' s') {call : Node} (mem : call ∈ node'.calls) :
    ∃ original ∈ node.calls, original.anonymous = call.anonymous := by
  induction h with
  | settled | other | kept => exact ⟨call, mem, rfl⟩
  | paren h inside ih => exact ih mem
  | text => simp [calls] at mem
  | @template id span quasis parts s events fresh h =>
      simp only [calls, Config.calls_supportTest, List.nil_append, callsAll_mapIdsAll,
        List.mem_append, List.mem_map] at mem
      rcases mem with ⟨original, found, rfl⟩ | mem
      · exact ⟨original, found, (original.anonymous_mapIds _).symm⟩
      · exact ⟨call, mem, rfl⟩
  | @conditional id span test yes no yes' no' s s₁ s₂ fresh h first second ihYes ihNo =>
      simp only [calls, List.mem_append] at mem ⊢
      rcases mem with (inTest | inYes) | inNo
      · exact ⟨call, Or.inl (Or.inl inTest), rfl⟩
      · obtain ⟨original, found, same⟩ := ihYes inYes
        exact ⟨original, Or.inl (Or.inr found), same⟩
      · obtain ⟨original, found, same⟩ := ihNo inNo
        exact ⟨original, Or.inr found, same⟩

theorem Pass.Handles.exists_call {config : Config} {remarks : List Remark} {span : Span}
    {callee : Node} {arguments handled : List Node} {pass begun : Pass}
    (h : Handles config remarks span callee arguments pass handled begun) {call : Node}
    (mem : call ∈ callsAll handled) :
    ∃ original ∈ callsAll arguments, original.anonymous = call.anonymous := by
  cases h with
  | swapped ok h unmarked noSkip formed swaps =>
      simp only [Config.loaderArgument?_eq_some h, callsAll, List.append_nil] at mem ⊢
      exact swaps.exists_call mem
  | _ => exact ⟨call, mem, rfl⟩

/-! ## Calls and what becomes of them -/

/-- Handling a call counts one kept argument or none, and a kept argument stays in its place. -/
theorem Pass.Handles.skipped {config : Config} {remarks : List Remark} {span : Span}
    {callee : Node} {arguments handled : List Node} {pass begun : Pass}
    (h : Handles config remarks span callee arguments pass handled begun) :
    begun.report.skipped = pass.report.skipped ∨
      begun.report.skipped = pass.report.skipped + 1 ∧ handled = arguments ∧
        ∃ argument, config.loaderArgument? callee arguments = some argument := by
  cases h with
  | ignored events ok h unmarked skip => exact Or.inr ⟨rfl, rfl, _, h⟩
  | _ => exact Or.inl rfl

/-- A call that a walk meets, as it is then, and the pass at that time. -/
structure Meeting where
  span : Span
  callee : Node
  arguments : List Node
  optional : Bool
  pass : Pass

namespace Meeting

variable (config : Config) (remarks : List Remark) (m : Meeting)

/-- The call that is met. -/
def call : Node := .call m.span m.callee m.arguments m.optional

/-- The arguments and the pass once the call is handled. -/
def handled : List Node × Pass :=
  m.pass.handleCall config remarks m.span m.callee m.arguments

/-- Handling the call leaves its arguments as they are. -/
def Kept : Prop := (m.handled config remarks).1 = m.arguments

/-- Handling the call counts its argument as kept by a comment. -/
def isSkipped : Bool :=
  m.pass.report.skipped + 1 == (m.handled config remarks).2.report.skipped

theorem handles :
    Pass.Handles config remarks m.span m.callee m.arguments m.pass (m.handled config remarks).1
      (m.handled config remarks).2 :=
  Pass.handleCall_handles config remarks m.span m.callee m.arguments m.pass

theorem skipped_handled :
    (m.handled config remarks).2.report.skipped =
      m.pass.report.skipped + if m.isSkipped config remarks then 1 else 0 := by
  rw [isSkipped]
  rcases (m.handles config remarks).skipped with same | ⟨more, -, -⟩
  · simp [same]
  · simp [more]

/-- The argument of a call that is counted so is the only argument of a call of the loader. -/
theorem kept_of_isSkipped (h : m.isSkipped config remarks = true) :
    m.Kept config remarks ∧
      ∃ argument, config.loaderArgument? m.callee m.arguments = some argument := by
  rcases (m.handles config remarks).skipped with same | ⟨-, kept, found⟩
  · simp [isSkipped, same] at h
  · exact ⟨kept, found⟩

end Meeting

namespace Pass

variable {config : Config} {remarks : List Remark}

variable (config remarks) in
/-- A walk over trees with a pass, and the calls that it meets. -/
inductive Meets : List Node → Pass → List Node → Pass → List Meeting → Prop where
  | nil (pass : Pass) : Meets [] pass [] pass []
  | inert {node : Node} {rest inner rest' : List Node} {pass mid last : Pass}
      {log log' : List Meeting} (notCall : node.isCall = false)
      (inside : Meets node.parts pass inner mid log) (after : Meets rest mid rest' last log') :
      Meets (node :: rest) pass (node.withParts inner :: rest') last (log ++ log')
  | call {m : Meeting} {callee' : Node} {inner rest rest' : List Node} {mid last : Pass}
      {log log' : List Meeting}
      (inside : Meets (m.callee :: (m.handled config remarks).1) (m.handled config remarks).2
        (callee' :: inner) mid log)
      (after : Meets rest mid rest' last log') :
      Meets (.call m.span m.callee m.arguments m.optional :: rest) m.pass
        (.call m.span callee' inner m.optional :: rest') last (m :: (log ++ log'))

/-- Every walk meets some calls. -/
theorem Walks.exists_meets {nodes nodes' : List Node} {pass pass' : Pass}
    (h : Walks config remarks nodes pass nodes' pass') :
    ∃ log, Meets config remarks nodes pass nodes' pass' log := by
  induction h with
  | nil pass => exact ⟨[], Meets.nil pass⟩
  | inert notCall _ _ ihInside ihAfter =>
      obtain ⟨log, inside⟩ := ihInside
      obtain ⟨log', after⟩ := ihAfter
      exact ⟨_, Meets.inert notCall inside after⟩
  | @call span callee callee' arguments handled inner rest rest' optional pass begun mid last
      handling _ _ ihInside ihAfter =>
      obtain ⟨log, inside⟩ := ihInside
      obtain ⟨log', after⟩ := ihAfter
      let m : Meeting := ⟨span, callee, arguments, optional, pass⟩
      have same : m.handled config remarks = (handled, begun) := handling
      exact ⟨_, Meets.call (m := m) (by rwa [same]) after⟩

namespace Meets

variable {nodes nodes' : List Node} {pass pass' : Pass} {log : List Meeting}

theorem walks (h : Meets config remarks nodes pass nodes' pass' log) :
    Walks config remarks nodes pass nodes' pass' := by
  induction h with
  | nil pass => exact Walks.nil pass
  | inert notCall _ _ ihInside ihAfter => exact Walks.inert notCall ihInside ihAfter
  | call _ _ ihInside ihAfter => exact Walks.call rfl ihInside ihAfter

/-- The counter of kept arguments counts the calls whose argument was kept. -/
theorem skipped_eq (h : Meets config remarks nodes pass nodes' pass' log) :
    pass'.report.skipped =
      pass.report.skipped + log.countP (Meeting.isSkipped config remarks) := by
  induction h with
  | nil => rfl
  | inert _ _ _ ihInside ihAfter =>
      rw [ihAfter, ihInside, List.countP_append, Nat.add_assoc]
  | @call m callee' inner rest rest' mid last log log' _ _ ihInside ihAfter =>
      have own := m.skipped_handled config remarks
      rw [ihAfter, ihInside, own, List.countP_cons, List.countP_append]
      omega

/-- The calls that a walk meets are as many as the calls of what it leaves. -/
theorem length_eq (h : Meets config remarks nodes pass nodes' pass' log) :
    log.length = (callsAll nodes').length := by
  induction h with
  | nil => rfl
  | @inert node rest inner rest' pass mid last log log' notCall inside after ihInside ihAfter =>
      rw [callsAll, calls_eq_parts, isCall_withParts, notCall,
        parts_withParts node inner inside.walks.length_eq]
      simp [ihInside, ihAfter]
  | call _ _ ihInside ihAfter =>
      simp only [callsAll, calls, List.length_append, List.length_cons] at ihInside ⊢
      omega

variable (config remarks) in
/-- A walk from the handled call leaves it as `left`, and meets inside it only calls that stand
together in `log`. -/
def Leaves (log : List Meeting) (m : Meeting) (left : Node) : Prop :=
  ∃ callee' inner mid inside,
    left = .call m.span callee' inner m.optional ∧
      Meets config remarks (m.callee :: (m.handled config remarks).1) (m.handled config remarks).2
        (callee' :: inner) mid inside ∧
      inside <:+: log

theorem Leaves.mono {log log' : List Meeting} {m : Meeting} {left : Node}
    (h : Leaves config remarks log m left) (part : log <:+: log') :
    Leaves config remarks log' m left := by
  obtain ⟨callee', inner, mid, inside, same, meets, within⟩ := h
  exact ⟨callee', inner, mid, inside, same, meets, within.trans part⟩

/-- Every call that is met can be followed to its place in what the walk leaves. -/
theorem leaves (h : Meets config remarks nodes pass nodes' pass' log) {m : Meeting} {left : Node}
    (mem : (m, left) ∈ log.zip (callsAll nodes')) : Leaves config remarks log m left := by
  induction h with
  | nil => simp at mem
  | @inert node rest inner rest' pass mid last log log' notCall inside after ihInside ihAfter =>
      rw [callsAll, calls_eq_parts, isCall_withParts, notCall,
        parts_withParts node inner inside.walks.length_eq] at mem
      simp only [Bool.false_eq_true, if_false, List.zip_append inside.length_eq,
        List.mem_append] at mem
      rcases mem with mem | mem
      · exact (ihInside mem).mono ⟨[], log', rfl⟩
      · exact (ihAfter mem).mono ⟨log, [], by simp⟩
  | @call own callee' inner rest rest' mid last log log' inside after ihInside ihAfter =>
      have length := inside.length_eq
      rw [callsAll] at length ihInside
      rw [callsAll, calls, List.cons_append, List.zip_cons_cons, List.zip_append length,
        List.mem_cons, List.mem_append] at mem
      rcases mem with mem | mem | mem
      · cases mem
        exact ⟨callee', inner, mid, log, rfl, inside, [m], log', by simp⟩
      · exact (ihInside mem).mono ⟨[own], log', by simp⟩
      · exact (ihAfter mem).mono ⟨own :: log, [], by simp⟩

/-- A walk leaves its trees as they are exactly when handling keeps the arguments of every call. -/
theorem eq_iff (h : Meets config remarks nodes pass nodes' pass' log) :
    nodes' = nodes ↔ ∀ m ∈ log, m.Kept config remarks := by
  induction h with
  | nil => simp
  | @inert node rest inner rest' pass mid last log log' notCall inside after ihInside ihAfter =>
      have parts : node.withParts inner = node ↔ inner = node.parts := by
        constructor
        · intro same
          rw [← parts_withParts node inner inside.walks.length_eq, same]
        · rintro rfl
          exact node.withParts_parts
      simp only [List.cons.injEq, List.mem_append, parts, ihInside, ihAfter, or_imp,
        forall_and]
  | @call m callee' inner rest rest' mid last log log' inside after ihInside ihAfter =>
      simp only [List.cons.injEq, List.forall_mem_cons, List.forall_mem_append, ← ihInside,
        ← ihAfter, Node.call.injEq, true_and, and_true]
      constructor
      · rintro ⟨⟨rfl, rfl⟩, same⟩
        -- The walk inside cannot have undone a change, so there was none.
        have kept := (m.handles config remarks).eq_of_walks_back inside.walks
        exact ⟨kept, ⟨rfl, kept.symm⟩, same⟩
      · rintro ⟨kept, ⟨rfl, same⟩, same'⟩
        exact ⟨⟨rfl, same.trans kept⟩, same'⟩

/-- Every call that is met is a call of the trees, up to identities. -/
theorem exists_call (h : Meets config remarks nodes pass nodes' pass' log) {m : Meeting}
    (mem : m ∈ log) : ∃ call ∈ callsAll nodes, call.anonymous = m.call.anonymous := by
  induction h with
  | nil => cases mem
  | @inert node rest inner rest' pass mid last log log' notCall inside after ihInside ihAfter =>
      rw [callsAll, calls_eq_parts, notCall]
      rcases List.mem_append.1 mem with mem | mem
      · obtain ⟨call, found, same⟩ := ihInside mem
        exact ⟨call, List.mem_append_left _ found, same⟩
      · obtain ⟨call, found, same⟩ := ihAfter mem
        exact ⟨call, List.mem_append_right _ found, same⟩
  | @call own callee' inner rest rest' mid last log log' inside after ihInside ihAfter =>
      rw [callsAll, calls]
      rcases List.mem_cons.1 mem with rfl | mem
      · exact ⟨_, List.mem_append_left _ List.mem_cons_self, rfl⟩
      rcases List.mem_append.1 mem with mem | mem
      · obtain ⟨call, found, same⟩ := ihInside mem
        rcases List.mem_append.1 found with inCallee | inHandled
        · exact ⟨call, by simp [inCallee], same⟩
        · obtain ⟨original, inArguments, same'⟩ :=
            (own.handles config remarks).exists_call inHandled
          exact ⟨original, by simp [inArguments], same'.trans same⟩
      · obtain ⟨call, found, same⟩ := ihAfter mem
        exact ⟨call, List.mem_append_right _ found, same⟩

end Meets

end Pass

end ImageFallback
