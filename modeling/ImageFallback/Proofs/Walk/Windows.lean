import ImageFallback.Proofs.Tree.Nesting
import ImageFallback.Proofs.Walk.Meetings
import ImageFallback.Proofs.Walk.Settled

/-!
# The window of a call

A comment keeps the argument of a call of the loader if it lies in the window of the call: not
before the end of the argument, and not after the end of the call. Comments and calls know nothing
of each other but their offsets, so that a comment could lie in the windows of several calls.

In a program whose spans nest it does not, unless it is a comment without text. A call inside the
argument of another one ends before the window of that one begins, and calls side by side have no
text in common (`countCalls_inWindow_le_one`). A walk meets such a call several times if it stands
in a template that is copied; these meetings are all with the same call.
-/

namespace ImageFallback

open Node

namespace Config

variable {config : Config} {remarks : List Remark} {span : Span} {node : Node}

/-- The node is a call of the loader, and the span lies in the window of the call. -/
def inWindow (config : Config) (span : Span) (node : Node) : Bool :=
  (config.loaderArgumentOf? node).any fun argument =>
    argument.span.stop ≤ span.start && span.stop ≤ node.span.stop

theorem inWindow_iff :
    config.inWindow span node = true ↔
      ∃ argument, config.loaderArgumentOf? node = some argument ∧
        argument.span.stop ≤ span.start ∧ span.stop ≤ node.span.stop := by
  simp [inWindow, Option.any_eq_true]

/-- A comment keeps the argument of a call if it holds the marker and lies in the window. -/
theorem isIgnored_iff {argument : Node} (h : config.loaderArgumentOf? node = some argument) :
    config.isIgnored remarks argument node.span = true ↔
      ∃ remark ∈ remarks, Text.occursIn config.ignoreMarker remark.body = true ∧
        config.inWindow remark.span node = true := by
  simp only [isIgnored, Remark.anyMarked, Remark.between, inWindow, h, List.any_map,
    List.any_filter, List.any_eq_true, Option.any_some, Bool.and_eq_true, Function.comp_apply]
  tauto

theorem loaderArgumentOf?_mapIds (config : Config) (f : NodeId → NodeId) (node : Node) :
    config.loaderArgumentOf? (node.mapIds f) = (config.loaderArgumentOf? node).map (mapIds f) := by
  cases node with
  | call span callee arguments optional => exact config.loaderArgument?_mapIds f callee arguments
  | _ => rfl

theorem inWindow_mapIds (config : Config) (span : Span) (f : NodeId → NodeId) (node : Node) :
    config.inWindow span (node.mapIds f) = config.inWindow span node := by
  simp [inWindow, loaderArgumentOf?_mapIds, Option.any_map]

/-- A call of the loader has its name and its argument as parts. -/
theorem exists_children {argument : Node} (h : config.loaderArgumentOf? node = some argument) :
    ∃ inner, node.children = [.name inner config.loader, argument] := by
  cases node with
  | call outer callee arguments optional =>
      obtain ⟨inner, rfl⟩ := callee_of_loaderArgument? h
      cases loaderArgument?_eq_some h
      exact ⟨inner, rfl⟩
  | _ => cases h

end Config

/-! ## Nested spans -/

section Nested

variable {config : Config} {span : Span}

/-- A span in the window of a call lies inside one of the trees, the one that the call is in. -/
theorem exists_within_of_inWindow {nodes : List Node} (nested : laidOut nodes = true)
    (real : span.start < span.stop) {call : Node} (mem : call ∈ callsAll nodes)
    (own : config.inWindow span call = true) :
    ∃ node ∈ nodes, span.within node.span = true := by
  induction nodes using childInduction with
  | nil => cases mem
  | cons node rest inside after =>
      obtain ⟨parts, nestedParts, -, nestedRest⟩ := laidOut_cons.1 nested
      rw [callsAll, calls_eq_parts, ← callsAll_children, List.mem_append] at mem
      have within : call ∈ callsAll node.children → span.within node.span = true := by
        intro mem
        obtain ⟨part, found, h⟩ := inside nestedParts mem
        exact Span.within_trans h (parts part found)
      rcases mem with mem | mem
      · refine ⟨node, List.mem_cons_self, ?_⟩
        split at mem
        · rcases List.mem_cons.1 mem with rfl | mem
          · obtain ⟨argument, found, start, stop⟩ := Config.inWindow_iff.1 own
            obtain ⟨inner, children⟩ := Config.exists_children found
            have h := Span.within_iff.1 (parts argument (by simp [children]))
            exact Span.within_iff.2 (by omega)
          · exact within mem
        · exact within mem
      · obtain ⟨other, found, h⟩ := after nestedRest mem
        exact ⟨other, List.mem_cons_of_mem _ found, h⟩

/-- The calls inside a call have windows that end before its own begins. -/
theorem inWindow_children {node : Node} (nested : laidOut node.children = true)
    (real : span.start < span.stop) (own : config.inWindow span node = true) :
    ∀ call ∈ callsAll node.children, config.inWindow span call = false := by
  obtain ⟨argument, found, start, -⟩ := Config.inWindow_iff.1 own
  obtain ⟨inner, children⟩ := Config.exists_children found
  rw [children] at nested ⊢
  intro call mem
  by_contra inside
  -- The name holds no calls.
  obtain ⟨other, only, h⟩ := exists_within_of_inWindow (laidOut_cons.1 nested).2.2.2 real
    (by simpa [callsAll, calls] using mem) (by simpa using inside)
  cases List.mem_singleton.1 only
  have := Span.within_iff.1 h
  omega

/-- A node is the only call in it with the span in its window, if it is one. -/
theorem countCalls_inWindow_node {node : Node} (nested : laidOut node.children = true)
    (real : span.start < span.stop)
    (inside : countCalls (config.inWindow span) node.children ≤ 1) :
    countCalls (config.inWindow span) [node] ≤ 1 := by
  rw [countCalls] at inside ⊢
  rw [callsAll, callsAll, List.append_nil, calls_eq_parts, ← callsAll_children]
  by_cases own : config.inWindow span node = true
  · have none := List.countP_eq_zero.2 (by simpa using inWindow_children nested real own)
    split <;> simp [own, none]
  · split <;> simpa [own] using inside

/-- A span with text lies in the window of at most one call. -/
theorem countCalls_inWindow_le_one {nodes : List Node} (nested : laidOut nodes = true)
    (real : span.start < span.stop) : countCalls (config.inWindow span) nodes ≤ 1 := by
  induction nodes using childInduction with
  | nil => exact Nat.zero_le 1
  | cons node rest inside after =>
      obtain ⟨parts, nestedParts, apart, nestedRest⟩ := laidOut_cons.1 nested
      have nestedNode : laidOut [node] = true := laidOut_cons.2 ⟨parts, nestedParts, by simp, rfl⟩
      have inNode := countCalls_inWindow_node nestedParts real (inside nestedParts)
      have inRest := after nestedRest
      have total : countCalls (config.inWindow span) (node :: rest) =
          countCalls (config.inWindow span) [node] + countCalls (config.inWindow span) rest := by
        simp [countCalls, callsAll]
      by_cases both : 0 < countCalls (config.inWindow span) [node] ∧
          0 < countCalls (config.inWindow span) rest
      · obtain ⟨call, mem, own⟩ := List.countP_pos_iff.1 both.1
        obtain ⟨call', mem', own'⟩ := List.countP_pos_iff.1 both.2
        obtain ⟨one, only, h⟩ := exists_within_of_inWindow nestedNode real mem own
        obtain ⟨other, found, h'⟩ := exists_within_of_inWindow nestedRest real mem' own'
        cases List.mem_singleton.1 only
        have common := Span.overlaps_of_within real h h'
        rw [apart other found] at common
        cases common
      · omega

/-- Two calls with a span with text in their windows are one call. -/
theorem eq_of_inWindow {nodes : List Node} (nested : laidOut nodes = true)
    (real : span.start < span.stop) {call call' : Node} (mem : call ∈ callsAll nodes)
    (mem' : call' ∈ callsAll nodes) (own : config.inWindow span call = true)
    (own' : config.inWindow span call' = true) : call = call' := by
  have one := @countCalls_inWindow_le_one config span nodes nested real
  rw [countCalls, List.countP_eq_length_filter] at one
  have found := List.mem_filter.2 ⟨mem, own⟩
  have found' := List.mem_filter.2 ⟨mem', own'⟩
  obtain ⟨only, filtered⟩ := List.length_eq_one_iff.1
    (Nat.le_antisymm one (List.length_pos_of_mem found))
  rw [filtered, List.mem_singleton] at found found'
  exact found.trans found'.symm

end Nested

/-! ## Meetings -/

namespace Meeting

variable (config : Config) (remarks : List Remark) (m : Meeting)

/-- An argument counts as kept if there was no error before, it is not settled, and a comment in the
window of the call keeps it. -/
theorem isSkipped_eq :
    m.isSkipped config remarks =
      (m.pass.error.isNone && (config.loaderArgumentOf? m.call).any fun argument =>
        !m.pass.swapper.visited.contains argument &&
          config.isIgnored remarks argument m.span) := by
  have own : config.loaderArgumentOf? m.call = config.loaderArgument? m.callee m.arguments := rfl
  have handles := m.handles config remarks
  rw [isSkipped, own]
  generalize m.handled config remarks = outcome at handles ⊢
  obtain ⟨handled, begun⟩ := outcome
  cases handles with
  | failed h => simp [Option.isNone_eq_false_iff.2 h]
  | foreign ok h => simp [h]
  | settled ok h marked => simp [h, marked]
  | ignored events ok h unmarked skip => simp [ok, h, unmarked, skip]
  | malformed ok h unmarked noSkip bad => simp [h, noSkip]
  | swapped ok h unmarked noSkip formed swaps => simp [h, noSkip]

/-- A comment with the marker lies in the window of a call whose argument counts as kept. -/
theorem exists_remark_of_isSkipped (h : m.isSkipped config remarks = true) :
    ∃ remark ∈ remarks, Text.occursIn config.ignoreMarker remark.body = true ∧
      config.inWindow remark.span m.call = true := by
  rw [isSkipped_eq, Bool.and_eq_true, Option.any_eq_true] at h
  obtain ⟨-, argument, found, h⟩ := h
  rw [Bool.and_eq_true] at h
  exact (Config.isIgnored_iff found).1 h.2

end Meeting

/-- If the spans of a program nest, a comment with text lies in the window of at most one of its
calls. Of the calls that a run meets, only those with a marked comment in their window count as
kept, and those with the one comment in their window are all one call of the program, once or in
copies. -/
theorem remark_in_one_window (config : Config) (body : List Node) (nested : laidOut body = true)
    (remark : Remark) (real : remark.span.start < remark.span.stop) :
    countCalls (config.inWindow remark.span) body ≤ 1 ∧
      ∀ (remarks : List Remark) (pass : Pass),
        ∃ out last log, Pass.Meets config remarks body pass out last log ∧
          (pass.run config remarks body).2.1 = out ∧
          (pass.run config remarks body).2.2.report.skipped =
            pass.report.skipped + log.countP (Meeting.isSkipped config remarks) ∧
          (∀ m ∈ log, m.isSkipped config remarks = true →
            ∃ r ∈ remarks, Text.occursIn config.ignoreMarker r.body = true ∧
              config.inWindow r.span m.call = true) ∧
          ∀ m ∈ log, ∀ m' ∈ log, config.inWindow remark.span m.call = true →
            config.inWindow remark.span m'.call = true →
            ∃ call ∈ callsAll body, config.inWindow remark.span call = true ∧
              call.anonymous = m.call.anonymous ∧ call.anonymous = m'.call.anonymous := by
  refine ⟨countCalls_inWindow_le_one nested real, fun remarks pass => ?_⟩
  obtain ⟨out, last, walks⟩ := Pass.exists_walks config remarks body pass
  obtain ⟨log, meets⟩ := walks.exists_meets
  have run := Pass.run_eq_of_walks walks
  refine ⟨out, last, log, meets, ?_, ?_, ?_, ?_⟩
  · rw [run]
    split <;> rfl
  · rw [run, ← meets.skipped_eq]
    split <;> rfl
  · intro m mem skipped
    exact m.exists_remark_of_isSkipped config remarks skipped
  · intro m mem m' mem' own own'
    obtain ⟨call, found, same⟩ := meets.exists_call mem
    obtain ⟨call', found', same'⟩ := meets.exists_call mem'
    rw [← eq_of_anonymous (config.inWindow_mapIds remark.span) same] at own
    rw [← eq_of_anonymous (config.inWindow_mapIds remark.span) same'] at own'
    cases eq_of_inWindow nested real found found' own own'
    exact ⟨call, found, own, same, same'⟩

/-- A comment in a call of the loader inside a template, which is the argument of another call of
the loader, next to a third one. The template is copied, and the comment keeps the argument of the
call inside it in both copies, but no other argument. -/
theorem remark_in_one_window_copied :
    let config : Config := {}
    let remark : Remark := ⟨⟨31, 48⟩, " webp-ignore "⟩
    let body : List Node := [
      .call ⟨0, 56⟩ (.name ⟨0, 7⟩ "require")
        [.template 0 ⟨8, 55⟩ [⟨"./", some "./", false, {}⟩, ⟨".jpg", some ".jpg", false, {}⟩]
          [.call ⟨13, 49⟩ (.name ⟨13, 20⟩ "require") [.text 1 ⟨21, 30⟩ "./a.png" false] false]]
        false,
      .call ⟨58, 76⟩ (.name ⟨58, 65⟩ "require") [.text 2 ⟨66, 75⟩ "./b.png" false] false]
    laidOut body = true ∧ remark.span.start < remark.span.stop ∧
      countCalls config.isLoaderCall body = 3 ∧
      countCalls (config.inWindow remark.span) body ≤ 1 ∧
      ((Pass.new 3).run config [remark] body).1 = .ok ⟨4, 2, 2⟩ ∧
      ∃ out last log, Pass.Meets config [remark] body (Pass.new 3) out last log ∧
        log.countP (Meeting.isSkipped config [remark]) = 2 ∧
        ∀ m ∈ log, ∀ m' ∈ log, m.isSkipped config [remark] = true →
          m'.isSkipped config [remark] = true → m.call.anonymous = m'.call.anonymous := by
  intro config remark body
  have nested : laidOut body = true := by decide
  have real : remark.span.start < remark.span.stop := by decide
  have outcome : ((Pass.new 3).run config [remark] body).1 = .ok ⟨4, 2, 2⟩ := by
    unfold body remark config
    rfl
  have total : ((Pass.new 3).run config [remark] body).2.2.report.skipped = 2 := by
    unfold body remark config
    rfl
  obtain ⟨once, runs⟩ := remark_in_one_window config body nested remark real
  obtain ⟨out, last, log, meets, -, skipped, marked, same⟩ := runs [remark] (Pass.new 3)
  refine ⟨nested, real, by decide, once, outcome, out, last, log, meets, ?_, ?_⟩
  · rw [total] at skipped
    simpa [Pass.new] using skipped.symm
  · intro m mem m' mem' kept kept'
    obtain ⟨r, only, -, own⟩ := marked m mem kept
    obtain ⟨r', only', -, own'⟩ := marked m' mem' kept'
    cases List.mem_singleton.1 only
    cases List.mem_singleton.1 only'
    obtain ⟨call, -, -, first, second⟩ := same m mem m' mem' own own'
    exact first.symm.trans second

end ImageFallback
