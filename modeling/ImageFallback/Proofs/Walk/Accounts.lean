import ImageFallback.Proofs.Meaning.Exchange
import ImageFallback.Proofs.Tree.Subtrees
import ImageFallback.Proofs.Walk.Expansion
import ImageFallback.Proofs.Walk.Meetings
import ImageFallback.Proofs.Walk.Settled

/-!
# The counters and the program that a run leaves

A pass counts while it changes and walks over trees that it has made itself. Of a program that has
no conditional on the run-time test its counters tell what the program holds afterwards: the calls
of the loader, those among them whose argument offers a choice, and all conditionals on the
run-time test.

The one thing that could go wrong is a copy of a conditional that was built before. A template is
copied when the call around it is handled, and at this time no call inside it was handled. The walk
carries this along as the calls being free of choices (`ChoiceFree`): the argument of a call may
hold choices once the call was handled, but no call inside the argument does.
-/

namespace ImageFallback

open Node Swapper

namespace Config

variable (config : Config)

/-- The node is a conditional on the run-time test. -/
def isChoice : Node → Bool
  | .conditional _ _ test _ _ => config.isSupportTest test
  | _ => false

/-- The node, or one that branches alone lead to from it, is a conditional on the run-time test. -/
def offersChoice : Node → Bool
  | .conditional _ _ test yes no =>
    config.isSupportTest test || (offersChoice yes || offersChoice no)
  | _ => false

/-- The node is a call of the loader whose argument offers a choice. -/
def isChoiceCall (node : Node) : Bool := (config.loaderArgumentOf? node).any config.offersChoice

/-- No call holds a conditional on the run-time test. -/
def ChoiceFree (nodes : List Node) : Prop :=
  ∀ call ∈ callsAll nodes, countNodes config.isChoice call.parts = 0

theorem isChoice_mapIds (f : NodeId → NodeId) (node : Node) :
    config.isChoice (node.mapIds f) = config.isChoice node := by
  cases node with
  | conditional id span test yes no => exact config.isSupportTest_mapIds f test
  | _ => rfl

@[simp] theorem countNodes_supportTest : countNodes config.isChoice [config.supportTest] = 0 :=
  config.supportTest_induction (motive := fun node => countNodes config.isChoice [node] = 0) rfl
    fun _ _ h => (countNodes_of_not rfl).trans h

variable {config}

/-- Trees that hold no conditional on the run-time test hold none inside calls. -/
theorem choiceFree_of_free {nodes : List Node} (free : countNodes config.isChoice nodes = 0) :
    config.ChoiceFree nodes := by
  induction nodes using forestInduction with
  | nil => exact fun call mem => by cases mem
  | cons node rest inside after =>
      rw [countNodes_cons, countNodes_singleton] at free
      have freeParts : countNodes config.isChoice node.parts = 0 := by omega
      intro call mem
      rw [callsAll, List.mem_append, calls_eq_parts] at mem
      rcases mem with inNode | inRest
      · split at inNode
        · rcases List.mem_cons.1 inNode with rfl | inParts
          · exact freeParts
          · exact inside freeParts call inParts
        · exact inside freeParts call inNode
      · exact after (by omega) call inRest

theorem offersChoice_eq_false {node : Node} (free : countNodes config.isChoice [node] = 0) :
    config.offersChoice node = false := by
  fun_induction offersChoice config node with
  | case1 id span test yes no ihYes ihNo =>
      rw [countNodes_conditional, isChoice] at free
      have noTest : config.isSupportTest test = false := by
        by_contra isTest
        simp [isTest] at free
      rw [noTest, ihYes (by omega), ihNo (by omega)]
      rfl
  | case2 => rfl

end Config

/-! ## One change -/

/-- A change builds as many choices as it counts, and its result offers one exactly when it counts
one. -/
theorem Swaps.choices {config : Config} {node node' : Node} {s s' : Swapper}
    (h : Swaps config node s node' s') (free : countNodes config.isChoice [node] = 0) :
    s'.synthesized = s.synthesized + countNodes config.isChoice [node'] ∧
      config.offersChoice node' = decide (s.synthesized < s'.synthesized) := by
  have test : config.isSupportTest config.supportTest = true := config.isSupportTest_supportTest
  induction h with
  | settled | other | kept => simp [free, Config.offersChoice_eq_false free]
  | @paren span inner node s s' h inside ih =>
      have isParen : config.isChoice (.paren span inner) = false := rfl
      rw [countNodes_of_not isParen] at free
      exact ih free
  | @text id span value lone s events fresh h =>
      have isText (id : NodeId) (value : String) (lone : Bool) :
          countNodes config.isChoice [.text id span value lone] = 0 := countNodes_of_not rfl
      rw [countNodes_conditional, Config.isChoice, Config.offersChoice, test, isText, isText]
      simp
  | @template id span quasis parts s events fresh h =>
      have isTemplate (id : NodeId) (quasis : List Quasi) (parts : List Node) :
          countNodes config.isChoice [.template id span quasis parts] =
            countNodes config.isChoice parts := countNodes_of_not rfl
      have copies := countNodes_mapIdsAll (config.isChoice_mapIds (s.supply + ·)) parts
      rw [isTemplate] at free
      rw [countNodes_conditional, Config.isChoice, Config.offersChoice, test, isTemplate,
        isTemplate, copies, free]
      simp
  | @conditional id span test yes no yes' no' s s₁ s₂ fresh h first second ihYes ihNo =>
      rw [countNodes_conditional, Config.isChoice] at free
      have noTest : config.isSupportTest test = false := by
        by_contra isTest
        simp [isTest] at free
      obtain ⟨countYes, offersYes⟩ := ihYes (by omega)
      obtain ⟨countNo, offersNo⟩ := ihNo (by omega)
      rw [countNodes_conditional, Config.isChoice, Config.offersChoice, noTest, offersYes, offersNo]
      refine ⟨?_, ?_⟩
      · simp only [Bool.false_eq_true, if_false]
        omega
      · rw [Bool.false_or, ← Bool.decide_or, decide_eq_decide]
        show _ ↔ s.synthesized < s₂.synthesized
        omega

/-! ## One call -/

namespace Config

variable {config : Config}

theorem isChoiceCall_eq_false {arguments : List Node}
    (free : countNodes config.isChoice arguments = 0) (span : Span) (callee : Node)
    (optional : Bool) :
    config.isChoiceCall (.call span callee arguments optional) = false := by
  rw [isChoiceCall, loaderArgumentOf?]
  cases found : config.loaderArgument? callee arguments with
  | none => rfl
  | some argument =>
      rw [loaderArgument?_eq_some found] at free
      exact offersChoice_eq_false free

/-- Nodes with the same head that offer a choice together. -/
def SameOffer (config : Config) (node other : Node) : Prop :=
  SameHead node other ∧ config.offersChoice other = config.offersChoice node

theorem isChoice_withParts {node : Node} {ps : List Node}
    (heads : List.Forall₂ SameHead node.parts ps) :
    config.isChoice (node.withParts ps) = config.isChoice node := by
  cases node with
  | conditional id span test yes no =>
      rcases heads with _ | ⟨first, _ | ⟨second, _ | ⟨third, _ | _⟩⟩⟩
      simp only [withParts, isChoice, isSupportTest, first.path]
  | _ => rcases ps with _ | ⟨p, _ | ⟨q, _ | ⟨r, ps⟩⟩⟩ <;> rfl

/-- A node offers a choice with the one list of parts when it does with the other. -/
theorem offersChoice_withParts {node : Node} {ps : List Node}
    (h : List.Forall₂ (SameOffer config) node.parts ps) :
    config.offersChoice (node.withParts ps) = config.offersChoice node := by
  cases node with
  | conditional id span test yes no =>
      rcases h with _ | ⟨first, _ | ⟨second, _ | ⟨third, _ | _⟩⟩⟩
      simp only [withParts, offersChoice, isSupportTest, first.1.path, second.2, third.2]
  | _ => rcases ps with _ | ⟨p, _ | ⟨q, _ | ⟨r, ps⟩⟩⟩ <;> rfl

theorem isChoiceCall_sameOffer {callee callee' : Node} {arguments arguments' : List Node}
    (h : List.Forall₂ (SameOffer config) (callee :: arguments) (callee' :: arguments'))
    (span : Span) (optional : Bool) :
    config.isChoiceCall (.call span callee' arguments' optional) =
      config.isChoiceCall (.call span callee arguments optional) := by
  obtain ⟨first, others⟩ := List.forall₂_cons.1 h
  rw [isChoiceCall, isChoiceCall, loaderArgumentOf?, loaderArgumentOf?]
  rcases loaderArgument?_related (fun _ _ same => same.1) first.1 others with
    ⟨none, none'⟩ | ⟨argument, argument', found, found', same⟩
  · rw [none, none']
  · rw [found, found']
    exact same.2

end Config

namespace Pass

variable {config : Config} {remarks : List Remark}

namespace Handles

variable {span : Span} {callee : Node} {arguments handled : List Node} {pass begun : Pass}

/-- Handling a call whose arguments hold no choice counts the choices that it puts there. -/
theorem choices (h : Handles config remarks span callee arguments pass handled begun)
    (free : countNodes config.isChoice arguments = 0) (optional : Bool) :
    begun.swapper.synthesized =
        pass.swapper.synthesized + countNodes config.isChoice handled ∧
      begun.report.swapped = pass.report.swapped +
        if config.isChoiceCall (.call span callee handled optional) then 1 else 0 := by
  have kept := config.isChoiceCall_eq_false free span callee optional
  cases h with
  | failed | foreign | settled | ignored | malformed => simp [free, kept]
  | @swapped argument argument' s ok h unmarked noSkip formed swaps =>
      rw [Config.loaderArgument?_eq_some h] at free
      obtain ⟨counted, offers⟩ := swaps.choices free
      refine ⟨counted, ?_⟩
      simp only [Config.isChoiceCall, Config.loaderArgumentOf?, loaderArgument?_of_swaps h swaps,
        Option.any_some, offers, decide_eq_true_eq]

/-- A call is counted as changed or as kept, or neither, and only if it is counted at all. -/
theorem swapped_add_skipped_le
    (h : Handles config remarks span callee arguments pass handled begun) :
    begun.report.swapped + begun.report.skipped + pass.report.loaderCalls ≤
      begun.report.loaderCalls + (pass.report.swapped + pass.report.skipped) := by
  cases h with
  | failed | foreign => omega
  | settled | ignored | malformed => dsimp only; omega
  | swapped =>
      dsimp only
      split <;> omega

/-- The calls inside handled arguments are free of choices if those inside the arguments are. -/
theorem choiceFree (h : Handles config remarks span callee arguments pass handled begun)
    (free : config.ChoiceFree arguments) : config.ChoiceFree handled := by
  intro call mem
  obtain ⟨original, found, same⟩ := h.exists_call mem
  have natural (g : NodeId → NodeId) (node : Node) :
      countNodes config.isChoice (node.mapIds g).parts = countNodes config.isChoice node.parts := by
    rw [parts_mapIds, countNodes_mapIdsAll (config.isChoice_mapIds g)]
  have equal : countNodes config.isChoice original.parts = countNodes config.isChoice call.parts :=
    @eq_of_anonymous _ (fun node => countNodes config.isChoice node.parts) natural _ _ same
  exact equal ▸ free original found

end Handles

namespace Walks

variable {nodes nodes' : List Node} {pass pass' : Pass}

/-- A walk into a node does not change what it offers from outside. -/
theorem sameOffer (h : Walks config remarks nodes pass nodes' pass') :
    List.Forall₂ config.SameOffer nodes nodes' := by
  refine h.related (fun same => ⟨?_, Config.offersChoice_withParts same⟩)
    fun _ _ _ _ _ _ => ⟨sameHead_call _ _ _ _ _ _ _, rfl⟩
  exact sameHead_withParts (same.imp fun _ _ same => same.1)

/-- A walk over calls that are free of choices counts the choices that it leaves besides those that
it found, and the calls of the loader whose argument offers one. -/
theorem choices (h : Walks config remarks nodes pass nodes' pass')
    (free : config.ChoiceFree nodes) :
    pass'.swapper.synthesized + countNodes config.isChoice nodes =
        pass.swapper.synthesized + countNodes config.isChoice nodes' ∧
      pass'.report.swapped = pass.report.swapped + countCalls config.isChoiceCall nodes' := by
  induction h with
  | nil => exact ⟨rfl, rfl⟩
  | @inert node rest inner rest' pass mid last notCall inside after ihInside ihAfter =>
      have freeParts : config.ChoiceFree node.parts := fun call mem =>
        free call (List.mem_append_left _ (by rwa [calls_eq_parts, notCall]))
      have freeRest : config.ChoiceFree rest := fun call mem =>
        free call (List.mem_append_right _ mem)
      obtain ⟨counted, swapped⟩ := ihInside freeParts
      obtain ⟨counted', swapped'⟩ := ihAfter freeRest
      have notCall' := (node.isCall_withParts inner).trans notCall
      have parts := parts_withParts node inner inside.length_eq
      have same := config.isChoice_withParts inside.sameHead
      rw [countCalls_inert _ _ notCall', countNodes_cons, countNodes_cons _ (node.withParts inner),
        countNodes_singleton, countNodes_singleton _ (node.withParts inner), same, parts]
      omega
  | @call span callee callee' arguments handled inner rest rest' optional pass begun mid last
      handling inside after ihInside ihAfter =>
      have handles := handles_of_eq handling
      have own := free (.call span callee arguments optional)
        (List.mem_append_left _ List.mem_cons_self)
      have freeParts : config.ChoiceFree (callee :: arguments) := fun call mem =>
        free call (List.mem_append_left _ (List.mem_cons_of_mem _ mem))
      have freeRest : config.ChoiceFree rest := fun call mem =>
        free call (List.mem_append_right _ mem)
      have freeHandled := handles.choiceFree fun call mem =>
        freeParts call (List.mem_append_right _ mem)
      have freeInside : config.ChoiceFree (callee :: handled) := by
        intro call mem
        rcases List.mem_append.1 mem with inCallee | inHandled
        · exact freeParts call (List.mem_append_left _ inCallee)
        · exact freeHandled call inHandled
      obtain ⟨counted, swapped⟩ := ihInside freeInside
      obtain ⟨counted', swapped'⟩ := ihAfter freeRest
      -- Neither the callee nor the arguments held a choice before the call was handled.
      rw [Node.parts, countNodes_cons] at own
      obtain ⟨countedCall, swappedCall⟩ := handles.choices (by omega) optional
      have isCall (callee : Node) (arguments : List Node) :
          countNodes config.isChoice [.call span callee arguments optional] =
            countNodes config.isChoice (callee :: arguments) := countNodes_of_not rfl
      have offer := Config.isChoiceCall_sameOffer inside.sameOffer span optional
      rw [countCalls_call, offer, countNodes_cons, isCall, countNodes_cons _ (.call _ _ _ _),
        isCall, countNodes_cons]
      rw [countNodes_cons] at counted
      omega

theorem swapped_add_skipped_le (h : Walks config remarks nodes pass nodes' pass') :
    pass'.report.swapped + pass'.report.skipped + pass.report.loaderCalls ≤
      pass'.report.loaderCalls + (pass.report.swapped + pass.report.skipped) := by
  induction h with
  | nil => omega
  | inert _ _ _ ihInside ihAfter => omega
  | call handling _ _ ihInside ihAfter =>
      have own := (handles_of_eq handling).swapped_add_skipped_le
      omega

end Walks

end Pass

/-- The first run of a new pass over a program with distinct identities, well-formed templates and
no conditional on the run-time test ends well. It reports the calls of the loader in the program
that it leaves, as changed those whose argument offers a choice, and it has counted all conditionals
on the run-time test in there. No call is reported as changed and as kept. -/
theorem report_of_choices (config : Config) (remarks : List Remark) (body : List Node)
    (supply : NodeId) (numbered : Numbered body supply) (formed : formedAll body = true)
    (free : countNodes config.isChoice body = 0) :
    ∃ report out pass, (Pass.new supply).run config remarks body = (.ok report, out, pass) ∧
      report.loaderCalls = countCalls config.isLoaderCall out ∧
      report.swapped = countCalls config.isChoiceCall out ∧
      pass.swapper.synthesized = countNodes config.isChoice out ∧
      report.swapped + report.skipped ≤ report.loaderCalls := by
  obtain ⟨out, last, walks⟩ := Pass.exists_walks config remarks body (Pass.new supply)
  have ready := Pass.ready_new numbered
  have ok := walks.ok_of_formed ready formed rfl
  have run := Pass.run_eq_of_walks walks
  obtain ⟨-, counted, -⟩ := walks.settled ready ok
    ⟨fun id mem => mem, fun id mem absent => absurd mem absent⟩
  obtain ⟨built, swapped⟩ := walks.choices (config.choiceFree_of_free free)
  have bound := walks.swapped_add_skipped_le
  refine ⟨last.report, out, last, by rw [run, ok], ?_, ?_, ?_, ?_⟩
  · simpa [Pass.new] using counted
  · simpa [Pass.new] using swapped
  · simpa [Pass.new, free] using built
  · simpa [Pass.new] using bound

/-- A template with a call of the loader inside, on a branch of the argument of another call, next
to an argument that a comment keeps: the call inside is copied before it is handled, and both copies
are counted. -/
theorem report_of_choices_copied :
    let config : Config := {}
    let body : List Node := [
      .call ⟨0, 40⟩ (.name {} "require")
        [.conditional 0 {} (.name {} "c")
          (.paren {} (.template 1 {}
            [⟨"./", some "./", false, {}⟩, ⟨".jpg", some ".jpg", false, {}⟩]
            [.call {} (.name {} "require") [.text 2 {} "./a.png" false] false]))
          (.text 3 {} "./b.svg" false)] false,
      .call ⟨41, 90⟩ (.name {} "require") [.text 4 ⟨49, 58⟩ "./c.png" false] false]
    let remarks : List Remark := [⟨⟨60, 77⟩, " webp-ignore "⟩]
    Numbered body 5 ∧ formedAll body = true ∧ countNodes config.isChoice body = 0 ∧
      ∃ out pass, (Pass.new 5).run config remarks body = (.ok ⟨4, 3, 1⟩, out, pass) ∧
        countCalls config.isLoaderCall out = 4 ∧ countCalls config.isChoiceCall out = 3 ∧
        countNodes config.isChoice out = 3 := by
  intro config body remarks
  have numbered : Numbered body 5 := ⟨by decide, by decide⟩
  have formed : formedAll body = true := by decide
  have free : countNodes config.isChoice body = 0 := by decide +kernel
  obtain ⟨report, out, pass, run, loaderCalls, swapped, built, -⟩ :=
    report_of_choices config remarks body 5 numbered formed free
  have outcome : ((Pass.new 5).run config remarks body).1 = .ok ⟨4, 3, 1⟩ := by
    unfold body remarks config
    rfl
  have total : ((Pass.new 5).run config remarks body).2.2.swapper.synthesized = 3 := by
    unfold body remarks config
    rfl
  rw [run] at outcome total
  cases outcome
  exact ⟨numbered, formed, free, out, pass, run, loaderCalls.symm, swapped.symm,
    built.symm.trans total⟩

end ImageFallback
