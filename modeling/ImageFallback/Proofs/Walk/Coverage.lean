import ImageFallback.Proofs.Swap.Positions
import ImageFallback.Proofs.Swap.Session
import ImageFallback.Proofs.Walk.Accounts

/-!
# New paths are not changed again

A new pass knows nothing of the passes before it, so it looks at the literals that they made like at
any other. It changes a literal only if an extension occurs in it, and in a path with one extension
none occurs once the target stands there. Such a literal is given back by every change
(`Swaps.eq_of_not_eligible`), and no conditional on the run-time test falls back to it after a run
unless one did before (`Pass.fallsBackTo_run`).
-/

namespace ImageFallback

open Node Swapper

namespace Node

/-- The texts that a literal consists of, seen through the parentheses around it. -/
def fragments? : Node → Option (List String)
  | text _ _ value _ => some [value]
  | template _ _ quasis _ => some (quasis.map Quasi.raw)
  | paren _ inner => fragments? inner
  | _ => none

theorem fragments?_mapIds (f : NodeId → NodeId) (node : Node) :
    (node.mapIds f).fragments? = node.fragments? := by
  fun_induction fragments? node with
  | case1 | case2 => rfl
  | case3 span inner ih => exact ih
  | case4 node notText notTemplate notParen =>
      cases node with
      | text => exact (notText _ _ _ _ rfl).elim
      | template => exact (notTemplate _ _ _ _ rfl).elim
      | paren => exact (notParen _ _ rfl).elim
      | _ => rfl

/-- A literal has no branches. -/
theorem onBranch_of_fragments? {node : Node} {fragments : List String}
    (literal : node.fragments? = some fragments) (taken : Bool) (path : List Bool) :
    node.onBranch (taken :: path) = none := by
  fun_induction fragments? node with
  | case1 | case2 => cases taken <;> rfl
  | case3 span inner ih =>
      rw [onBranch]
      exact ih literal
  | case4 => cases literal

/-- Nodes with the same head that consist of the same texts, if they are literals. -/
def SameFragments (node other : Node) : Prop :=
  SameHead node other ∧ other.fragments? = node.fragments?

theorem sameFragments_withParts {node : Node} {ps : List Node}
    (h : List.Forall₂ SameFragments node.parts ps) : SameFragments node (node.withParts ps) := by
  refine ⟨sameHead_withParts (h.imp fun _ _ same => same.1), ?_⟩
  cases node with
  | paren span inner =>
      rcases h with _ | ⟨first, _ | _⟩
      exact first.2
  | _ => rcases ps with _ | ⟨p, _ | ⟨q, _ | ⟨r, _ | ⟨x, ps⟩⟩⟩⟩ <;> rfl

end Node

namespace Config

variable {config : Config} {fragments : List String}

/-- The node is a conditional on the run-time test that falls back to a literal of these texts. -/
def fallsBackTo (config : Config) (fragments : List String) : Node → Bool
  | .conditional _ _ test _ no => config.isSupportTest test && no.fragments? == some fragments
  | _ => false

theorem fallsBackTo_mapIds (f : NodeId → NodeId) (node : Node) :
    config.fallsBackTo fragments (node.mapIds f) = config.fallsBackTo fragments node := by
  cases node with
  | conditional id span test yes no =>
      simp only [mapIds, fallsBackTo, isSupportTest_mapIds, fragments?_mapIds]
  | _ => rfl

theorem fallsBackTo_withParts {node : Node} {ps : List Node}
    (h : List.Forall₂ SameFragments node.parts ps) :
    config.fallsBackTo fragments (node.withParts ps) = config.fallsBackTo fragments node := by
  cases node with
  | conditional id span test yes no =>
      rcases h with _ | ⟨first, _ | ⟨second, _ | ⟨third, _ | _⟩⟩⟩
      simp only [withParts, fallsBackTo, isSupportTest, first.1.path, third.2]
  | _ => rcases ps with _ | ⟨p, _ | ⟨q, _ | ⟨r, ps⟩⟩⟩ <;> rfl

theorem fallsBackTo_supportTest :
    countNodes (config.fallsBackTo fragments) [config.supportTest] = 0 :=
  config.supportTest_induction
    (motive := fun node => countNodes (config.fallsBackTo fragments) [node] = 0) rfl
    fun _ _ h => (countNodes_of_not rfl).trans h

/-- A literal of texts that are not eligible gets no second version. -/
theorem fragments?_ne_of_changes
    (barred : config.extensions.isEligible config.inlineMarker fragments = false) {node : Node}
    (h : config.changes node = true) : node.fragments? ≠ some fragments := by
  intro literal
  cases node with
  | text | template =>
      cases literal
      have eligible := (Bool.and_eq_true_iff.1 h).2
      rw [barred] at eligible
      cases eligible
  | conditional => cases literal
  | _ => cases h

end Config

/-! ## One change -/

namespace Swaps

variable {config : Config} {fragments : List String} {node node' : Node} {s s' : Swapper}

/-- The first branch of what becomes of a literal is a literal whose texts are changed. -/
theorem fragments?_onBranch (h : Swaps config node s node' s')
    (literal : node.fragments? = some fragments) {yes : Node}
    (branch : node'.onBranch [true] = some yes) :
    yes.id?.isSome = true ∧
      yes.fragments? = some (fragments.map config.extensions.swapPath) := by
  induction h with
  | settled | other | kept =>
      rw [onBranch_of_fragments? literal] at branch
      cases branch
  | paren h inside ih => exact ih literal branch
  | text events fresh h =>
      cases branch
      cases literal
      exact ⟨rfl, rfl⟩
  | template events fresh h =>
      cases branch
      cases literal
      exact ⟨rfl, by simp [fragments?, swapQuasi]⟩
  | conditional => cases literal

variable (barred : config.extensions.isEligible config.inlineMarker fragments = false)

include barred

/-- A literal of texts that are not eligible comes back as it is, and nothing is built. -/
theorem eq_of_not_eligible (h : Swaps config node s node' s') (own : node.id?.isSome = true)
    (literal : node.fragments? = some fragments) :
    node' = node ∧ s'.synthesized = s.synthesized := by
  cases h with
  | settled | other | kept => exact ⟨rfl, rfl⟩
  | paren => cases own
  | text events fresh h | template events fresh h =>
      exact absurd literal (Config.fragments?_ne_of_changes barred h)
  | conditional => cases literal

/-- Such a literal is not made of another node, and nothing is made of it. -/
theorem fragments?_eq_some_iff (h : Swaps config node s node' s') :
    node'.fragments? = some fragments ↔ node.fragments? = some fragments := by
  induction h with
  | settled | other | kept | conditional => rfl
  | paren h inside ih => exact ih
  | text events fresh h | template events fresh h =>
      exact iff_of_false (by simp [fragments?]) (Config.fragments?_ne_of_changes barred h)

/-- A change makes no conditional that falls back to such a literal, and undoes none. -/
theorem fallsBackTo_iff (h : Swaps config node s node' s') :
    countNodes (config.fallsBackTo fragments) [node'] = 0 ↔
      countNodes (config.fallsBackTo fragments) [node] = 0 := by
  induction h with
  | settled | other | kept => rfl
  | @paren span inner node s s' h inside ih =>
      have isParen : config.fallsBackTo fragments (.paren span inner) = false := rfl
      rw [countNodes_of_not isParen]
      exact ih
  | @text id span value lone s events fresh h =>
      have isText (id : NodeId) (value : String) (lone : Bool) :
          countNodes (config.fallsBackTo fragments) [.text id span value lone] = 0 :=
        countNodes_of_not rfl
      have other := Config.fragments?_ne_of_changes barred h
      rw [countNodes_conditional, isText, isText, Config.fallsBackTo_supportTest]
      simp [Config.fallsBackTo, other]
  | @template id span quasis parts s events fresh h =>
      have isTemplate (id : NodeId) (quasis : List Quasi) (parts : List Node) :
          countNodes (config.fallsBackTo fragments) [.template id span quasis parts] =
            countNodes (config.fallsBackTo fragments) parts := countNodes_of_not rfl
      have natural (node : Node) : config.fallsBackTo fragments (node.mapIds (s.supply + ·)) =
          config.fallsBackTo fragments node := Config.fallsBackTo_mapIds _ node
      have copies := countNodes_mapIdsAll natural parts
      have other := Config.fragments?_ne_of_changes barred h
      rw [countNodes_conditional, isTemplate, isTemplate, copies, Config.fallsBackTo_supportTest]
      simp [Config.fallsBackTo, other]
  | @conditional id span test yes no yes' no' s s₁ s₂ fresh h first second ihYes ihNo =>
      have same : config.fallsBackTo fragments (.conditional s₂.supply span test yes' no') =
          config.fallsBackTo fragments (.conditional id span test yes no) := by
        rw [Bool.eq_iff_iff]
        simp [Config.fallsBackTo, second.fragments?_eq_some_iff barred]
      rw [countNodes_conditional, countNodes_conditional, same]
      simp only [Nat.add_eq_zero_iff, ihYes, ihNo]

end Swaps

/-! ## A whole run -/

namespace Pass

variable {config : Config} {remarks : List Remark} {fragments : List String}

theorem Walks.sameFragments {nodes nodes' : List Node} {pass pass' : Pass}
    (h : Walks config remarks nodes pass nodes' pass') :
    List.Forall₂ SameFragments nodes nodes' :=
  h.related sameFragments_withParts fun _ _ _ _ _ _ => ⟨sameHead_call _ _ _ _ _ _ _, rfl⟩

variable (barred : config.extensions.isEligible config.inlineMarker fragments = false)

include barred

theorem Handles.fallsBackTo_iff {span : Span} {callee : Node} {arguments handled : List Node}
    {pass begun : Pass} (h : Handles config remarks span callee arguments pass handled begun) :
    countNodes (config.fallsBackTo fragments) handled = 0 ↔
      countNodes (config.fallsBackTo fragments) arguments = 0 := by
  cases h with
  | swapped ok h unmarked noSkip formed swaps =>
      rw [Config.loaderArgument?_eq_some h]
      exact swaps.fallsBackTo_iff barred
  | _ => rfl

theorem Walks.fallsBackTo_iff {nodes nodes' : List Node} {pass pass' : Pass}
    (h : Walks config remarks nodes pass nodes' pass') :
    countNodes (config.fallsBackTo fragments) nodes' = 0 ↔
      countNodes (config.fallsBackTo fragments) nodes = 0 := by
  induction h with
  | nil => rfl
  | @inert node rest inner rest' pass mid last notCall inside after ihInside ihAfter =>
      have same : config.fallsBackTo fragments (node.withParts inner) =
          config.fallsBackTo fragments node := Config.fallsBackTo_withParts inside.sameFragments
      have parts := parts_withParts node inner inside.length_eq
      rw [countNodes_cons, countNodes_cons _ node, countNodes_singleton,
        countNodes_singleton _ node, same, parts]
      simp only [Nat.add_eq_zero_iff, ihInside, ihAfter]
  | @call span callee callee' arguments handled inner rest rest' optional pass begun mid last
      handling inside after ihInside ihAfter =>
      have isCall (callee : Node) (arguments : List Node) :
          countNodes (config.fallsBackTo fragments) [.call span callee arguments optional] =
            countNodes (config.fallsBackTo fragments) (callee :: arguments) :=
        countNodes_of_not rfl
      have own := (handles_of_eq handling).fallsBackTo_iff barred
      rw [countNodes_cons _ callee] at ihInside
      rw [countNodes_cons, isCall, countNodes_cons _ (.call _ _ _ _), isCall,
        countNodes_cons _ callee]
      simp only [Nat.add_eq_zero_iff, ihInside, ihAfter, own]

/-- A run leaves a conditional that falls back to texts that are not eligible exactly when it found
one. -/
theorem fallsBackTo_run (remarks : List Remark) (body : List Node) (pass : Pass) :
    countNodes (config.fallsBackTo fragments) (pass.run config remarks body).2.1 = 0 ↔
      countNodes (config.fallsBackTo fragments) body = 0 := by
  obtain ⟨out, last, walks⟩ := exists_walks config remarks body pass
  rw [← walks.fallsBackTo_iff barred, run_eq_of_walks walks]
  split <;> rfl

end Pass

namespace Extensions

open Text

/-- A text in which no extension occurs is not eligible. -/
theorem isEligible_eq_false {extensions : Extensions} {text : String}
    (nowhere : ∀ ext ∈ extensions.recognized, ¬Occurs ext text) (marker : String) :
    extensions.isEligible marker [text] = false := by
  rw [← Bool.not_eq_true, isEligible_iff]
  rintro ⟨-, fragment, mem, found⟩
  rw [List.mem_singleton.1 mem, firstMatch_eq_none_iff.2 nowhere] at found
  cases found

/-- Among extensions that do not start one another every change takes away one position at which an
extension occurs. In a relative path with one extension it leaves none. The new branch that is made
of a literal with such a path is given back as it is by every swapper, and no run, of a new pass or
another one, makes a conditional on the run-time test around it. -/
theorem swapPath_covers (extensions : Extensions) (free : extensions.PrefixFree) :
    (∀ text, (∃ ext ∈ extensions.recognized, Occurs ext text) →
      (extensions.positions (extensions.swapPath text)).card + 1 =
        (extensions.positions text).card) ∧
    ∀ ext ∈ extensions.recognized, ∀ stem : String, '.' ∉ stem.toList →
      extensions.swapPath ("./" ++ stem ++ ext) = "./" ++ stem ++ extensions.target ∧
      (∀ other ∈ extensions.recognized, ¬Occurs other ("./" ++ stem ++ extensions.target)) ∧
      ∀ config : Config, config.extensions = extensions →
        (∀ (node yes : Node) (s s' : Swapper), node.fragments? = some ["./" ++ stem ++ ext] →
          (s.swap config node).1.onBranch [true] = some yes →
          yes.fragments? = some ["./" ++ stem ++ extensions.target] ∧
            (s'.swap config yes).1 = yes ∧
            (s'.swap config yes).2.synthesized = s'.synthesized) ∧
        ∀ (remarks : List Remark) (body : List Node) (pass : Pass),
          countNodes (config.fallsBackTo ["./" ++ stem ++ extensions.target])
              (pass.run config remarks body).2.1 = 0 ↔
            countNodes (config.fallsBackTo ["./" ++ stem ++ extensions.target]) body = 0 := by
  constructor
  · exact fun text occurs => free.card_positions_swapPath occurs
  · intro ext known stem dots
    have path := free.swapPath_path dots known
    have nowhere : ∀ other ∈ extensions.recognized,
        ¬Occurs other ("./" ++ stem ++ extensions.target) :=
      fun other known => free.not_occurs_path dots known
    refine ⟨path, nowhere, ?_⟩
    rintro config rfl
    have barred := isEligible_eq_false nowhere config.inlineMarker
    constructor
    · intro node yes s s' literal branch
      obtain ⟨own, texts⟩ := (swap_swaps config node s).fragments?_onBranch literal branch
      rw [List.map_singleton, path] at texts
      exact ⟨texts, (swap_swaps config yes s').eq_of_not_eligible barred own texts⟩
    · exact Pass.fallsBackTo_run barred

/-- Of three positions two are left. A new pass over a program that was changed before changes the
old branch once more, and not the new one. -/
theorem swapPath_covers_new_branch :
    let config : Config := {}
    let text := "./a.jpeg.png?from=.jpg"
    let old : Node := .text 0 {} "./img/löwe.jpeg" false
    let new : Node := .text 1 {} "./img/löwe.webp" false
    let argument : Node := .conditional 2 {} config.supportTest new old
    let run := (Pass.new 3).run config [] [.call {} (.name {} "require") [argument] false]
    (config.extensions.PrefixFree ∧ (∃ ext ∈ config.extensions.recognized, Occurs ext text) ∧
      (config.extensions.positions text).card = 3 ∧
      (config.extensions.positions (config.extensions.swapPath text)).card = 2) ∧
    (".jpeg" ∈ config.extensions.recognized ∧ '.' ∉ "img/löwe".toList ∧
      config.extensions.swapPath "./img/löwe.jpeg" = "./img/löwe.webp" ∧
      (Swapper.swap config old { supply := 1 }).1.onBranch [true] = some new ∧
      (Swapper.swap config new {}).1 = new) ∧
    run.1 = .ok ⟨1, 1, 0⟩ ∧
      countNodes (config.fallsBackTo ["./img/löwe.webp"]) run.2.1 = 0 := by
  intro config text old new argument run
  have occurs : ∃ ext ∈ config.extensions.recognized, Occurs ext text :=
    ⟨".png", by decide, "./a.jpeg", "?from=.jpg", rfl⟩
  have three : (config.extensions.positions text).card = 3 := by decide +kernel
  have known : ".jpeg" ∈ config.extensions.recognized := by decide
  have dots : '.' ∉ "img/löwe".toList := by decide
  have choice : (Swapper.swap config old { supply := 1 }).1 = argument := by
    unfold argument new old config
    rfl
  have branch : (Swapper.swap config old { supply := 1 }).1.onBranch [true] = some new := by
    simp [choice, argument, new, onBranch]
  have before : countNodes (config.fallsBackTo ["./img/löwe.webp"])
      [.call {} (.name {} "require") [argument] false] = 0 := by decide +kernel
  have outcome : run.1 = .ok ⟨1, 1, 0⟩ := by
    unfold run argument new old config
    rfl
  obtain ⟨fewer, covers⟩ := swapPath_covers config.extensions prefixFree_default
  obtain ⟨path, -, later⟩ := covers ".jpeg" known "img/löwe" dots
  obtain ⟨branches, runs⟩ := later config rfl
  refine ⟨⟨prefixFree_default, occurs, three, ?_⟩, ⟨known, dots, path, branch, ?_⟩, outcome,
    ?_⟩
  · exact Nat.succ.inj ((fewer text occurs).trans three)
  · exact (branches old new { supply := 1 } {} rfl branch).2.1
  · exact (runs [] _ (Pass.new 3)).2 before

end Extensions

end ImageFallback
