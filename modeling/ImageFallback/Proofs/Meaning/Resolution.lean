import ImageFallback.Proofs.Meaning.Reading
import ImageFallback.Proofs.Options.Grammar
import ImageFallback.Proofs.Swap.Session

/-!
# Nothing is lost when options are resolved

Resolving options splits the path of the run-time test into its first name and the members that
follow. The names are joined again by dots, so the options can be read off the resolved ones
(`options_of_ofOptions`) and no two of them are resolved to the same. The test of a conditional on
the run-time test is the chain of member accesses along these names, and so it spells the path that
the options give (`ofOptions_loses_nothing`).
-/

namespace ImageFallback

open Node

namespace Config

/-- The options that are resolved to these. -/
def options (config : Config) : Options where
  extensions := config.extensions.recognized
  target := config.extensions.target
  ignoreMarker := config.ignoreMarker
  inlineMarker := config.inlineMarker
  shapes := config.shapes
  loader := config.loader
  predicate := String.intercalate "." (config.predicateRoot :: config.predicateMembers)

theorem memberPath?_supportTest (config : Config) :
    config.supportTest.memberPath? = some (config.predicateRoot :: config.predicateMembers) :=
  eq_of_beq config.isSupportTest_supportTest

variable {options : Options} {config : Config}

theorem ofOptions_eq_ok (h : ofOptions options = .ok config) :
    options.validate = .ok () ∧
      config = {
        extensions := { recognized := options.extensions, target := options.target }
        ignoreMarker := options.ignoreMarker
        inlineMarker := options.inlineMarker
        shapes := options.shapes
        loader := options.loader
        predicateRoot := options.predicatePath.headD ""
        predicateMembers := options.predicatePath.tail } := by
  rw [ofOptions] at h
  cases checked : options.validate with
  | error violation =>
      rw [checked] at h
      cases h
  | ok =>
      rw [checked] at h
      exact ⟨rfl, (Except.ok.inj h).symm⟩

theorem predicatePath_of_ofOptions (h : ofOptions options = .ok config) :
    options.predicatePath = config.predicateRoot :: config.predicateMembers := by
  obtain ⟨-, rfl⟩ := ofOptions_eq_ok h
  cases parts : options.predicatePath with
  | nil =>
      exact absurd parts (Text.split_ne_nil '.' options.predicate)
  | cons root members => rfl

theorem intercalate_predicatePath (options : Options) :
    String.intercalate "." options.predicatePath = options.predicate :=
  Text.intercalate_split '.' options.predicate

/-- The options can be read off the resolved ones. -/
theorem options_of_ofOptions (h : ofOptions options = .ok config) : config.options = options := by
  have path := predicatePath_of_ofOptions h
  have joined := intercalate_predicatePath options
  obtain ⟨-, rfl⟩ := ofOptions_eq_ok h
  rw [path] at joined
  rw [Config.options, joined]

theorem mem_name_of_mem_predicatePath (h : ofOptions options = .ok config) {name : String}
    (mem : name ∈ options.predicatePath) : name.toList ∈ Identifier.name := by
  have kept := Options.validate_eq_ok_iff.1 (ofOptions_eq_ok h).1 .predicate
  have valid := List.all_eq_true.1 (Rule.isKept_iff.2 kept) name mem
  exact Identifier.isValid_iff.1 valid

/-- A conditional that a change builds asks for the path that the options give, name by name, and
all other conditionals of what comes back are carried over from the tree. Two different options are
never resolved to the same. -/
theorem ofOptions_loses_nothing :
    (∀ options config, ofOptions options = .ok config → ∀ (s : Swapper) (node : Node),
      (s.swap config node).2.synthesized = s.synthesized + (s.choices config node).length ∧
      (∀ choice ∈ s.choices config node,
        (∃ path, (s.swap config node).1.onBranch path = some choice) ∧
        ∃ id span test yes no names, choice = .conditional id span test yes no ∧
          test.memberPath? = some names ∧ String.intercalate "." names = options.predicate ∧
          ∀ name ∈ names, name.toList ∈ Identifier.name ∧ name ≠ "" ∧ '.' ∉ name.toList) ∧
      ∀ other ∈ (s.swap config node).1.subtrees, other.isConditional = true →
        Carried s.supply node (s.swap config node).1 other ∨ other ∈ s.choices config node) ∧
    ∀ options other config, ofOptions options = .ok config → ofOptions other = .ok config →
      options = other := by
  constructor
  · intro options config resolved s node
    have swaps := Swapper.swap_swaps config node s
    refine ⟨swaps.builds.counted, fun choice mem => ?_, fun other => swaps.carried_or_new⟩
    obtain ⟨path, id, span, yes, no, _, form, -, found, -⟩ := swaps.stands mem
    refine ⟨⟨path, found⟩, id, span, config.supportTest, yes, no, options.predicatePath, form, ?_,
      intercalate_predicatePath options, fun name mem => ?_⟩
    · rw [memberPath?_supportTest, predicatePath_of_ofOptions resolved]
    · have isName := mem_name_of_mem_predicatePath resolved mem
      refine ⟨isName, ?_, Identifier.dot_not_mem_of_mem_name isName⟩
      rintro rfl
      exact Identifier.ne_nil_of_mem_name isName rfl
  · intro options other config resolved resolved'
    rw [← options_of_ofOptions resolved, options_of_ofOptions resolved']

/-- A path of three names, and the conditional that is built for a text. -/
theorem ofOptions_loses_no_member :
    let options : Options := { predicate := "globalThis.caps.webp" }
    let config : Config := { predicateRoot := "globalThis", predicateMembers := ["caps", "webp"] }
    let s : Swapper := { supply := 1 }
    let literal : Node := .text 0 Span.none "./a.png" false
    ofOptions options = .ok config ∧
      (∃ choice ∈ s.choices config literal, ∃ id span test yes no names,
        choice = .conditional id span test yes no ∧ test.memberPath? = some names ∧
          String.intercalate "." names = options.predicate) ∧
      ∀ other, ofOptions other = .ok config → other = options := by
  have resolved : ofOptions { predicate := "globalThis.caps.webp" } =
      .ok { predicateRoot := "globalThis", predicateMembers := ["caps", "webp"] } := rfl
  intro options config s literal
  obtain ⟨tests, same⟩ := ofOptions_loses_nothing
  have built : s.choices config literal = [(s.swap config literal).1] := by
    unfold literal s config
    rfl
  have mem : (s.swap config literal).1 ∈ s.choices config literal := by
    rw [built]
    exact List.mem_singleton_self _
  obtain ⟨-, spelled, -⟩ := tests options config resolved s literal
  obtain ⟨-, id, span, test, yes, no, names, form, path, joined, -⟩ := spelled _ mem
  exact ⟨resolved, ⟨_, mem, id, span, test, yes, no, names, form, path, joined⟩,
    fun other resolved' => same other options config resolved' resolved⟩

end Config

end ImageFallback
