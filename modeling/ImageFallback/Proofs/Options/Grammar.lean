import ImageFallback.Swap.Config
import Mathlib.Computability.Language
import Mathlib.Data.List.Basic

/-!
# The grammar of usable options

Options are usable when they keep six rules. Two of them are about grammar: the loader is a name,
`Start Part*`, and the path of the run-time test is a dotted path of names,
`Start Part* ('.' Start Part*)*`. Both are given as languages here, with no mention of how a text is
checked. The check splits the path at its dots and looks at each part on its own, and that is the
same thing because splitting and joining undo each other and a name holds no dot
(`all_isValid_split_iff`).

The rules have an order. Options that break some are refused for the first one that they break, and
resolving options refuses exactly the same ones, for the same reason (`validate_iff`).
-/

namespace ImageFallback

/-! ## Splitting and joining -/

namespace Text

theorem map_toList_split (mark : Char) (text : String) :
    (split mark text).map String.toList = text.toList.splitOn mark := by
  rw [split, List.map_map]
  exact List.map_id'' (fun _ => String.toList_ofList) _

/-- Joining the parts of a text gives the text back. -/
theorem intercalate_split (mark : Char) (text : String) :
    String.intercalate (String.singleton mark) (split mark text) = text := by
  rw [← String.toList_inj, String.toList_intercalate, map_toList_split, String.toList_singleton,
    List.intercalate_splitOn]

end Text

/-! ## Names and paths -/

namespace Identifier

open scoped Computability

/-- The texts of one character that may start a name. -/
def start : Language Char := {w | ∃ c, w = [c] ∧ (Text.isAlphabetic c ∨ c = '_' ∨ c = '$')}

/-- The texts of one character with which a name may go on. -/
def part : Language Char :=
  {w | ∃ c, w = [c] ∧ (Text.isAlphabetic c ∨ Text.isNumeric c ∨ c = '_' ∨ c = '$')}

/-- The names. -/
def name : Language Char := start * part∗

/-- The names with dots between them. -/
def path : Language Char := name * (({['.']} : Language Char) * name)∗

theorem mem_start_iff {w : List Char} : w ∈ start ↔ ∃ c, w = [c] ∧ isStart c = true := by
  apply exists_congr
  intro c
  simp [isStart, or_assoc]

theorem mem_part_iff {w : List Char} : w ∈ part ↔ ∃ c, w = [c] ∧ isPart c = true := by
  apply exists_congr
  intro c
  simp [isPart, or_assoc]

theorem mem_kstar_part_iff {w : List Char} : w ∈ part∗ ↔ ∀ c ∈ w, isPart c = true := by
  rw [Language.mem_kstar]
  constructor
  · rintro ⟨letters, rfl, each⟩ c mem
    obtain ⟨letter, there, mem⟩ := List.mem_flatten.1 mem
    obtain ⟨d, rfl, isPart⟩ := mem_part_iff.1 (each letter there)
    rwa [List.mem_singleton.1 mem]
  · intro each
    have letters : w = (w.map fun c => [c]).flatten := by
      rw [← List.flatMap_def, List.flatMap_singleton']
    refine ⟨w.map fun c => [c], letters, fun letter mem => ?_⟩
    obtain ⟨c, there, rfl⟩ := List.mem_map.1 mem
    exact mem_part_iff.2 ⟨c, rfl, each c there⟩

/-- The check of a name accepts the language of names. -/
theorem isValid_iff {cs : List Char} : isValid cs = true ↔ cs ∈ name := by
  rw [name, Language.mem_mul]
  constructor
  · intro valid
    cases cs with
    | nil => cases valid
    | cons c rest =>
        rw [isValid, Bool.and_eq_true, List.all_eq_true] at valid
        exact ⟨[c], mem_start_iff.2 ⟨c, rfl, valid.1⟩, rest, mem_kstar_part_iff.2 valid.2, rfl⟩
  · rintro ⟨first, starts, rest, goesOn, rfl⟩
    obtain ⟨c, rfl, begins⟩ := mem_start_iff.1 starts
    rw [List.singleton_append, isValid, Bool.and_eq_true, List.all_eq_true]
    exact ⟨begins, mem_kstar_part_iff.1 goesOn⟩

theorem ne_nil_of_mem_name {cs : List Char} (h : cs ∈ name) : cs ≠ [] := by
  rintro rfl
  exact absurd (isValid_iff.2 h) (by decide)

theorem dot_not_mem_of_mem_name {cs : List Char} (h : cs ∈ name) : '.' ∉ cs := by
  have valid := isValid_iff.2 h
  cases cs with
  | nil => exact List.not_mem_nil
  | cons c rest =>
      rw [isValid, Bool.and_eq_true, List.all_eq_true] at valid
      rintro (_ | ⟨_, mem⟩)
      · exact absurd valid.1 (by decide)
      · exact absurd (valid.2 _ mem) (by decide)

theorem intercalate_cons_eq_flatten (first : List Char) (others : List (List Char)) :
    ['.'].intercalate (first :: others) = first ++ (others.map ('.' :: ·)).flatten := by
  induction others generalizing first with
  | nil => simp
  | cons second others ih =>
      rw [List.intercalate_cons_cons, ih]
      simp

theorem mem_path_iff {cs : List Char} :
    cs ∈ path ↔ ∃ names : List (List Char), names ≠ [] ∧ (∀ n ∈ names, n ∈ name) ∧
      cs = ['.'].intercalate names := by
  rw [path, Language.mem_mul]
  constructor
  · rintro ⟨first, isName, rest, more, rfl⟩
    obtain ⟨members, rfl, each⟩ := Language.mem_kstar.1 more
    have dotted : ∀ member ∈ members, '.' :: member.tail = member ∧ member.tail ∈ name := by
      intro member mem
      obtain ⟨dot, isDot, other, isName, rfl⟩ := Language.mem_mul.1 (each member mem)
      cases isDot
      exact ⟨rfl, isName⟩
    have whole : (members.map List.tail).map ('.' :: ·) = members := by
      rw [List.map_map]
      exact (List.map_congr_left fun member mem => (dotted member mem).1).trans (List.map_id _)
    refine ⟨first :: members.map List.tail, List.cons_ne_nil _ _, ?_, ?_⟩
    · rw [List.forall_mem_cons, List.forall_mem_map]
      exact ⟨isName, fun member mem => (dotted member mem).2⟩
    · rw [intercalate_cons_eq_flatten, whole]
  · rintro ⟨names, some, areNames, rfl⟩
    cases names with
    | nil => exact absurd rfl some
    | cons first others =>
        rw [List.forall_mem_cons] at areNames
        rw [intercalate_cons_eq_flatten]
        refine ⟨first, areNames.1, _, Language.join_mem_kstar fun member mem => ?_, rfl⟩
        obtain ⟨other, there, rfl⟩ := List.mem_map.1 mem
        exact Language.mem_mul.2 ⟨['.'], rfl, other, areNames.2 other there, rfl⟩

theorem all_isValid_split_iff {text : String} :
    ((Text.split '.' text).all fun part => isValid part.toList) = true ↔ text.toList ∈ path := by
  have valid : ((Text.split '.' text).all fun part => isValid part.toList) = true ↔
      ∀ part ∈ text.toList.splitOn '.', part ∈ name := by
    rw [← Text.map_toList_split, List.forall_mem_map, List.all_eq_true]
    simp only [isValid_iff]
  rw [valid, mem_path_iff]
  constructor
  · intro areNames
    exact ⟨_, List.splitOn_ne_nil '.' _, areNames, (List.intercalate_splitOn '.').symm⟩
  · rintro ⟨names, some, areNames, joined⟩
    -- No name holds a dot, so the path is split where the names were joined.
    have parts : (['.'].intercalate names).splitOn '.' = names :=
      List.splitOn_intercalate '.' (fun n mem => dot_not_mem_of_mem_name (areNames n mem)) some
    rwa [joined, parts]

end Identifier

/-! ## The rules -/

/-- The rules of usable options. -/
inductive Rule where
  | extensions
  | target
  | ignoreMarker
  | inlineMarker
  | loader
  | predicate
  deriving DecidableEq, Repr

namespace Rule

/-- The rules in the order in which they count. -/
def all : List Rule := [.extensions, .target, .ignoreMarker, .inlineMarker, .loader, .predicate]

/-- What a rule asks of options. -/
def Kept (options : Options) : Rule → Prop
  | extensions => ∀ ext ∈ options.extensions, ext ≠ ""
  | target => options.target ≠ ""
  | ignoreMarker => ∃ c ∈ options.ignoreMarker.toList, Text.isBlank c = false
  | inlineMarker => options.inlineMarker ≠ ""
  | loader => options.loader.toList ∈ Identifier.name
  | predicate => options.predicate.toList ∈ Identifier.path

/-- The violation of a rule. -/
def violation (options : Options) : Rule → Violation
  | extensions => .emptyExtension
  | target => .emptyTarget
  | ignoreMarker => .blankIgnoreMarker
  | inlineMarker => .emptyInlineMarker
  | loader => .loaderNotName options.loader
  | predicate => .predicateNotPath options.predicate

/-- The rule is the first of the list that options break. -/
def FirstBroken (options : Options) (rules : List Rule) (rule : Rule) : Prop :=
  ∃ before after, rules = before ++ rule :: after ∧ (∀ earlier ∈ before, earlier.Kept options) ∧
    ¬rule.Kept options

/-- The test of a rule. -/
def isKept (options : Options) : Rule → Bool
  | extensions => !options.extensions.any (·.isEmpty)
  | target => !options.target.isEmpty
  | ignoreMarker => !(Text.trim options.ignoreMarker).isEmpty
  | inlineMarker => !options.inlineMarker.isEmpty
  | loader => Identifier.isValid options.loader.toList
  | predicate => options.predicatePath.all fun name => Identifier.isValid name.toList

/-- Tests the rules one after the other. -/
def check (options : Options) : List Rule → Except Violation Unit
  | [] => .ok ()
  | rule :: rest =>
    if rule.isKept options then check options rest else .error (rule.violation options)

variable {options : Options}

theorem isKept_iff {rule : Rule} : rule.isKept options = true ↔ rule.Kept options := by
  cases rule with
  | extensions => simp [isKept, Kept]
  | target | inlineMarker => simp [isKept, Kept]
  | ignoreMarker => simp [isKept, Kept, Text.isEmpty_trim]
  | loader => exact Identifier.isValid_iff
  | predicate => exact Identifier.all_isValid_split_iff

theorem firstBroken_cons_of_kept {rule other : Rule} {rest : List Rule}
    (kept : rule.Kept options) :
    FirstBroken options (rule :: rest) other ↔ FirstBroken options rest other := by
  constructor
  · rintro ⟨before, after, parts, others, broken⟩
    cases before with
    | nil =>
        cases parts
        exact absurd kept broken
    | cons first before =>
        cases parts
        exact ⟨before, after, rfl, (List.forall_mem_cons.1 others).2, broken⟩
  · rintro ⟨before, after, rfl, others, broken⟩
    exact ⟨rule :: before, after, rfl, List.forall_mem_cons.2 ⟨kept, others⟩, broken⟩

theorem firstBroken_cons_of_broken {rule other : Rule} {rest : List Rule}
    (broken : ¬rule.Kept options) : FirstBroken options (rule :: rest) other ↔ other = rule := by
  constructor
  · rintro ⟨before, after, parts, others, -⟩
    cases before with
    | nil =>
        cases parts
        rfl
    | cons first before =>
        cases parts
        exact absurd (others _ List.mem_cons_self) broken
  · rintro rfl
    exact ⟨[], rest, rfl, by simp, broken⟩

theorem check_cons {rule : Rule} {rest : List Rule} {broken : Bool}
    (test : rule.isKept options = !broken) :
    check options (rule :: rest) =
      if broken then .error (rule.violation options) else check options rest := by
  rw [check, test]
  cases broken <;> rfl

theorem check_eq_ok_iff {rules : List Rule} :
    check options rules = .ok () ↔ ∀ rule ∈ rules, rule.Kept options := by
  induction rules with
  | nil => simp [check]
  | cons rule rest ih =>
      rw [check, List.forall_mem_cons, ← ih]
      by_cases kept : rule.Kept options
      · simp [isKept_iff.2 kept, kept]
      · simp [isKept_iff, kept]

/-- Options are refused for the first rule that they break. -/
theorem check_eq_error_iff {rules : List Rule} {v : Violation} :
    check options rules = .error v ↔
      ∃ rule, FirstBroken options rules rule ∧ v = rule.violation options := by
  induction rules with
  | nil => simp [check, FirstBroken]
  | cons rule rest ih =>
      rw [check]
      by_cases kept : rule.Kept options
      · simp only [isKept_iff.2 kept, if_true, ih, firstBroken_cons_of_kept kept]
      · simp only [isKept_iff, kept, if_false, Except.error.injEq, firstBroken_cons_of_broken kept,
          exists_eq_left]
        exact eq_comm

end Rule

namespace Options

/-- Options are checked rule by rule. -/
theorem validate_eq_check (options : Options) : options.validate = Rule.check options Rule.all := by
  rw [Rule.all, Rule.check_cons rfl, Rule.check_cons rfl, Rule.check_cons rfl, Rule.check_cons rfl,
    Rule.check_cons (Bool.not_not _).symm, Rule.check_cons (Bool.not_not _).symm]
  rfl

theorem validate_eq_ok_iff {options : Options} :
    options.validate = .ok () ↔ ∀ rule : Rule, rule.Kept options := by
  rw [validate_eq_check, Rule.check_eq_ok_iff]
  constructor
  · intro kept rule
    apply kept
    cases rule <;> decide
  · intro kept rule _
    exact kept rule

theorem validate_eq_error_iff {options : Options} {violation : Violation} :
    options.validate = .error violation ↔
      ∃ rule, Rule.FirstBroken options Rule.all rule ∧ violation = rule.violation options := by
  rw [validate_eq_check, Rule.check_eq_error_iff]

theorem exists_ofOptions_iff {options : Options} :
    (∃ config, Config.ofOptions options = .ok config) ↔ options.validate = .ok () := by
  rw [Config.ofOptions]
  cases options.validate with
  | error violation => simp
  | ok => simp

theorem ofOptions_eq_error_iff {options : Options} {error : SwapError} :
    Config.ofOptions options = .error error ↔
      ∃ violation, options.validate = .error violation ∧ error = .options (.schema violation) := by
  rw [Config.ofOptions]
  cases options.validate with
  | error violation => simp [eq_comm]
  | ok => simp

/-- Options pass the check exactly when they keep all rules, and fail with the violation of the
first rule that they break. Resolving them succeeds in the same cases, and fails with that violation
as its cause. -/
theorem validate_iff (options : Options) :
    (options.validate = .ok () ↔ ∀ rule : Rule, rule.Kept options) ∧
    (∀ violation, options.validate = .error violation ↔
      ∃ rule, Rule.FirstBroken options Rule.all rule ∧ violation = rule.violation options) ∧
    ((∃ config, Config.ofOptions options = .ok config) ↔ ∀ rule : Rule, rule.Kept options) ∧
    ∀ error, Config.ofOptions options = .error error ↔
      ∃ rule, Rule.FirstBroken options Rule.all rule ∧
        error = .options (.schema (rule.violation options)) := by
  refine ⟨validate_eq_ok_iff, fun _ => validate_eq_error_iff,
    exists_ofOptions_iff.trans validate_eq_ok_iff, fun error => ?_⟩
  rw [ofOptions_eq_error_iff]
  constructor
  · rintro ⟨violation, failed, rfl⟩
    obtain ⟨rule, first, rfl⟩ := validate_eq_error_iff.1 failed
    exact ⟨rule, first, rfl⟩
  · rintro ⟨rule, first, rfl⟩
    exact ⟨_, validate_eq_error_iff.2 ⟨rule, first, rfl⟩, rfl⟩

end Options

end ImageFallback
