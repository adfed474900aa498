import ImageFallback.Proofs.Walk.Accounts
import ImageFallback.Proofs.Walk.Renewed
import Mathlib.Algebra.BigOperators.Ring.List
import Mathlib.Algebra.Ring.Nat

/-!
# The counters and the program that a run is given

A template that gets a second version is copied together with the calls inside it, and the walk goes
into both versions. So a call is not counted once, but once for each copy: its number of copies
doubles with every template around it that gets a second version. `Config.placedCalls` lists the
calls of a program as it is given, each with the number of such templates around it, and `copies`
adds up their copies. The counters of a first run are these sums (`Walks.counts_copies`). They count
the calls of the program exactly when no call of the loader stands in such a template.

A template gets a second version when it is handed over to be changed and is eligible. What is
handed over is the argument of a call of the loader that no comment keeps, and with it what it holds
between parentheses and on its branches. A call that is met inside a copy has not been handled
before (`Ready`), so the copies of a template double whatever was counted inside it.
-/

namespace ImageFallback

open Node

namespace Node

theorem mapIdsAll_eq_map (f : NodeId → NodeId) (nodes : List Node) :
    mapIdsAll f nodes = nodes.map (mapIds f) := by
  induction nodes with
  | nil => rfl
  | cons node rest ih => rw [mapIdsAll, ih, List.map_cons]

theorem callsAll_eq_flatMap (nodes : List Node) : callsAll nodes = nodes.flatMap calls := by
  induction nodes with
  | nil => rfl
  | cons node rest ih => rw [callsAll, ih, List.flatMap_cons]

end Node

namespace Config

variable (config : Config) (remarks : List Remark)

/-- The node is a call of the loader with a comment that keeps its argument. -/
def isAnnotated (node : Node) : Bool := config.skipTest? remarks node == some true

/-- The node is a call of the loader whose argument is handed over to be changed. -/
def handsOver (node : Node) : Bool := config.skipTest? remarks node == some false

/-- The node is a template that gets a second version once it is handed over. -/
def doubles : Node → Bool
  | .template id span quasis parts => config.changes (.template id span quasis parts)
  | _ => false

/-- The parts of a node, each with whether it is handed over in turn. -/
def handing (handed : Bool) : Node → List (Bool × Node)
  | .conditional _ _ test yes no =>
    [(false, test), (handed && config.shapes.conditional, yes),
      (handed && config.shapes.conditional, no)]
  | .paren _ inner => [(handed, inner)]
  | .call span callee arguments optional =>
    (false, callee) ::
      arguments.map (config.handsOver remarks (.call span callee arguments optional), ·)
  | node => node.parts.map (false, ·)

mutual

/-- The calls of a node in the order of a walk, each with the number of templates around it that get
a second version. There are `around` of them around the node, and `handed` says that the node is
handed over to be changed. -/
def placedCalls (handed : Bool) (around : Nat) : Node → List (Node × Nat)
  | .text .. => []
  | .template id span quasis parts =>
    placedCallsAll false
      (around + if handed && config.doubles (.template id span quasis parts) then 1 else 0) parts
  | .conditional _ _ test yes no =>
    placedCalls false around test ++
      (placedCalls (handed && config.shapes.conditional) around yes ++
        placedCalls (handed && config.shapes.conditional) around no)
  | .paren _ inner => placedCalls handed around inner
  | .name .. => []
  | .call span callee arguments optional =>
    (.call span callee arguments optional, around) ::
      (placedCalls false around callee ++
        placedCallsAll (config.handsOver remarks (.call span callee arguments optional)) around
          arguments)
  | .atom .. => []
  | .unary _ _ inner => placedCalls false around inner
  | .binary _ _ left right => placedCalls false around left ++ placedCalls false around right
  | .group _ _ items => placedCallsAll false around items

/-- The calls of the nodes in the order of a walk, each with the number of templates around it that
get a second version. -/
def placedCallsAll (handed : Bool) (around : Nat) : List Node → List (Node × Nat)
  | [] => []
  | node :: rest => placedCalls handed around node ++ placedCallsAll handed around rest

end

/-- The copies of the calls of which `p` holds: twice as many for each template around a call that
gets a second version. -/
def copies (p : Node → Bool) (placed : List (Node × Nat)) : Nat :=
  (placed.map fun entry => if p entry.1 then 2 ^ entry.2 else 0).sum

/-- The copies of the calls of a program of which `p` holds. -/
def countCopies (p : Node → Bool) (nodes : List Node) : Nat :=
  copies p (config.placedCallsAll remarks false 0 nodes)

/-! ## The calls and their places -/

theorem placedCallsAll_eq_flatMap (handed : Bool) (around : Nat) (nodes : List Node) :
    config.placedCallsAll remarks handed around nodes =
      nodes.flatMap (config.placedCalls remarks handed around) := by
  induction nodes with
  | nil => rfl
  | cons node rest ih => rw [placedCallsAll, ih, List.flatMap_cons]

theorem placedCalls_eq_handing (handed : Bool) (around : Nat) (node : Node) :
    config.placedCalls remarks handed around node =
      (if node.isCall then [(node, around)] else []) ++
        (config.handing remarks handed node).flatMap fun part =>
          config.placedCalls remarks part.1
            (around + if handed && config.doubles node then 1 else 0) part.2 := by
  cases node <;>
    simp [placedCalls, handing, doubles, parts, isCall, placedCallsAll_eq_flatMap, List.flatMap_map]

theorem placedCalls_of_not_call (around : Nat) {node : Node} (notCall : node.isCall = false) :
    config.placedCalls remarks false around node =
      config.placedCallsAll remarks false around node.parts := by
  cases node with
  | call => cases notCall
  | _ => simp [placedCalls, placedCallsAll, parts]

theorem map_snd_handing (handed : Bool) (node : Node) :
    (config.handing remarks handed node).map Prod.snd = node.parts := by
  cases node <;> simp [handing, parts, Function.comp_def]

theorem mem_parts_of_mem_handing {handed : Bool} {node : Node} {part : Bool × Node}
    (mem : part ∈ config.handing remarks handed node) : part.2 ∈ node.parts := by
  rw [← config.map_snd_handing remarks handed node]
  exact List.mem_map_of_mem mem

theorem isLoaderCall_mapIds (f : NodeId → NodeId) (node : Node) :
    config.isLoaderCall (node.mapIds f) = config.isLoaderCall node := by
  simp [isLoaderCall, loaderArgumentOf?_mapIds]

theorem isAnnotated_mapIds (f : NodeId → NodeId) (node : Node) :
    config.isAnnotated remarks (node.mapIds f) = config.isAnnotated remarks node := by
  rw [isAnnotated, skipTest?_mapIds, isAnnotated]

theorem handsOver_mapIds (f : NodeId → NodeId) (node : Node) :
    config.handsOver remarks (node.mapIds f) = config.handsOver remarks node := by
  rw [handsOver, skipTest?_mapIds, handsOver]

theorem doubles_mapIds (f : NodeId → NodeId) (node : Node) :
    config.doubles (node.mapIds f) = config.doubles node := by
  cases node <;> rfl

theorem handing_mapIds (f : NodeId → NodeId) (handed : Bool) (node : Node) :
    config.handing remarks handed (node.mapIds f) =
      (config.handing remarks handed node).map (Prod.map id (mapIds f)) := by
  cases node with
  | call span callee arguments optional =>
      have same := config.handsOver_mapIds remarks f (.call span callee arguments optional)
      rw [mapIds, mapIdsAll_eq_map] at same
      simp [mapIds, handing, same, mapIdsAll_eq_map, Function.comp_def]
  | _ => simp [mapIds, handing, parts, mapIdsAll_eq_map, Function.comp_def]

/-- The calls that have a place are the calls of the program. -/
theorem map_fst_placedCalls (handed : Bool) (around : Nat) (node : Node) :
    (config.placedCalls remarks handed around node).map Prod.fst = node.calls := by
  induction node using partsInduction generalizing handed around with
  | step node ih =>
      have inside : (config.handing remarks handed node).flatMap (fun part =>
          (config.placedCalls remarks part.1
            (around + if handed && config.doubles node then 1 else 0) part.2).map Prod.fst) =
          callsAll node.parts := by
        rw [callsAll_eq_flatMap, ← config.map_snd_handing remarks handed node, List.flatMap_map]
        exact List.flatMap_congr fun part mem =>
          ih part.2 (config.mem_parts_of_mem_handing remarks mem) _ _
      rw [placedCalls_eq_handing, calls_eq_parts, List.map_append, List.map_flatMap, inside]
      split <;> rfl

theorem map_fst_placedCallsAll (nodes : List Node) :
    (config.placedCallsAll remarks false 0 nodes).map Prod.fst = callsAll nodes := by
  rw [placedCallsAll_eq_flatMap, callsAll_eq_flatMap, List.map_flatMap]
  exact List.flatMap_congr fun node _ => config.map_fst_placedCalls remarks false 0 node

/-- Other identities, and more templates around, change nothing else about the calls. -/
theorem placedCalls_mapIds (f : NodeId → NodeId) (handed : Bool) (around more : Nat) (node : Node) :
    config.placedCalls remarks handed (around + more) (node.mapIds f) =
      (config.placedCalls remarks handed around node).map fun entry =>
        (entry.1.mapIds f, entry.2 + more) := by
  induction node using partsInduction generalizing handed around with
  | step node ih =>
      rw [placedCalls_eq_handing, placedCalls_eq_handing, handing_mapIds, doubles_mapIds,
        isCall_mapIds, List.map_append, List.map_flatMap, List.flatMap_map]
      congr 1
      · split <;> rfl
      · refine List.flatMap_congr fun part mem => ?_
        rw [Nat.add_right_comm]
        exact ih part.2 (config.mem_parts_of_mem_handing remarks mem) _ _

/-! ## Counting copies -/

theorem copies_cons (p : Node → Bool) (node : Node) (around : Nat) (rest : List (Node × Nat)) :
    copies p ((node, around) :: rest) = (if p node then 2 ^ around else 0) + copies p rest := by
  simp [copies]

theorem copies_append (p : Node → Bool) (xs ys : List (Node × Nat)) :
    copies p (xs ++ ys) = copies p xs + copies p ys := by
  simp [copies]

theorem copies_moved {p : Node → Bool} {f : NodeId → NodeId}
    (natural : ∀ node, p (node.mapIds f) = p node) (handed : Bool) (around more : Nat)
    (nodes : List Node) :
    copies p (config.placedCallsAll remarks handed (around + more) (mapIdsAll f nodes)) =
      2 ^ more * copies p (config.placedCallsAll remarks handed around nodes) := by
  have moved : config.placedCallsAll remarks handed (around + more) (mapIdsAll f nodes) =
      (config.placedCallsAll remarks handed around nodes).map fun entry =>
        (entry.1.mapIds f, entry.2 + more) := by
    rw [placedCallsAll_eq_flatMap, placedCallsAll_eq_flatMap, List.map_flatMap, mapIdsAll_eq_map,
      List.flatMap_map]
    exact List.flatMap_congr fun node _ =>
      config.placedCalls_mapIds remarks f handed around more node
  rw [moved, copies, copies, List.map_map, ← List.sum_map_mul_left]
  congr 2
  funext entry
  simp [natural, pow_add, mul_comm]

theorem copies_congr {p : Node → Bool} (natural : ∀ f node, p (node.mapIds f) = p node)
    (handed : Bool) (around : Nat) {xs ys : List Node} (same : anonymousAll xs = anonymousAll ys) :
    copies p (config.placedCallsAll remarks handed around xs) =
      copies p (config.placedCallsAll remarks handed around ys) := by
  have moved := config.copies_moved remarks (natural fun _ => 0) handed around 0
  simp only [Nat.add_zero, Nat.pow_zero, Nat.one_mul] at moved
  rw [← moved xs, ← moved ys]
  exact congrArg (fun nodes => copies p (config.placedCallsAll remarks handed around nodes)) same

/-- One more template around makes twice as many copies. -/
theorem copies_succ {p : Node → Bool} (natural : ∀ f node, p (node.mapIds f) = p node)
    (handed : Bool) (around : Nat) (nodes : List Node) :
    copies p (config.placedCallsAll remarks handed (around + 1) nodes) =
      2 * copies p (config.placedCallsAll remarks handed around nodes) := by
  rw [← config.copies_congr remarks natural handed _ (anonymousAll_mapIdsAll (fun _ => 0) nodes),
    copies_moved config remarks (natural _), Nat.pow_one]

theorem countP_le_copies (p : Node → Bool) (placed : List (Node × Nat)) :
    (placed.map Prod.fst).countP p ≤ copies p placed := by
  induction placed with
  | nil => simp [copies]
  | cons entry rest ih =>
      have pos : 1 ≤ 2 ^ entry.2 := Nat.one_le_two_pow
      rw [copies_cons, List.map_cons, List.countP_cons]
      split <;> omega

/-- There are as many copies as calls exactly when no call is copied. -/
theorem copies_eq_countP_iff (p : Node → Bool) (placed : List (Node × Nat)) :
    copies p placed = (placed.map Prod.fst).countP p ↔
      ∀ entry ∈ placed, p entry.1 = true → entry.2 = 0 := by
  induction placed with
  | nil => simp [copies]
  | cons entry rest ih =>
      have le := countP_le_copies p rest
      have pos : 1 ≤ 2 ^ entry.2 := Nat.one_le_two_pow
      have one : 2 ^ entry.2 = 1 ↔ entry.2 = 0 := by simp
      rw [copies_cons, List.map_cons, List.countP_cons, List.forall_mem_cons, ← ih, ← one]
      cases p entry.1 <;> simp only [if_true, if_false, Bool.false_eq_true, false_implies,
        true_implies, true_and] <;> omega

/-! ## What a change does to the copies -/

/-- A node of no shape that may be changed may as well not be handed over. -/
theorem placedCalls_of_shape {node : Node} (other : node.shape = .other) (handed : Bool)
    (around : Nat) :
    config.placedCalls remarks handed around node =
      config.placedCalls remarks false around node := by
  induction node using shape.induct with
  | case4 span inner ih => exact ih other
  | case5 node notText notTemplate notConditional notParen =>
      cases node with
      | text | template | conditional => cases other
      | paren => exact (notParen _ _ rfl).elim
      | _ => simp [placedCalls]
  | _ => cases other

@[simp] theorem placedCalls_supportTest (around : Nat) :
    config.placedCalls remarks false around config.supportTest = [] :=
  config.supportTest_induction
    (motive := fun node => config.placedCalls remarks false around node = []) rfl
    fun _ _ h => by simpa [placedCalls] using h

/-- Handing a node over to be changed gives its calls the copies that the changed node has. -/
theorem copies_plainSwap {p : Node → Bool} (natural : ∀ f node, p (node.mapIds f) = p node)
    (around : Nat) (node : Node) :
    copies p (config.placedCalls remarks false around (config.plainSwap node)) =
      copies p (config.placedCalls remarks true around node) := by
  induction node using plainSwap.induct config with
  | case1 span inner h =>
      rw [plainSwap, if_pos h, placedCalls, placedCalls, config.placedCalls_of_shape remarks h true]
  | case2 span inner h ih => rw [plainSwap, if_neg h, ih, placedCalls]
  | case3 id span value lone h => simp [plainSwap, h, placedCalls]
  | case4 id span value lone h => simp [plainSwap, h, placedCalls]
  | case5 id span quasis parts h =>
      have twice := config.copies_succ remarks natural false around parts
      simp [plainSwap, h, placedCalls, doubles, copies_append, twice, Nat.two_mul]
  | case6 id span quasis parts h => simp [plainSwap, h, placedCalls, doubles]
  | case7 id span test yes no h ihYes ihNo =>
      simp [plainSwap, h, placedCalls, copies_append, ihYes, ihNo]
  | case8 id span test yes no h => simp [plainSwap, h, placedCalls]
  | case9 node notParen notText notTemplate notConditional =>
      have other := shape_eq_other notParen notText notTemplate notConditional
      rw [plainSwap_of_shape config other, config.placedCalls_of_shape remarks other true]

theorem copies_onArgument {p : Node → Bool} (natural : ∀ f node, p (node.mapIds f) = p node)
    (around : Nat) (span : Span) (callee : Node) (arguments : List Node) (optional : Bool) :
    copies p (config.placedCallsAll remarks false around
        (config.onArgument remarks config.plainSwap span callee arguments)) =
      copies p (config.placedCallsAll remarks
        (config.handsOver remarks (.call span callee arguments optional)) around arguments) := by
  rw [onArgument, handsOver, skipTest?, loaderArgumentOf?]
  cases found : config.loaderArgument? callee arguments with
  | none => rfl
  | some argument =>
      cases skip : config.isIgnored remarks argument span with
      | true => simp [skip, Node.span]
      | false =>
          cases loaderArgument?_eq_some found
          simp [skip, Node.span, placedCallsAll, config.copies_plainSwap remarks natural]

end Config

namespace Pass

variable {config : Config} {remarks : List Remark}

/-- A counter that goes up by one with each call of which `p` holds, as it is handled, ends up with
the copies of the calls of which `p` holds. -/
theorem Walks.counts_copies {p : Node → Bool} {count : Report → Nat}
    (natural : ∀ f node, p (node.mapIds f) = p node)
    (step : ∀ {span callee arguments optional rest pass handled begun},
      Ready (.call span callee arguments optional :: rest) pass →
      Handles config remarks span callee arguments pass handled begun → begun.error = none →
      count begun.report =
        count pass.report + if p (.call span callee arguments optional) then 1 else 0)
    {nodes nodes' : List Node} {pass pass' : Pass}
    (h : Walks config remarks nodes pass nodes' pass') (ready : Ready nodes pass)
    (ok : pass'.error = none) :
    count pass'.report = count pass.report + config.countCopies remarks p nodes := by
  induction h with
  | nil => rfl
  | @inert node rest inner rest' pass mid last notCall inside after ihInside ihAfter =>
      have first := ihInside (ready.inert notCall) (after.error_eq_none ok)
      have second := ihAfter (ready.after_inert notCall inside) ok
      rw [second, first, Config.countCopies, Config.countCopies, Config.countCopies,
        Config.placedCallsAll, Config.copies_append, Config.placedCalls_of_not_call _ _ _ notCall,
        Nat.add_assoc]
  | @call span callee callee' arguments handled inner rest rest' optional pass begun mid last
      handling inside after ihInside ihAfter =>
      have handles := handles_of_eq handling
      have midOk := after.error_eq_none ok
      have begunOk := inside.error_eq_none midOk
      have own := step ready handles begunOk
      have first := ihInside (ready.call handles) midOk
      have second := ihAfter (ready.after_call handles inside) ok
      have plain := ready.anonymousAll_handled handles begunOk
      have copied := (config.copies_congr remarks natural false 0 plain).trans
        (config.copies_onArgument remarks natural 0 span callee arguments optional)
      simp only [Config.countCopies, Config.placedCallsAll, Config.copies_append] at first second ⊢
      rw [second, first, own, copied, Config.placedCalls, Config.copies_cons, Config.copies_append,
        Nat.pow_zero]
      omega

/-- Handling a call that a walk is ready for without an error counts it if it is one of the loader,
and counts its argument as kept if a comment keeps it. -/
theorem Ready.counts {span : Span} {callee : Node} {arguments handled rest : List Node}
    {optional : Bool} {pass begun : Pass}
    (ready : Ready (.call span callee arguments optional :: rest) pass)
    (handles : Handles config remarks span callee arguments pass handled begun)
    (ok : begun.error = none) :
    begun.report.loaderCalls = pass.report.loaderCalls +
        (if config.isLoaderCall (.call span callee arguments optional) then 1 else 0) ∧
      begun.report.skipped = pass.report.skipped +
        if config.isAnnotated remarks (.call span callee arguments optional) then 1 else 0 := by
  rw [Config.isLoaderCall, Config.isAnnotated, Config.skipTest?, Config.loaderArgumentOf?]
  cases handles with
  | failed h => simp [ok] at h
  | foreign _ h => simp [h]
  | settled _ h marked => simp [ready.not_contains h] at marked
  | ignored _ _ h _ skip => simp [h, skip, Node.span]
  | malformed => cases ok
  | swapped _ h _ noSkip => simp [h, noSkip, Node.span]

end Pass

/-- The first run of a new pass over a program with distinct identities and well-formed templates
ends well. It reports every call of the loader in the program as it is given once for each of its
copies, and as changed at most the copies that no comment keeps. It reports as many calls as there
are in the program exactly when no call of the loader stands in a template that gets a second
version, and then at most as many are changed as no comment keeps. -/
theorem report_of_source (config : Config) (remarks : List Remark) (body : List Node)
    (supply : NodeId) (numbered : Numbered body supply) (formed : formedAll body = true) :
    (config.placedCallsAll remarks false 0 body).map Prod.fst = callsAll body ∧
    ∃ report out pass, (Pass.new supply).run config remarks body = (.ok report, out, pass) ∧
      report.loaderCalls = config.countCopies remarks config.isLoaderCall body ∧
      report.skipped = config.countCopies remarks (config.isAnnotated remarks) body ∧
      report.swapped + config.countCopies remarks (config.isAnnotated remarks) body ≤
        config.countCopies remarks config.isLoaderCall body ∧
      countCalls config.isLoaderCall body ≤ report.loaderCalls ∧
      (report.loaderCalls = countCalls config.isLoaderCall body ↔
        ∀ placed ∈ config.placedCallsAll remarks false 0 body,
          config.isLoaderCall placed.1 = true → placed.2 = 0) ∧
      (report.loaderCalls = countCalls config.isLoaderCall body →
        report.swapped + countCalls (config.isAnnotated remarks) body ≤
          countCalls config.isLoaderCall body) := by
  have calls := config.map_fst_placedCallsAll remarks body
  obtain ⟨out, last, walks⟩ := Pass.exists_walks config remarks body (Pass.new supply)
  have ready := Pass.ready_new numbered
  have ok := walks.ok_of_formed ready formed rfl
  have loaderCalls := walks.counts_copies config.isLoaderCall_mapIds
    (fun ready handles ok => (ready.counts handles ok).1) ready ok
  have skipped := walks.counts_copies (config.isAnnotated_mapIds remarks)
    (fun ready handles ok => (ready.counts handles ok).2) ready ok
  have bound := walks.swapped_add_skipped_le
  simp only [Pass.new, Nat.zero_add] at loaderCalls skipped bound
  rw [skipped, loaderCalls] at bound
  have le (p : Node → Bool) : countCalls p body ≤ config.countCopies remarks p body := by
    rw [countCalls, ← calls]
    exact Config.countP_le_copies p _
  refine ⟨calls, last.report, out, last, ?_, loaderCalls, skipped, bound, ?_, ?_, fun equal => ?_⟩
  · rw [Pass.run_eq_of_walks walks, ok]
  · rw [loaderCalls]
    exact le _
  · rw [loaderCalls, Config.countCopies, ← Config.copies_eq_countP_iff, calls, countCalls]
  · rw [← equal, loaderCalls]
    exact Nat.le_trans (Nat.add_le_add_left (le _) _) bound

/-- A template in a template, with a call of the loader whose argument a comment keeps inside both:
the call has four copies, the one around it two. -/
theorem report_of_source_nested :
    let config : Config := {}
    let remarks : List Remark := [⟨⟨50, 67⟩, " webp-ignore "⟩]
    let quasis : List Quasi := [⟨"./", some "./", false, {}⟩, ⟨".png", some ".png", false, {}⟩]
    let inner : Node :=
      .call ⟨31, 68⟩ (.name ⟨31, 38⟩ "require") [.text 2 ⟨39, 48⟩ "./a.png" false] false
    let middle : Node :=
      .call ⟨13, 78⟩ (.name ⟨13, 20⟩ "require") [.template 1 ⟨21, 77⟩ quasis [inner]] false
    let outer : Node :=
      .call ⟨0, 88⟩ (.name ⟨0, 7⟩ "require") [.template 0 ⟨8, 87⟩ quasis [middle]] false
    Numbered [outer] 3 ∧ formedAll [outer] = true ∧
      config.placedCallsAll remarks false 0 [outer] = [(outer, 0), (middle, 1), (inner, 2)] ∧
      ∃ report out pass, (Pass.new 3).run config remarks [outer] = (.ok report, out, pass) ∧
        report.loaderCalls = 7 ∧ report.skipped = 4 ∧ report.swapped ≤ 3 ∧
        report.loaderCalls ≠ countCalls config.isLoaderCall [outer] := by
  intro config remarks quasis inner middle outer
  have numbered : Numbered [outer] 3 := ⟨by decide, by decide⟩
  have formed : formedAll [outer] = true := by decide
  have placed : config.placedCallsAll remarks false 0 [outer] =
      [(outer, 0), (middle, 1), (inner, 2)] := by
    unfold outer middle inner quasis remarks config
    rfl
  obtain ⟨-, report, out, pass, run, loaderCalls, skipped, bound, -, iff, -⟩ :=
    report_of_source config remarks [outer] 3 numbered formed
  have loaders : config.countCopies remarks config.isLoaderCall [outer] = 7 := by
    unfold outer middle inner quasis remarks config
    rfl
  have annotated : config.countCopies remarks (config.isAnnotated remarks) [outer] = 4 := by
    unfold outer middle inner quasis remarks config
    rfl
  rw [loaders] at loaderCalls bound
  rw [annotated] at skipped bound
  refine ⟨numbered, formed, placed, report, out, pass, run, loaderCalls, skipped, by omega, ?_⟩
  intro equal
  have zero : 1 = 0 := iff.1 equal (middle, 1) (by rw [placed]; simp) rfl
  cases zero

/-- A call of the loader in the template of another one: there are two calls and three are
reported. -/
theorem loader_call_reported_twice :
    let config : Config := {}
    let body : List Node := [
      .call {} (.name {} "require")
        [.template 0 {} [⟨"./", some "./", false, {}⟩, ⟨".png", some ".png", false, {}⟩]
          [.call {} (.name {} "require") [.text 1 {} "./a.png" false] false]] false]
    Numbered body 2 ∧ formedAll body = true ∧
      ((Pass.new 2).run config [] body).1 = .ok ⟨3, 3, 0⟩ ∧
      countCalls config.isLoaderCall body = 2 ∧
      countCalls (config.isAnnotated []) body = 0 := by
  intro config body
  refine ⟨⟨by decide, by decide⟩, by decide, ?_, rfl, rfl⟩
  unfold body config
  rfl

end ImageFallback
