import ImageFallback.Proofs.Meaning.Reading
import ImageFallback.Proofs.Walk.Expansion

/-!
# Exchanging paths without a choice

`Config.exchangeCalls` gives the literals in loader arguments their new paths in place: no
conditional is made, no copy, and nothing is remembered. Where the format is supported, a program
after a first run reads like the program with its paths exchanged.

The two recursions are compared node by node. Two nodes are `Alike` when they have the same head,
read the same, and still read the same after one of them was changed as a loader argument and the
literals of the other were exchanged. `Walks.anonymousAll_eq` then carries the comparison over to
the run, since identities are not read.
-/

namespace ImageFallback

open Node

namespace Config

variable (config : Config) (remarks : List Remark)

/-- The node with the literals that a change would reach exchanged for their second versions.
`branches` says whether the branches of a conditional are gone into. -/
def exchange (branches : Bool) : Node → Node
  | .text id span value lone =>
    if config.changes (.text id span value lone) then
      .text id span (config.extensions.swapPath value) false
    else .text id span value lone
  | .template id span quasis parts =>
    if config.changes (.template id span quasis parts) then
      .template id span (quasis.map (Swapper.swapQuasi config.extensions)) parts
    else .template id span quasis parts
  | .conditional id span test yes no =>
    if branches then .conditional id span test (exchange branches yes) (exchange branches no)
    else .conditional id span test yes no
  | .paren span inner => .paren span (exchange branches inner)
  | node => node

mutual

/-- The node with the literals in every loader argument exchanged that no comment keeps. -/
def exchangeCalls (branches : Bool) : Node → Node
  | .text id span value lone => .text id span value lone
  | .template id span quasis parts => .template id span quasis (exchangeCallsAll branches parts)
  | .conditional id span test yes no =>
    .conditional id span (exchangeCalls branches test) (exchangeCalls branches yes)
      (exchangeCalls branches no)
  | .paren span inner => .paren span (exchangeCalls branches inner)
  | .name span value => .name span value
  | .call span callee arguments optional =>
    .call span (exchangeCalls branches callee)
      (config.onArgument remarks (config.exchange branches) span callee
        (exchangeCallsAll branches arguments)) optional
  | .atom span value => .atom span value
  | .unary span form inner => .unary span form (exchangeCalls branches inner)
  | .binary span form left right =>
    .binary span form (exchangeCalls branches left) (exchangeCalls branches right)
  | .group span form items => .group span form (exchangeCallsAll branches items)

/-- The nodes with the literals in every loader argument exchanged that no comment keeps. -/
def exchangeCallsAll (branches : Bool) : List Node → List Node
  | [] => []
  | node :: rest => exchangeCalls branches node :: exchangeCallsAll branches rest

end

theorem exchangeCalls_of_not_call {branches : Bool} {node : Node} (h : node.isCall = false) :
    config.exchangeCalls remarks branches node =
      node.withParts (config.exchangeCallsAll remarks branches node.parts) := by
  cases node with
  | call => cases h
  | _ => simp [exchangeCalls, exchangeCallsAll, parts, withParts]

theorem length_exchangeCallsAll (branches : Bool) (nodes : List Node) :
    (config.exchangeCallsAll remarks branches nodes).length = nodes.length := by
  induction nodes with
  | nil => rfl
  | cons node rest ih => simp [exchangeCallsAll, ih]

theorem exchange_of_shape {branches : Bool} {node : Node} (h : node.shape = .other) :
    config.exchange branches node = node := by
  induction node using exchange.induct config branches with
  | case7 span inner ih => rw [exchange, ih h]
  | case8 => simp_all [exchange]
  | _ => cases h

/-! ## Identities are not read -/

theorem memberPath?_mapIds (f : NodeId → NodeId) (node : Node) :
    (node.mapIds f).memberPath? = node.memberPath? := by
  induction node using memberPath?.induct with
  | case1 => rfl
  | case2 span property object ih => simp [mapIds, memberPath?, ih]
  | case3 node => cases node <;> simp_all [mapIds, memberPath?]

theorem isSupportTest_mapIds (f : NodeId → NodeId) (node : Node) :
    config.isSupportTest (node.mapIds f) = config.isSupportTest node := by
  rw [isSupportTest, isSupportTest, memberPath?_mapIds]

theorem resolveAll_mapIdsAll (supported : Bool) (f : NodeId → NodeId) (nodes : List Node) :
    config.resolveAll supported (mapIdsAll f nodes) =
      mapIdsAll f (config.resolveAll supported nodes) := by
  induction nodes using forestInduction with
  | nil => rfl
  | cons node rest inside after =>
      rw [mapIdsAll, resolveAll, resolveAll, mapIdsAll, after]
      congr 1
      cases node with
      | conditional id span test yes no =>
          simp only [parts, mapIdsAll, resolveAll, List.cons.injEq, and_true] at inside
          simp only [mapIds, resolve, isSupportTest_mapIds, inside]
          split
          · split <;> rfl
          · rfl
      | _ => simp_all [mapIds, mapIdsAll, resolve, resolveAll, parts]

/-- Programs that are equal up to identities read the same. -/
theorem readingAll_of_anonymousAll_eq {supported : Bool} {xs ys : List Node}
    (h : anonymousAll xs = anonymousAll ys) :
    config.readingAll supported xs = config.readingAll supported ys := by
  rw [readingAll, readingAll, anonymousAll, anonymousAll, ← resolveAll_mapIdsAll,
    ← resolveAll_mapIdsAll]
  exact congrArg (config.resolveAll supported) h

/-! ## Comparing the two recursions -/

/-- The second node reads like the first, and so does the second node changed as a loader argument
like the first one with its literals exchanged. -/
structure Alike (config : Config) (node other : Node) : Prop where
  head : SameHead node other
  reading : config.reading true other = config.reading true node
  changed : config.reading true (config.plainSwap other) =
    config.reading true (config.exchange config.shapes.conditional node)

namespace Alike

variable {config}

theorem sameReading {node other : Node} (h : Alike config node other) :
    SameReading config true node other :=
  ⟨h.head.path, h.reading⟩

/-- Where no change is made, reading the same is enough. -/
theorem of_shape {node other : Node} (head : SameHead node other)
    (reading : config.reading true other = config.reading true node)
    (h : node.shape = .other) : Alike config node other := by
  refine ⟨head, reading, ?_⟩
  rw [plainSwap_of_shape config (head.shape.trans h), exchange_of_shape config h, reading]

/-- A choice reads like its first branch. -/
theorem reading_choice (id : NodeId) (span : Span) (yes no : Node) :
    config.reading true (.conditional id span config.supportTest yes no) =
      config.reading true yes := by
  simp [Config.reading, resolve, isSupportTest_supportTest]

/-- Arguments that are alike read the same once they are changed and exchanged. -/
theorem onArgument (remarks : List Remark) (span : Span) (callee : Node) {arguments arguments' : List Node}
    (h : List.Forall₂ (Alike config) arguments arguments') :
    config.readingAll true
        (config.onArgument remarks config.plainSwap span callee arguments') =
      config.readingAll true
        (config.onArgument remarks (config.exchange config.shapes.conditional) span callee
          arguments) := by
  have heads := h.imp fun _ _ alike => alike.head
  rcases config.onArgument_sameHead remarks (config.exchange config.shapes.conditional)
      config.plainSwap span callee heads with
    ⟨kept, kept'⟩ | ⟨argument, argument', rfl, rfl, changed, changed'⟩
  · rw [kept, kept', readingAll_congr (h.imp fun _ _ alike => alike.sameReading)]
  · rw [changed, changed', readingAll_cons, readingAll_cons, (List.forall₂_cons.1 h).1.changed]

/-- A node is alike with either of two lists of parts that are alike. -/
theorem withParts {node : Node} {ps qs : List Node} (length : ps.length = node.parts.length)
    (h : List.Forall₂ (Alike config) ps qs) :
    Alike config (node.withParts ps) (node.withParts qs) := by
  have heads := h.imp fun _ _ alike => alike.head
  have readings := h.imp fun _ _ alike => alike.sameReading
  have head := sameHead_withParts_withParts length heads
  have reading := reading_withParts_congr length readings
  cases node with
  | text id span value lone =>
      refine ⟨head, reading, ?_⟩
      simp only [Node.withParts, plainSwap, exchange]
      split
      · rw [reading_choice]
      · rfl
  | template id span quasis parts =>
      refine ⟨head, reading, ?_⟩
      have all := readingAll_congr readings
      have same : config.changes (.template id span quasis qs) =
          config.changes (.template id span quasis ps) := rfl
      simp only [readingAll, anonymousAll] at all
      simp only [Node.withParts, plainSwap, exchange, same]
      split
      · rw [reading_choice]
        simp only [Config.reading, resolve, anonymous, mapIds, all]
      · exact reading
  | conditional id span test yes no =>
      refine ⟨head, reading, ?_⟩
      obtain ⟨p, q, r, rfl⟩ := List.length_eq_three.1 length
      rcases h with _ | ⟨first, _ | ⟨second, _ | ⟨third, _ | _⟩⟩⟩
      simp only [Node.withParts, plainSwap, exchange]
      split
      · -- Only the test decides how a conditional is read, and no change looks at it.
        exact reading_conditional_congr first.sameReading second.changed third.changed
      · exact reading
  | paren span inner =>
      refine ⟨head, reading, ?_⟩
      obtain ⟨p, rfl⟩ := List.length_eq_one_iff.1 length
      rcases h with _ | ⟨first, _ | _⟩
      simp only [Node.withParts, plainSwap, exchange]
      split
      · rename_i shape
        rw [exchange_of_shape config (first.head.shape.symm.trans shape)]
        exact reading
      · rw [first.changed]
        rfl
  | name | call | atom | unary | binary | group =>
      refine of_shape head reading ?_
      rcases ps with _ | ⟨p, _ | ⟨q, _ | ⟨r, ps⟩⟩⟩ <;> rfl

end Alike

/-- The plain recursion and the exchange of literals give programs that are alike. -/
theorem alike_expandAll (nodes : List Node) :
    List.Forall₂ (Alike config) (config.exchangeCallsAll remarks config.shapes.conditional nodes)
      (config.expandAll remarks nodes) := by
  induction nodes using callInduction with
  | nil => simp [exchangeCallsAll, expandAll]
  | inert node rest notCall inside after =>
      rw [exchangeCallsAll, expandAll, exchangeCalls_of_not_call config remarks notCall,
        expand_of_not_call config remarks notCall]
      exact List.Forall₂.cons (Alike.withParts (length_exchangeCallsAll ..) inside) after
  | call span callee arguments optional rest inside after =>
      rw [exchangeCallsAll, expandAll] at inside
      obtain ⟨first, others⟩ := List.forall₂_cons.1 inside
      have callee' := first.reading
      have arguments' := Alike.onArgument remarks span callee others
      rw [exchangeCallsAll, expandAll, expand_call, exchangeCalls]
      refine List.Forall₂.cons (Alike.of_shape (sameHead_call _ _ _ _ _ _ _) ?_ rfl) after
      simp only [reading, readingAll, resolve, anonymous, anonymousAll, mapIds]
        at callee' arguments' ⊢
      rw [callee', arguments']

end Config

/-- Where the format is not supported, runs do not change what a program means, of whatever kinds
they are and however they end. Where it is supported, a first run that ends well comes to exchanging
the paths of literals, on the branches of conditionals if conditionals may be changed. -/
theorem reading_of_runs (config : Config) (remarks : List Remark) (body : List Node)
    (supply : NodeId) (numbered : Numbered body supply) :
    (∀ kinds : List RunKind,
      config.readingAll false ((Runs.mk body (Pass.new supply)).after config remarks kinds).body =
        config.readingAll false body) ∧
      ∀ report out pass,
        (Pass.new supply).run config remarks body = (.ok report, out, pass) →
          config.readingAll true out =
            config.readingAll true
              (config.exchangeCallsAll remarks config.shapes.conditional body) := by
  refine ⟨fun kinds => Runs.readingAll_after config remarks kinds _, ?_⟩
  intro report out pass first
  obtain ⟨walks, ok, -⟩ := Pass.walks_of_run_ok first
  have expanded := walks.anonymousAll_eq (Pass.ready_new numbered) ok
  have alike := config.alike_expandAll remarks body
  rw [config.readingAll_of_anonymousAll_eq expanded]
  exact Config.readingAll_congr (alike.imp fun _ _ h => h.sameReading)

/-- A template that exists twice after the run, with a call of the loader inside, on a branch beside
a literal that is not eligible. -/
theorem reading_of_runs_nested :
    let body : List Node := [
      .call {} (.name {} "require")
        [.conditional 0 {} (.name {} "c")
          (.paren {} (.template 1 {} [⟨"./", some "./", false, {}⟩, ⟨".jpg", some ".jpg", false, {}⟩]
            [.call {} (.name {} "require") [.text 2 {} "./a.png" false] false]))
          (.text 3 {} "./b.svg" false)] false]
    Numbered body 4 ∧
      ({} : Config).readingAll false
          ((Runs.mk body (Pass.new 4)).after {} [] [.again, .renewed, .once]).body =
        ({} : Config).readingAll false body ∧
      ∃ report out pass, (Pass.new 4).run {} [] body = (.ok report, out, pass) ∧
        ({} : Config).readingAll true out =
          ({} : Config).readingAll true (({} : Config).exchangeCallsAll [] true body) := by
  intro body
  have numbered : Numbered body 4 := ⟨by decide, by decide⟩
  obtain ⟨unsupported, supported⟩ := reading_of_runs {} [] body 4 numbered
  exact ⟨numbered, unsupported _, _, _, _, rfl, supported _ _ _ rfl⟩

/-- Conditionals that may not be changed are not gone into: a literal on a branch keeps its path. -/
theorem reading_of_branches_kept :
    let config : Config := { shapes := { conditional := false } }
    let body : List Node := [
      .call {} (.name {} "require")
        [.conditional 0 {} (.name {} "c") (.text 1 {} "./a.png" false)
          (.text 2 {} "./b.png" false)] false]
    Numbered body 3 ∧ ∃ report out pass,
      (Pass.new 3).run config [] body = (.ok report, out, pass) ∧
        config.readingAll true out ≠
          config.readingAll true (config.exchangeCallsAll [] true body) := by
  intro config body
  have exchanged : config.exchangeCallsAll [] true body = [
      .call {} (.name {} "require")
        [.conditional 0 {} (.name {} "c") (.text 1 {} "./a.webp" false)
          (.text 2 {} "./b.webp" false)] false] := by
    unfold config body
    rfl
  refine ⟨⟨by decide, by decide⟩, _, _, _, rfl, ?_⟩
  rw [exchanged]
  intro h
  injection h with call
  injection call with _ _ arguments
  injection arguments with conditional
  injection conditional with _ _ _ text
  injection text with _ _ value
  exact absurd value (by decide)

end ImageFallback
