import ImageFallback.Proofs.Tree.Identity
import ImageFallback.Swap.Swapper

/-!
# What a change of an argument can do

`Swaps config node s node' s'` is the rule form of `Swapper.swap`: it lists, one rule for each, the
ways in which a node in a state becomes another node in another state. Every rule gives the new node
and the new state in full, apart from the events, which nothing here depends on. `swap_swaps` says
that the function follows the rules, so that a fact about changed arguments is one induction with a
short case for each rule.
-/

namespace ImageFallback

open Node

namespace Visited

@[simp] theorem mem_insert (visited : Visited) (id other : NodeId) :
    other ∈ (visited.insert id).ids ↔ other = id ∨ other ∈ visited.ids := by
  unfold insert
  split
  · constructor
    · exact Or.inr
    · rintro (rfl | h)
      · assumption
      · exact h
  · simp

theorem contains_iff (visited : Visited) (node : Node) :
    visited.contains node = true ↔ ∃ id, node.id? = some id ∧ id ∈ visited.ids := by
  unfold contains
  cases node.id? <;> simp

end Visited

namespace Node

/-- A node of none of the four kinds that a change tells apart has no shape of interest. -/
theorem shape_eq_other {node : Node} (notParen : ∀ span inner, node = .paren span inner → False)
    (notText : ∀ id span value lone, node = .text id span value lone → False)
    (notTemplate : ∀ id span quasis parts, node = .template id span quasis parts → False)
    (notConditional : ∀ id span test yes no, node = .conditional id span test yes no → False) :
    node.shape = .other := by
  cases node with
  | text => exact (notText _ _ _ _ rfl).elim
  | template => exact (notTemplate _ _ _ _ rfl).elim
  | conditional => exact (notConditional _ _ _ _ _ rfl).elim
  | paren => exact (notParen _ _ rfl).elim
  | _ => rfl

/-- The shapes that are never changed have no identity. -/
theorem id?_eq_none_of_shape {node : Node} (h : node.shape = .other) : node.id? = none := by
  cases node <;> simp_all [shape, id?]

end Node

namespace Config

/-- What holds of a name and passes from an object to its members holds of the run-time test. -/
theorem supportTest_induction {motive : Node → Prop} (config : Config)
    (root : motive (.name Span.none config.predicateRoot))
    (member : ∀ (object : Node) (property : String), motive object →
      motive (.unary Span.none (.member property false) object)) :
    motive config.supportTest := by
  have chain : ∀ (members : List String) (object : Node), motive object →
      motive (members.foldl
        (fun object property => .unary Span.none (.member property false) object) object) := by
    intro members
    induction members with
    | nil => exact fun object h => h
    | cons property members ih => exact fun object h => ih _ (member object property h)
  exact chain config.predicateMembers _ root

@[simp] theorem callIds_supportTest (config : Config) : config.supportTest.callIds = [] :=
  config.supportTest_induction (motive := fun node => node.callIds = []) rfl
    fun _ _ h => by simpa [callIds] using h

/-- The node is a literal that gets a second version, or a conditional that is built anew. -/
def changes (config : Config) : Node → Bool
  | .text _ _ value _ =>
    config.shapes.string && config.extensions.isEligible config.inlineMarker [value]
  | .template _ _ quasis _ =>
    config.shapes.template &&
      config.extensions.isEligible config.inlineMarker (quasis.map Quasi.raw)
  | .conditional .. => config.shapes.conditional
  | _ => false

end Config

/-- The ways in which a node and a state become another node and another state. -/
inductive Swaps (config : Config) : Node → Swapper → Node → Swapper → Prop where
  /-- A settled node comes back as it is. -/
  | settled {node : Node} {s : Swapper} (h : s.visited.contains node = true) :
      Swaps config node s node s
  /-- So does a node of no shape that may be changed. -/
  | other {node : Node} {s : Swapper} (h : node.shape = .other) : Swaps config node s node s
  /-- Parentheses are dropped. -/
  | paren {span : Span} {inner node : Node} {s s' : Swapper} (h : inner.shape ≠ .other)
      (inside : Swaps config inner s node s') : Swaps config (.paren span inner) s node s'
  /-- What is not to be changed is settled. -/
  | kept {node : Node} {id : NodeId} {s : Swapper} (events : List Event)
      (own : node.id? = some id) (fresh : id ∉ s.visited.ids)
      (h : config.changes node = false) :
      Swaps config node s node { s with visited := s.visited.insert id, events := events }
  /-- A text gets a second version. -/
  | text {id : NodeId} {span : Span} {value : String} {lone : Bool} {s : Swapper}
      (events : List Event) (fresh : id ∉ s.visited.ids)
      (h : config.changes (.text id span value lone) = true) :
      Swaps config (.text id span value lone) s
        (.conditional (s.supply + 1) span config.supportTest
          (.text s.supply span (config.extensions.swapPath value) false)
          (.text id span value lone))
        { visited := ((s.visited.insert s.supply).insert id).insert (s.supply + 1)
          supply := s.supply + 1 + 1
          synthesized := s.synthesized + 1
          events := events }
  /-- A template gets a second version, with a copy of its expressions. -/
  | template {id : NodeId} {span : Span} {quasis : List Quasi} {parts : List Node} {s : Swapper}
      (events : List Event) (fresh : id ∉ s.visited.ids)
      (h : config.changes (.template id span quasis parts) = true) :
      Swaps config (.template id span quasis parts) s
        (.conditional (s.supply + s.supply) span config.supportTest
          (.template (s.supply + id) span (quasis.map (Swapper.swapQuasi config.extensions))
            (mapIdsAll (s.supply + ·) parts))
          (.template id span quasis parts))
        { visited := ((s.visited.insert (s.supply + id)).insert id).insert (s.supply + s.supply)
          supply := s.supply + s.supply + 1
          synthesized := s.synthesized + 1
          events := events }
  /-- A conditional is built anew from its test and its branches, changed one after the other. -/
  | conditional {id : NodeId} {span : Span} {test yes no yes' no' : Node}
      {s s₁ s₂ : Swapper} (fresh : id ∉ s.visited.ids)
      (h : config.changes (.conditional id span test yes no) = true)
      (first : Swaps config yes s yes' s₁) (second : Swaps config no s₁ no' s₂) :
      Swaps config (.conditional id span test yes no) s
        (.conditional s₂.supply span test yes' no')
        { s₂ with visited := s₂.visited.insert s₂.supply, supply := s₂.supply + 1 }

namespace Swapper

theorem swapText_swaps (config : Config) (id : NodeId) (span : Span) (value : String)
    (lone : Bool) (s : Swapper) (fresh : id ∉ s.visited.ids)
    (h : config.shapes.string = true) :
    Swaps config (.text id span value lone) s (s.swapText config id span value lone).1
      ((s.swapText config id span value lone).2.mark (s.swapText config id span value lone).1) := by
  unfold swapText
  split
  · exact Swaps.text _ fresh (by simp_all [Config.changes])
  · exact Swaps.kept _ rfl fresh (by simp_all [Config.changes])

theorem swapTemplate_swaps (config : Config) (id : NodeId) (span : Span) (quasis : List Quasi)
    (parts : List Node) (s : Swapper) (fresh : id ∉ s.visited.ids)
    (h : config.shapes.template = true) :
    Swaps config (.template id span quasis parts) s
      (s.swapTemplate config id span quasis parts).1
      ((s.swapTemplate config id span quasis parts).2.mark
        (s.swapTemplate config id span quasis parts).1) := by
  unfold swapTemplate
  split
  · exact Swaps.template _ fresh (by simp_all [Config.changes])
  · exact Swaps.kept _ rfl fresh (by simp_all [Config.changes])

/-- `Swapper.swap` follows the rules. -/
theorem swap_swaps (config : Config) (node : Node) (s : Swapper) :
    Swaps config node s (s.swap config node).1 (s.swap config node).2 := by
  unfold swap
  fun_induction swapBy Visited.contains config node s with
  | case1 span inner s h => exact Swaps.other (by simpa [shape] using h)
  | case2 span inner s h ih => exact Swaps.paren h ih
  | case3 id span value lone s node h => exact Swaps.settled h
  | case4 id span value lone s node h result =>
      have fresh : id ∉ s.visited.ids := by simpa [node, Visited.contains_iff, id?] using h
      by_cases enabled : config.shapes.string = true
      · simp only [result, if_pos enabled]
        exact swapText_swaps config id span value lone s fresh enabled
      · simp only [result, if_neg enabled]
        exact Swaps.kept s.events rfl fresh (by simp [Config.changes, enabled])
  | case5 id span quasis parts s node h => exact Swaps.settled h
  | case6 id span quasis parts s node h result =>
      have fresh : id ∉ s.visited.ids := by simpa [node, Visited.contains_iff, id?] using h
      by_cases enabled : config.shapes.template = true
      · simp only [result, if_pos enabled]
        exact swapTemplate_swaps config id span quasis parts s fresh enabled
      · simp only [result, if_neg enabled]
        exact Swaps.kept s.events rfl fresh (by simp [Config.changes, enabled])
  | case7 id span test yes no s node h => exact Swaps.settled h
  | case8 id span test yes no s node h enabled first second newId s' taken result ihYes ihNo =>
      have fresh : id ∉ s.visited.ids := by simpa [node, Visited.contains_iff, id?] using h
      cases taken
      exact Swaps.conditional fresh enabled ihYes ihNo
  | case9 id span test yes no s node h disabled =>
      have fresh : id ∉ s.visited.ids := by simpa [node, Visited.contains_iff, id?] using h
      exact Swaps.kept s.events rfl fresh (by simp_all [Config.changes])
  | case10 node s notParen notText notTemplate notConditional =>
      exact Swaps.other (shape_eq_other notParen notText notTemplate notConditional)

end Swapper

namespace Swaps

variable {config : Config} {node node' : Node} {s s' : Swapper}

/-- A change does not lead to a shape that may not be changed. -/
theorem shape_ne_other (h : Swaps config node s node' s') (shape : node.shape ≠ .other) :
    node'.shape ≠ .other := by
  induction h with
  | settled | kept => exact shape
  | other h => exact absurd h shape
  | paren h inside ih => exact ih h
  | text | template | conditional => simp [Node.shape]

/-- A node of no shape that may be changed comes back as it is. -/
theorem of_shape (h : Swaps config node s node' s') (shape : node.shape = .other) :
    node' = node ∧ s' = s := by
  cases h with
  | settled | other => exact ⟨rfl, rfl⟩
  | paren h inside => exact absurd shape h
  | kept events own fresh h => simp [id?_eq_none_of_shape shape] at own
  | text | template | conditional => simp [Node.shape] at shape

end Swaps

end ImageFallback
