import ImageFallback.Syntax.Node
import Mathlib.Data.List.Basic

/-!
# The parts of a node

`node.parts` lists the parts of a node in the order of the source, and `node.withParts parts` puts
other parts into their place. Read through these two, a tree has one kind of node instead of ten:
a walk over a list of trees goes into the parts of the first tree and then on to the rest, and
`forestInduction` is the induction that follows it. A function on trees enters this picture through
one equation that says what it does to the parts.
-/

namespace ImageFallback

namespace Node

/-- The parts of a node in the order of the source. -/
def parts : Node → List Node
  | text .. => []
  | template _ _ _ parts => parts
  | conditional _ _ test yes no => [test, yes, no]
  | paren _ inner => [inner]
  | name .. => []
  | call _ callee arguments _ => callee :: arguments
  | atom .. => []
  | unary _ _ inner => [inner]
  | binary _ _ left right => [left, right]
  | group _ _ items => items

/-- The node with other parts in the place of its own. A list that is too long or too short for the
node leaves it as it is. -/
def withParts : Node → List Node → Node
  | template id span quasis _, parts => template id span quasis parts
  | conditional id span _ _ _, [test, yes, no] => conditional id span test yes no
  | paren span _, [inner] => paren span inner
  | call span _ _ optional, callee :: arguments => call span callee arguments optional
  | unary span form _, [inner] => unary span form inner
  | binary span form _ _, [left, right] => binary span form left right
  | group span form _, items => group span form items
  | node, _ => node

/-- The node is a call. -/
def isCall : Node → Bool
  | call .. => true
  | _ => false

@[simp] theorem withParts_parts (node : Node) : node.withParts node.parts = node := by
  cases node <;> rfl

theorem isCall_withParts (node : Node) (ps : List Node) :
    (node.withParts ps).isCall = node.isCall := by
  cases node <;> rcases ps with _ | ⟨p, _ | ⟨q, _ | ⟨r, _ | ⟨x, ps⟩⟩⟩⟩ <;> rfl

/-- A list of as many parts as the node has can be read back. -/
theorem parts_withParts (node : Node) (ps : List Node)
    (h : ps.length = node.parts.length) : (node.withParts ps).parts = ps := by
  cases node with
  | text | name | atom => simp_all [parts, withParts]
  | template | group => rfl
  | call span callee arguments optional =>
      cases ps with
      | nil => simp [parts] at h
      | cons p ps => rfl
  | paren | unary =>
      obtain ⟨p, rfl⟩ := List.length_eq_one_iff.1 h
      rfl
  | binary =>
      obtain ⟨p, q, rfl⟩ := List.length_eq_two.1 h
      rfl
  | conditional =>
      obtain ⟨p, q, r, rfl⟩ := List.length_eq_three.1 h
      rfl

/-- Putting parts in twice is putting in the second ones. -/
theorem withParts_withParts (node : Node) (ps qs : List Node)
    (hp : ps.length = node.parts.length) (hq : qs.length = node.parts.length) :
    (node.withParts ps).withParts qs = node.withParts qs := by
  cases node with
  | text | name | atom => rfl
  | template | group => rfl
  | call span callee arguments optional =>
      cases ps with
      | nil => simp [parts] at hp
      | cons p ps => cases qs <;> simp_all [parts, withParts]
  | paren | unary =>
      obtain ⟨p, rfl⟩ := List.length_eq_one_iff.1 hp
      obtain ⟨q, rfl⟩ := List.length_eq_one_iff.1 hq
      rfl
  | binary =>
      obtain ⟨p, p', rfl⟩ := List.length_eq_two.1 hp
      obtain ⟨q, q', rfl⟩ := List.length_eq_two.1 hq
      rfl
  | conditional =>
      obtain ⟨p, p', p'', rfl⟩ := List.length_eq_three.1 hp
      obtain ⟨q, q', q'', rfl⟩ := List.length_eq_three.1 hq
      rfl

theorem calls_eq_parts (node : Node) :
    node.calls = if node.isCall then node :: callsAll node.parts else callsAll node.parts := by
  cases node <;> simp [calls, callsAll, parts, isCall]

mutual

/-- What holds of no trees, and of a tree and the rest once it holds of the parts of the tree and of
the rest, holds of all trees. -/
theorem forestInductionOne {motive : List Node → Prop} (nil : motive [])
    (cons : ∀ node rest, motive node.parts → motive rest → motive (node :: rest)) :
    ∀ (node : Node), motive node.parts
  | text .. => nil
  | template _ _ _ parts => forestInduction nil cons parts
  | conditional _ _ test yes no =>
      cons _ _ (forestInductionOne nil cons test) (cons _ _ (forestInductionOne nil cons yes)
        (cons _ _ (forestInductionOne nil cons no) nil))
  | paren _ inner => cons _ _ (forestInductionOne nil cons inner) nil
  | name .. => nil
  | call _ callee arguments _ =>
      cons _ _ (forestInductionOne nil cons callee) (forestInduction nil cons arguments)
  | atom .. => nil
  | unary _ _ inner => cons _ _ (forestInductionOne nil cons inner) nil
  | binary _ _ left right =>
      cons _ _ (forestInductionOne nil cons left)
        (cons _ _ (forestInductionOne nil cons right) nil)
  | group _ _ items => forestInduction nil cons items

@[elab_as_elim]
theorem forestInduction {motive : List Node → Prop} (nil : motive [])
    (cons : ∀ node rest, motive node.parts → motive rest → motive (node :: rest)) :
    ∀ (nodes : List Node), motive nodes
  | [] => nil
  | node :: rest => cons node rest (forestInductionOne nil cons node)
      (forestInduction nil cons rest)

end

/-- What holds of a node once it holds of its parts holds of all nodes. -/
@[elab_as_elim]
theorem partsInduction {motive : Node → Prop}
    (step : ∀ node, (∀ part ∈ node.parts, motive part) → motive node) (node : Node) :
    motive node := by
  have each : ∀ nodes : List Node, ∀ node ∈ nodes, motive node := by
    intro nodes
    induction nodes using forestInduction with
    | nil => simp
    | cons node rest inside after => exact List.forall_mem_cons.2 ⟨step node inside, after⟩
  exact each [node] node List.mem_cons_self

/-- The induction over trees with calls apart from all other nodes. -/
@[elab_as_elim]
theorem callInduction {motive : List Node → Prop} (nil : motive [])
    (inert : ∀ node rest, node.isCall = false → motive node.parts → motive rest →
      motive (node :: rest))
    (call : ∀ span callee arguments optional rest, motive (callee :: arguments) → motive rest →
      motive (.call span callee arguments optional :: rest))
    (nodes : List Node) : motive nodes := by
  induction nodes using forestInduction with
  | nil => exact nil
  | cons node rest inside after =>
      cases hcall : node.isCall with
      | false => exact inert node rest hcall inside after
      | true =>
          cases node with
          | call => exact call _ _ _ _ _ inside after
          | _ => cases hcall

end Node

end ImageFallback
