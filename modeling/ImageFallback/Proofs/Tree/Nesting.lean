import ImageFallback.Proofs.Tree.Parts

/-!
# Spans that nest

A parser gives a node the stretch of source text that it was read from. The parts of the node were
read from stretches inside this one, each from its own, and so were the statements of a program.
`laidOut` says this of trees that stand side by side: no two of them overlap, and the parts of each
lie inside its span and are laid out in turn. Spans without text overlap nothing.
-/

namespace ImageFallback

namespace Span

/-- The span lies inside another one. -/
def within (inner outer : Span) : Bool :=
  outer.start ≤ inner.start && inner.start ≤ inner.stop && inner.stop ≤ outer.stop

/-- Some text lies in both spans. -/
def overlaps (span other : Span) : Bool := max span.start other.start < min span.stop other.stop

theorem within_iff {inner outer : Span} :
    inner.within outer = true ↔
      outer.start ≤ inner.start ∧ inner.start ≤ inner.stop ∧ inner.stop ≤ outer.stop := by
  simp [within, and_assoc]

theorem within_trans {inner middle outer : Span} (h : inner.within middle = true)
    (h' : middle.within outer = true) : inner.within outer = true := by
  rw [within_iff] at h h' ⊢
  omega

/-- Spans that hold the same text overlap. -/
theorem overlaps_of_within {common span other : Span} (real : common.start < common.stop)
    (h : common.within span = true) (h' : common.within other = true) :
    span.overlaps other = true := by
  rw [within_iff] at h h'
  simp only [overlaps, decide_eq_true_eq]
  omega

end Span

namespace Node

/-- The parts of a node that have spans of their own. The list of arguments of a construction has
none in the source, so the arguments stand for themselves. -/
def children : Node → List Node
  | binary _ .construct callee (group _ .arguments arguments) => callee :: arguments
  | node => node.parts

/-- All nodes lie inside the span. -/
def lieIn (outer : Span) (nodes : List Node) : Bool := nodes.all fun node => node.span.within outer

/-- No two of the nodes overlap. -/
def apart : List Node → Bool
  | [] => true
  | node :: rest => rest.all (fun other => !node.span.overlaps other.span) && apart rest

mutual

/-- The parts of the node, and of all nodes inside it, lie inside the node and do not overlap. -/
def nests : Node → Bool
  | text .. => true
  | template _ span _ parts => lieIn span parts && (apart parts && nestsEach parts)
  | conditional _ span test yes no =>
    lieIn span [test, yes, no] &&
      (apart [test, yes, no] && (nests test && (nests yes && nests no)))
  | paren span inner => lieIn span [inner] && nests inner
  | name .. => true
  | call span callee arguments _ =>
    lieIn span (callee :: arguments) &&
      (apart (callee :: arguments) && (nests callee && nestsEach arguments))
  | atom .. => true
  | unary span _ inner => lieIn span [inner] && nests inner
  | binary span .construct callee (group _ .arguments arguments) =>
    lieIn span (callee :: arguments) &&
      (apart (callee :: arguments) && (nests callee && nestsEach arguments))
  | binary span _ left right =>
    lieIn span [left, right] && (apart [left, right] && (nests left && nests right))
  | group span _ items => lieIn span items && (apart items && nestsEach items)

/-- So do the parts of each of the nodes. -/
def nestsEach : List Node → Bool
  | [] => true
  | node :: rest => nests node && nestsEach rest

end

/-- The nodes do not overlap, and the parts of each lie inside it and do not overlap in turn. -/
def laidOut (nodes : List Node) : Bool := apart nodes && nestsEach nodes

/-- The parts of a form with two parts, unless it is a construction with its arguments. -/
theorem children_binary {form : BinaryForm} {left right : Node} (outer : Span)
    (h : ∀ inner arguments, form = .construct → right = group inner .arguments arguments → False) :
    (binary outer form left right).children = [left, right] := by
  unfold children
  split
  · rename_i eq
    cases eq
    exact (h _ _ rfl rfl).elim
  · rfl

theorem nests_eq_children (node : Node) :
    node.nests = (lieIn node.span node.children && laidOut node.children) := by
  unfold nests
  split
  case h_10 outer form left right other =>
    rw [children_binary outer other]
    simp [nestsEach, laidOut, apart, span]
  all_goals simp [children, parts, nestsEach, laidOut, apart, lieIn, span]

/-- A construction with its arguments has the calls of the arguments. -/
theorem callsAll_children (node : Node) : callsAll node.children = callsAll node.parts := by
  unfold children
  split
  · simp [callsAll, calls, parts]
  · rfl

/-- Induction over trees that goes into the parts with spans of their own. -/
@[elab_as_elim]
theorem childInduction {motive : List Node → Prop} (nil : motive [])
    (cons : ∀ node rest, motive node.children → motive rest → motive (node :: rest))
    (nodes : List Node) : motive nodes := by
  -- A construction needs the claim for the parts of its list of arguments as well.
  have both : motive nodes ∧ ∀ node ∈ nodes, motive node.children := by
    induction nodes using forestInduction with
    | nil => exact ⟨nil, by simp⟩
    | cons node rest inside after =>
        have inNode : motive node.children := by
          unfold children
          split
          · rename_i callee _ arguments
            have inCallee := inside.2 callee (by simp [parts])
            have inList := inside.2 _ (List.mem_cons_of_mem _ List.mem_cons_self)
            exact cons callee arguments inCallee inList
          · exact inside.1
        exact ⟨cons node rest inNode after.1, by simpa using ⟨inNode, after.2⟩⟩
  exact both.1

theorem laidOut_cons {node : Node} {rest : List Node} :
    laidOut (node :: rest) = true ↔
      (∀ part ∈ node.children, part.span.within node.span = true) ∧
        laidOut node.children = true ∧
        (∀ other ∈ rest, node.span.overlaps other.span = false) ∧ laidOut rest = true := by
  simp only [laidOut, apart, nestsEach, nests_eq_children, lieIn, Bool.and_eq_true,
    List.all_eq_true, Bool.not_eq_true']
  tauto

end Node

end ImageFallback
