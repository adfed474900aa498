import ImageFallback.Swap.Swapper

/-!
# A bench of trees

Trees in named slots, worked on with one swapper: trees are built, changed, taken apart and put
together again, and the swapper remembers across all of this which nodes are settled. A second set
of identities can be kept by hand beside it. A slot that holds nothing reads as the literal null.
-/

namespace ImageFallback

/-- The part of a node that can be taken out. -/
inductive Part where
  | test
  | yes
  | no
  | inner
  deriving DecidableEq, Repr

/-- The literal null, which remains where a node was taken away. -/
def Node.null : Node := .atom Span.none .null

/-- The part of a node, and the node with null in its place. -/
def Node.takePart : Node → Part → Node × Node
  | .conditional id span test yes no, .test => (test, .conditional id span Node.null yes no)
  | .conditional id span test yes no, .yes => (yes, .conditional id span test Node.null no)
  | .conditional id span test yes no, .no => (no, .conditional id span test yes Node.null)
  | .paren span inner, .inner => (inner, .paren span Node.null)
  | .unary span form inner, .inner => (inner, .unary span form Node.null)
  | .binary span (.index optional) left right, .inner =>
    (right, .binary span (.index optional) left Node.null)
  | node, _ => (Node.null, node)

/-- Trees in named slots, with a swapper and a set of identities. -/
structure Bench where
  swapper : Swapper := {}
  tracker : Visited := .empty
  slots : List (String × Node) := []

/-- Something to do on a bench. -/
inductive Action where
  /-- Puts a new tree into a slot. -/
  | build (slot : String) (tree : Node)
  /-- Changes the tree in a slot. -/
  | swap (slot : String)
  /-- Changes the tree in a slot unless a template in it is malformed. -/
  | swapInPlace (slot : String)
  /-- Copies a tree. -/
  | copy (source slot : String)
  /-- Puts two trees into a new conditional. -/
  | conditional (slot : String) (test : Node) (yes no : String)
  /-- Puts parentheses around a tree. -/
  | paren (slot source : String)
  /-- Puts trees into a new template. -/
  | template (slot : String) (span : Span) (quasis : List Quasi) (parts : List String)
  /-- Moves a part of a tree into a slot of its own. -/
  | take (source : String) (part : Part) (slot : String)
  /-- Starts over with a swapper that has settled nothing. -/
  | renew
  /-- Puts the tree of a slot into the set kept by hand. -/
  | track (slot : String)
  deriving Repr

namespace Bench

/-- The tree in a slot. -/
def tree (bench : Bench) (slot : String) : Node := (bench.slots.lookup slot).getD Node.null

/-- The bench with a tree in a slot. -/
def put (slot : String) (node : Node) (bench : Bench) : Bench :=
  { bench with slots := (slot, node) :: bench.slots.filter (·.1 != slot) }

/-- The tree of a slot, and the bench with the slot empty. -/
def remove (slot : String) (bench : Bench) : Node × Bench :=
  (bench.tree slot, { bench with slots := bench.slots.filter (·.1 != slot) })

/-- The trees of slots, and the bench with the slots empty. -/
def removeAll : List String → Bench → List Node × Bench
  | [], bench => ([], bench)
  | slot :: rest, bench =>
    let (node, bench) := bench.remove slot
    let (nodes, bench) := removeAll rest bench
    (node :: nodes, bench)

/-- Gives the nodes of a tree identities of their own. -/
def enrol (tree : Node) (bench : Bench) : Node × Bench :=
  let (tree, next) := tree.number bench.swapper.supply
  (tree, { bench with swapper := { bench.swapper with supply := next } })

/-- Does one thing, and reports an error if it is one that can fail. -/
def perform (config : Config) (action : Action) (bench : Bench) : Except SwapError Unit × Bench :=
  match action with
  | .build slot tree =>
    let (tree, bench) := bench.enrol tree
    (.ok (), bench.put slot tree)
  | .swap slot =>
    let (node, swapper) := bench.swapper.swap config (bench.tree slot)
    (.ok (), { bench with swapper := swapper }.put slot node)
  | .swapInPlace slot =>
    let (outcome, node, swapper) := bench.swapper.swapInPlace config (bench.tree slot)
    (outcome, { bench with swapper := swapper }.put slot node)
  | .copy source slot =>
    let (node, swapper) := bench.swapper.copy (bench.tree source)
    (.ok (), { bench with swapper := swapper }.put slot node)
  | .conditional slot test yes no =>
    let (test, bench) := bench.enrol test
    let (yes, bench) := bench.remove yes
    let (no, bench) := bench.remove no
    let (id, swapper) := bench.swapper.fresh
    (.ok (), { bench with swapper := swapper }.put slot (.conditional id Span.none test yes no))
  | .paren slot source =>
    let (node, bench) := bench.remove source
    (.ok (), bench.put slot (.paren Span.none node))
  | .template slot span quasis parts =>
    let (parts, bench) := bench.removeAll parts
    let (id, swapper) := bench.swapper.fresh
    (.ok (), { bench with swapper := swapper }.put slot (.template id span quasis parts))
  | .take source part slot =>
    let (node, rest) := (bench.tree source).takePart part
    (.ok (), (bench.put source rest).put slot node)
  | .renew => (.ok (), { bench with swapper := { supply := bench.swapper.supply } })
  | .track slot => (.ok (), { bench with tracker := bench.tracker.mark (bench.tree slot) })

end Bench

end ImageFallback
