import ImageFallback.Log.Event
import ImageFallback.Swap.Config
import ImageFallback.Swap.Visited

/-!
# Changing loader arguments

`Swapper.swap` turns an eligible literal into a conditional on the run-time test: its first branch
is the literal with the new extension, its second branch the literal as it was. It goes through
parentheses, which it drops, and through the branches of conditionals, which it builds anew; the
test of a conditional and the expressions of a template are never looked into. Every node that it
returns is settled, and a settled node comes back as it is, so nothing is changed twice.

New nodes take their identities from a supply that lies above all identities in use. The copy of a
template adds the supply to every identity, which keeps them apart from each other and from all
others, and doubles the supply.
-/

namespace ImageFallback

/-- The state of the work on one source. -/
structure Swapper where
  visited : Visited := .empty
  /-- A bound above all identities in use. -/
  supply : NodeId := 0
  /-- The number of conditionals on the run-time test that were built. -/
  synthesized : Nat := 0
  events : List Event := []

namespace Swapper

/-- Settles a node. -/
def mark (node : Node) (s : Swapper) : Swapper := { s with visited := s.visited.mark node }

/-- Tells of an event. -/
def tell (event : Event) (s : Swapper) : Swapper := { s with events := s.events ++ [event] }

/-- Takes one identity from the supply. -/
def fresh (s : Swapper) : NodeId × Swapper := (s.supply, { s with supply := s.supply + 1 })

/-- A copy of the node with identities of its own. -/
def copy (node : Node) (s : Swapper) : Node × Swapper :=
  (node.mapIds (s.supply + ·), { s with supply := s.supply + s.supply })

/-- Copies of the nodes with identities of their own. -/
def copyAll (nodes : List Node) (s : Swapper) : List Node × Swapper :=
  (Node.mapIdsAll (s.supply + ·) nodes, { s with supply := s.supply + s.supply })

/-- The conditional on the run-time test between two literals, which are settled by it. -/
def choice (config : Config) (span : Span) (yes no : Node) (s : Swapper) : Node × Swapper :=
  let s := (s.mark yes).mark no
  let (id, s) := { s with synthesized := s.synthesized + 1 }.fresh
  (.conditional id span config.supportTest yes no, s)

/-- A text literal and its second version, if it is eligible. -/
def swapText (config : Config) (id : NodeId) (span : Span) (value : String) (lone : Bool)
    (s : Swapper) : Node × Swapper :=
  if config.extensions.isEligible config.inlineMarker [value] then
    let newValue := config.extensions.swapPath value
    let (newId, s) := (s.tell (.textSwapped value newValue)).fresh
    choice config span (.text newId span newValue false) (.text id span value lone) s
  else (.text id span value lone, s.tell (.textKept value))

/-- A stretch of text in a template with the new extension, in both of its forms. -/
def swapQuasi (extensions : Extensions) (quasi : Quasi) : Quasi :=
  { quasi with
    raw := extensions.swapPath quasi.raw
    cooked := quasi.cooked.map extensions.swapPath }

/-- A template and its second version, if it is eligible. -/
def swapTemplate (config : Config) (id : NodeId) (span : Span) (quasis : List Quasi)
    (parts : List Node) (s : Swapper) : Node × Swapper :=
  if config.extensions.isEligible config.inlineMarker (quasis.map Quasi.raw) then
    let newId := s.supply + id
    let (newParts, s) := s.copyAll parts
    let newQuasis := quasis.map (swapQuasi config.extensions)
    choice config span (.template newId span newQuasis newParts) (.template id span quasis parts)
      (s.tell (.templateSwapped quasis.length parts.length))
  else (.template id span quasis parts, s.tell (.templateKept quasis.length))

/-- The node that takes the place of a loader argument when `found` says which nodes are
settled. -/
def swapBy (found : Visited → Node → Bool) (config : Config) : Node → Swapper → Node × Swapper
  | .paren span inner, s =>
    if inner.shape = .other then (.paren span inner, s) else swapBy found config inner s
  | .text id span value lone, s =>
    let node := Node.text id span value lone
    if found s.visited node then (node, s)
    else
      let result :=
        if config.shapes.string then s.swapText config id span value lone else (node, s)
      (result.1, result.2.mark result.1)
  | .template id span quasis parts, s =>
    let node := Node.template id span quasis parts
    if found s.visited node then (node, s)
    else
      let result :=
        if config.shapes.template then s.swapTemplate config id span quasis parts else (node, s)
      (result.1, result.2.mark result.1)
  | .conditional id span test yes no, s =>
    let node := Node.conditional id span test yes no
    if found s.visited node then (node, s)
    else if config.shapes.conditional then
      let yes := swapBy found config yes s
      let no := swapBy found config no yes.2
      let (newId, s) := no.2.fresh
      let result := Node.conditional newId span test yes.1 no.1
      (result, s.mark result)
    else (node, s.mark node)
  | node, s => (node, s)

/-- The node that takes the place of a loader argument. -/
def swap (config : Config) (node : Node) (s : Swapper) : Node × Swapper :=
  swapBy Visited.contains config node s

theorem swapBy_contains (config : Config) (node : Node) (s : Swapper) :
    swapBy Visited.contains config node s = s.swap config node := rfl

/-- Every template that a change could reach has one more text than expressions. The first one that
has not is reported. -/
def wellFormed : Node → Except SwapError Unit
  | .template _ _ quasis parts =>
    if quasis.length = parts.length + 1 then .ok ()
    else .error (.malformedTemplate quasis.length parts.length)
  | .conditional _ _ _ yes no => do
    wellFormed yes
    wellFormed no
  | .paren _ inner => wellFormed inner
  | _ => .ok ()

/-- Changes an argument in its place, unless a template in it is malformed, when `found` says which
nodes are settled. -/
def swapInPlaceBy (found : Visited → Node → Bool) (config : Config) (slot : Node) (s : Swapper) :
    Except SwapError Unit × Node × Swapper :=
  match wellFormed slot with
  | .error e => (.error e, slot, s)
  | .ok () => (.ok (), swapBy found config slot s)

/-- Changes an argument in its place, unless a template in it is malformed. -/
def swapInPlace (config : Config) (slot : Node) (s : Swapper) :
    Except SwapError Unit × Node × Swapper :=
  swapInPlaceBy Visited.contains config slot s

end Swapper

end ImageFallback
