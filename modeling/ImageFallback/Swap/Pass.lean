import ImageFallback.Swap.Swapper
import ImageFallback.Syntax.Remark

/-!
# Walking over a program

A pass walks over all calls of a program, a call before the calls inside it. It changes the argument
of each call of the loader that has exactly one argument, unless the argument is settled or a
comment between the end of the argument and the end of the call holds the ignore marker. The walk
then goes on into the argument as it is now, because calls inside a template or test of it are calls
like any other.

The depth of the walk counts calls inside one another. Changing an argument does not make calls lie
deeper, so the call depth of the program is depth enough.

After an error the walk leaves everything else as it is. The counters of a pass go on from run to
run.
-/

namespace ImageFallback

/-- What a pass counts. -/
structure Report where
  /-- Calls of the loader with one argument. -/
  loaderCalls : Nat := 0
  /-- Calls whose argument got a second version. -/
  swapped : Nat := 0
  /-- Calls that a comment kept as they are. -/
  skipped : Nat := 0
  deriving DecidableEq, Repr

/-- The state of a pass. -/
structure Pass where
  swapper : Swapper := {}
  report : Report := {}
  error : Option SwapError := none

/-- The argument of a call of the loader with exactly one argument. -/
def Config.loaderArgument? (config : Config) (callee : Node) (arguments : List Node) :
    Option Node :=
  match callee, arguments with
  | .name _ name, [argument] =>
    if name = config.loader ∧ argument.isSpread = false then some argument else none
  | _, _ => none

/-- A comment after the argument and inside the call asks to leave the argument alone. -/
def Config.isIgnored (config : Config) (remarks : List Remark) (argument : Node) (call : Span) :
    Bool :=
  Remark.anyMarked config.ignoreMarker
    ((Remark.between remarks argument.span.stop call.stop).map Remark.body)

namespace Pass

/-- Handles one call when `found` says which nodes are settled: its arguments afterwards, and the
pass. -/
def handleCallBy (found : Visited → Node → Bool) (config : Config) (remarks : List Remark)
    (span : Span) (callee : Node) (arguments : List Node) (pass : Pass) : List Node × Pass :=
  if pass.error.isSome then (arguments, pass)
  else
    match config.loaderArgument? callee arguments with
    | none => (arguments, pass)
    | some argument =>
      let report := { pass.report with loaderCalls := pass.report.loaderCalls + 1 }
      if found pass.swapper.visited argument then (arguments, { pass with report := report })
      else if config.isIgnored remarks argument span then
        (arguments, { pass with
          swapper := pass.swapper.tell (.argumentSkipped span.start config.ignoreMarker)
          report := { report with skipped := report.skipped + 1 } })
      else
        match pass.swapper.swapInPlaceBy found config argument with
        | (.error e, _, _) => (arguments, { pass with report := report, error := some e })
        | (.ok (), argument, swapper) =>
          let grown := if pass.swapper.synthesized < swapper.synthesized then 1 else 0
          ([argument], { pass with
            swapper := swapper
            report := { report with swapped := report.swapped + grown } })

/-- Handles one call. -/
def handleCall (config : Config) (remarks : List Remark) (span : Span) (callee : Node)
    (arguments : List Node) (pass : Pass) : List Node × Pass :=
  handleCallBy Visited.contains config remarks span callee arguments pass

theorem handleCallBy_contains (config : Config) (remarks : List Remark) (span : Span)
    (callee : Node) (arguments : List Node) (pass : Pass) :
    handleCallBy Visited.contains config remarks span callee arguments pass =
      pass.handleCall config remarks span callee arguments := rfl

/-- Walks over a node, into calls that lie up to `depth` deep. -/
def walk (config : Config) (remarks : List Remark) : Nat → Node → Pass → Node × Pass
  | 0, node, pass => (node, pass)
  | depth + 1, node, pass =>
    node.onCalls (fun span callee arguments optional pass =>
      let handled := pass.handleCall config remarks span callee arguments
      let callee := walk config remarks depth callee handled.2
      let arguments := Node.thread (walk config remarks depth) handled.1 callee.2
      (.call span callee.1 arguments.1 optional, arguments.2)) pass

/-- One run over a program: its outcome, the program afterwards, and the pass. -/
def run (config : Config) (remarks : List Remark) (body : List Node) (pass : Pass) :
    Except SwapError Report × List Node × Pass :=
  let walked := Node.thread (walk config remarks (Node.callDepthAll body)) body pass
  match walked.2.error with
  | some e => (.error e, walked.1, { walked.2 with error := none })
  | none => (.ok walked.2.report, walked.1, walked.2)

/-- A pass that has not seen anything, for a program whose identities lie below `supply`. -/
def new (supply : NodeId) : Pass := { swapper := { supply := supply } }

end Pass

end ImageFallback
