import ImageFallback.Swap.Runs
import ImageFallback.Syntax.Printer

/-!
# From source to source

A source is parsed, walked over once, and printed. Parentheses are not kept as nodes, so that the
branches of a conditional are reached however they are wrapped. Options are checked before the
source is looked at.
-/

namespace ImageFallback

/-- The comments of a program with their texts. -/
def Program.remarks (program : Program) : List Remark :=
  Remark.ofSource program.source (program.comments.map Comment.span)

/-- What becomes of a source. -/
structure Transformed where
  code : String
  report : Report
  deriving DecidableEq, Repr

/-- Transforms a source, and tells of the events on the way. -/
def Config.transform (config : Config) (kind : SourceKind) (source : String) :
    Except SwapError Transformed × List Event :=
  match Program.parse? kind false source with
  | none => (.error .unparsable, [])
  | some program =>
    let (outcome, runs) := (Runs.start program.body).step config program.remarks .again
    let events := runs.pass.swapper.events
    match outcome with
    | .error cause => (.error cause, events)
    | .ok report =>
      let code := { program with body := runs.body }.print
      (.ok ⟨code, report⟩,
        events ++ [.finished report.loaderCalls report.swapped report.skipped])

/-- Transforms a source under options that are still to be checked. -/
def Options.transform (options : Options) (kind : SourceKind) (source : String) :
    Except SwapError Transformed × List Event :=
  match Config.ofOptions options with
  | .error cause => (.error cause, [])
  | .ok config => config.transform kind source

end ImageFallback
