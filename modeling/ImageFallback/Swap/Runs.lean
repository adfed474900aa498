import ImageFallback.Swap.Pass

/-!
# Several runs over one program

A program can be walked over more than once: again with the pass that remembers what it has settled,
with a new pass that takes its place, or with a pass that is used for this one run only. The supply
of identities goes on from run to run, so that nodes of different passes stay apart.
-/

namespace ImageFallback

/-- How a program is walked over. -/
inductive RunKind where
  /-- With the current pass. -/
  | again
  /-- With a new pass, which becomes the current one. -/
  | renewed
  /-- With a pass for this run only. -/
  | once
  deriving DecidableEq, Repr

/-- A program and the current pass over it. -/
structure Runs where
  body : List Node
  pass : Pass

namespace Runs

/-- A program whose nodes are given identities, and a pass that has not seen it. -/
def start (body : List Node) : Runs :=
  let (body, supply) := Node.numberAll body 0
  ⟨body, Pass.new supply⟩

/-- One more run. -/
def step (config : Config) (remarks : List Remark) (kind : RunKind) (runs : Runs) :
    Except SwapError Report × Runs :=
  match kind with
  | .again =>
    let (outcome, body, pass) := runs.pass.run config remarks runs.body
    (outcome, ⟨body, pass⟩)
  | .renewed =>
    let (outcome, body, pass) := (Pass.new runs.pass.swapper.supply).run config remarks runs.body
    (outcome, ⟨body, pass⟩)
  | .once =>
    let (outcome, body, pass) := (Pass.new runs.pass.swapper.supply).run config remarks runs.body
    (outcome, ⟨body, { runs.pass with
      swapper := { runs.pass.swapper with supply := pass.swapper.supply } }⟩)

end Runs

end ImageFallback
