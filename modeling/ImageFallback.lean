import ImageFallback.Data.Files
import ImageFallback.Data.Json
import ImageFallback.Data.Setting
import ImageFallback.Data.Toml.Document
import ImageFallback.Data.Toml.Scalar
import ImageFallback.Data.Toml.Text
import ImageFallback.Data.Value
import ImageFallback.Log.Event
import ImageFallback.Log.Filter
import ImageFallback.Log.Level
import ImageFallback.Log.Pattern
import ImageFallback.Number.Binary64
import ImageFallback.Number.Compact
import ImageFallback.Number.Digits
import ImageFallback.Number.Shortest
import ImageFallback.Number.Stepwise
import ImageFallback.Options.Basic
import ImageFallback.Options.Decode
import ImageFallback.Options.Discovery
import ImageFallback.Options.Error
import ImageFallback.Options.Fault
import ImageFallback.Options.Layers
import ImageFallback.Options.Load
import ImageFallback.Options.Validate
import ImageFallback.Proofs.Data.Merge
import ImageFallback.Proofs.Data.Ordered
import ImageFallback.Proofs.Data.Readers
import ImageFallback.Proofs.Meaning.Exchange
import ImageFallback.Proofs.Meaning.Reading
import ImageFallback.Proofs.Meaning.Resolution
import ImageFallback.Proofs.Options.Accepted
import ImageFallback.Proofs.Options.Alike
import ImageFallback.Proofs.Options.Congruence
import ImageFallback.Proofs.Options.Discovered
import ImageFallback.Proofs.Options.Grammar
import ImageFallback.Proofs.Options.Layered
import ImageFallback.Proofs.Options.Moments
import ImageFallback.Proofs.Options.Positional
import ImageFallback.Proofs.Options.Record
import ImageFallback.Proofs.Options.RoundTrip
import ImageFallback.Proofs.Options.Schema
import ImageFallback.Proofs.Swap.Argument
import ImageFallback.Proofs.Swap.Atomic
import ImageFallback.Proofs.Swap.Choices
import ImageFallback.Proofs.Swap.Derivation
import ImageFallback.Proofs.Swap.Freshness
import ImageFallback.Proofs.Swap.Marking
import ImageFallback.Proofs.Swap.Paths
import ImageFallback.Proofs.Swap.Plain
import ImageFallback.Proofs.Swap.Positions
import ImageFallback.Proofs.Swap.Quasis
import ImageFallback.Proofs.Swap.Session
import ImageFallback.Proofs.Syntax.Cooking
import ImageFallback.Proofs.Tree.Heads
import ImageFallback.Proofs.Tree.Identity
import ImageFallback.Proofs.Tree.Nesting
import ImageFallback.Proofs.Tree.Parts
import ImageFallback.Proofs.Tree.Subtrees
import ImageFallback.Proofs.Walk.Accounts
import ImageFallback.Proofs.Walk.Copies
import ImageFallback.Proofs.Walk.Coverage
import ImageFallback.Proofs.Walk.Expansion
import ImageFallback.Proofs.Walk.Failure
import ImageFallback.Proofs.Walk.Forest
import ImageFallback.Proofs.Walk.Kept
import ImageFallback.Proofs.Walk.Meetings
import ImageFallback.Proofs.Walk.Parens
import ImageFallback.Proofs.Walk.Ready
import ImageFallback.Proofs.Walk.Renewed
import ImageFallback.Proofs.Walk.Settled
import ImageFallback.Proofs.Walk.Termination
import ImageFallback.Proofs.Walk.Unchanged
import ImageFallback.Proofs.Walk.Windows
import ImageFallback.Swap.Bench
import ImageFallback.Swap.Config
import ImageFallback.Swap.Extensions
import ImageFallback.Swap.Pass
import ImageFallback.Swap.Runs
import ImageFallback.Swap.Swapper
import ImageFallback.Swap.Visited
import ImageFallback.Syntax.Cooking
import ImageFallback.Syntax.Node
import ImageFallback.Syntax.Parser
import ImageFallback.Syntax.Printer
import ImageFallback.Syntax.Remark
import ImageFallback.Syntax.Spelling
import ImageFallback.Syntax.Token
import ImageFallback.Text.Alphabetic
import ImageFallback.Text.Blank
import ImageFallback.Text.CharRanges
import ImageFallback.Text.Escaped
import ImageFallback.Text.LowerCase
import ImageFallback.Text.NameChars
import ImageFallback.Text.Numeric
import ImageFallback.Text.Occurrence
import ImageFallback.Text.Quoted
import ImageFallback.Text.Slice
import ImageFallback.Text.Split
import ImageFallback.Transform
