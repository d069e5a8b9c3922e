import Terradoc.Main
import Terradoc.Proofs.Information.Environment
import Terradoc.Proofs.Syntax.Every
import Terradoc.Proofs.Information.Reference
import Terradoc.Proofs.Eval.Steps
import Terradoc.Proofs.Function.Texts
import Terradoc.Proofs.Function.Merge
import Terradoc.Proofs.Information.Expr
import Terradoc.Proofs.Targets.Expr
import Terradoc.Proofs.Targets.Body
import Terradoc.Proofs.Session.Relation
import Terradoc.Proofs.Session.Strictness
import Terradoc.Proofs.Replication.Instances
import Terradoc.Proofs.Settling.Passes
import Terradoc.Proofs.Settling.Shown
import Terradoc.Proofs.Settling.Reading
import Terradoc.Value.Identity
import Terradoc.Proofs.Session.Shift
import Terradoc.Proofs.Settling.Calls
import Terradoc.Proofs.Settling.Stability
import Terradoc.Proofs.Settling.Reuse
import Terradoc.Proofs.Dependency.Definition
import Terradoc.Proofs.Dependency.Order
import Terradoc.Proofs.Settling.Forward
import Terradoc.Proofs.Document.References
import Terradoc.Proofs.Document.Selection
import Terradoc.Proofs.Composition.Modules
import Terradoc.Proofs.Composition.Settled
import Terradoc.Proofs.Document.LiteralKeys
import Terradoc.Proofs.Listing.Tree
import Terradoc.Proofs.Nesting.Stack
import Terradoc.Proofs.Templates.Nesting
import Terradoc.Proofs.Listing.Files
import Terradoc.Proofs.Listing.Runs
import Terradoc.Proofs.Number.Interval
import Terradoc.Proofs.Number.Order
import Terradoc.Proofs.Number.Text
import Terradoc.Proofs.Number.Rounding
import Terradoc.Proofs.Number.WholeView
import Terradoc.Proofs.Number.WholeDoubles
import Terradoc.Proofs.Json.Text
import Terradoc.Proofs.Json.Reading
import Terradoc.Proofs.Value.Equality
import Terradoc.Proofs.Value.Order
import Terradoc.Proofs.Value.Sets
import Terradoc.Proofs.Value.Comparison
import Terradoc.Proofs.Value.Integers
import Terradoc.Proofs.Value.Membership
import Terradoc.Proofs.Value.Choices
import Terradoc.Proofs.Value.OpenSets
import Terradoc.Proofs.Value.OpenLists
import Terradoc.Proofs.Value.Projection
import Terradoc.Proofs.VarType.Conversion
import Terradoc.Proofs.VarType.Conformance
import Terradoc.Proofs.VarType.Idempotence
import Terradoc.Proofs.VarType.Agreement
import Terradoc.Proofs.Entries
import Terradoc.Proofs.Text.Bytes
import Terradoc.Proofs.Variable.Files
import Terradoc.Proofs.Variable.Precedence
import Terradoc.Proofs.Replication.Keys
import Terradoc.Proofs.Blocks.Expansion
import Terradoc.Proofs.Loops.Comprehension
import Terradoc.Proofs.Loops.Splats
import Terradoc.Proofs.Loops.Rendering
import Terradoc.Proofs.Document.Projection
import Terradoc.Proofs.Function.Verbs
import Terradoc.Proofs.Bounds.Calls
import Terradoc.Proofs.Source.Registry
import Terradoc.Proofs.Source.Git
import Terradoc.Proofs.Syntax.Lines
import Terradoc.Proofs.Files.Relative
import Terradoc.Proofs.Eval.Hygiene
