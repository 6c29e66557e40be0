import TreeQuery.Config.Layers
import TreeQuery.Document.Session
import TreeQuery.Document.WordEdit
import TreeQuery.Predicate.Host
import TreeQuery.Proofs.Document.Buffer
import TreeQuery.Proofs.Document.Deeds
import TreeQuery.Proofs.Document.Delivery
import TreeQuery.Proofs.Document.Following
import TreeQuery.Proofs.Document.Logs
import TreeQuery.Proofs.Document.Marks
import TreeQuery.Proofs.Document.Order
import TreeQuery.Proofs.Document.Positions
import TreeQuery.Proofs.Document.Registry
import TreeQuery.Proofs.Document.Rounds
import TreeQuery.Proofs.Document.Run
import TreeQuery.Proofs.Match.Cursor
import TreeQuery.Proofs.Match.Order
import TreeQuery.Proofs.Search.Places
import TreeQuery.Proofs.Substitution.Run
import TreeQuery.Proofs.Substitution.Splice
import TreeQuery.Proofs.Text.Boundary
import TreeQuery.Substitution.Basic
import TreeQuery.Telemetry.Basic
import TreeQuery.Tree.Diagnostics
import TreeQuery.Tree.View
import TreeQuery.Proofs.Match.Preorder
import TreeQuery.Proofs.Match.Requests
import TreeQuery.Proofs.Match.Independence
import TreeQuery.Proofs.Pattern.Mentions
import TreeQuery.Proofs.Pattern.Places
import TreeQuery.Proofs.Pattern.Steps
import TreeQuery.Proofs.Pattern.Runs
import TreeQuery.Proofs.Pattern.Faults
import TreeQuery.Proofs.Query.Compile
import TreeQuery.Proofs.Query.Captures
import TreeQuery.Proofs.Query.Marked
import TreeQuery.Proofs.Pattern.Programs
import TreeQuery.Proofs.Search.Steps
import TreeQuery.Proofs.Query.Clauses
import TreeQuery.Proofs.Query.Marking
import TreeQuery.Proofs.Substitution.Template
import TreeQuery.Proofs.Substitution.Identity
import TreeQuery.Proofs.Predicate.Resolution
import TreeQuery.Proofs.Query.Failures
import TreeQuery.Proofs.Query.Sites
import TreeQuery.Proofs.Substitution.Offence
import TreeQuery.Proofs.Document.Atomic
import TreeQuery.Proofs.Predicate.Blocks
import TreeQuery.Proofs.Pattern.Unnamed
import TreeQuery.Proofs.Pattern.Swap
import TreeQuery.Proofs.Pattern.Heads
import TreeQuery.Proofs.Query.Names
import TreeQuery.Proofs.Match.Lookup
import TreeQuery.Proofs.Predicate.Comparison
import TreeQuery.Proofs.Document.Composition
import TreeQuery.Proofs.Tree.Faults
import TreeQuery.Proofs.Tree.Alike
import TreeQuery.Proofs.Predicate.Sources
import TreeQuery.Proofs.Text.Lines
import TreeQuery.Proofs.Query.Coordinates
import TreeQuery.Proofs.Query.Quotes
import TreeQuery.Proofs.Text.Order
import TreeQuery.Proofs.Predicate.Registrations
import TreeQuery.Proofs.Substitution.Printing
import TreeQuery.Proofs.Substitution.Undefined
import TreeQuery.Proofs.Document.Lines
import TreeQuery.Proofs.Document.Words
import TreeQuery.Proofs.Tree.Snippets
import TreeQuery.Proofs.Substitution.Anchors
