import SqlBuilder.Driver.Named
import SqlBuilder.Driver.Positional
import SqlBuilder.Driver.Recording
import SqlBuilder.Proofs.DataIndependence
import SqlBuilder.Proofs.Interleavings
import SqlBuilder.Proofs.Moves
import SqlBuilder.Proofs.NamedBinding
import SqlBuilder.Statement.Signature
import SqlBuilder.Workspace
import SqlBuilder.Proofs.MutationValues
import SqlBuilder.Proofs.NativeFailures
import SqlBuilder.Proofs.EagerCalls
import SqlBuilder.Proofs.PairedStatements
import SqlBuilder.Proofs.PairedSteps
import SqlBuilder.Proofs.Adapters
import SqlBuilder.Proofs.Growth
import SqlBuilder.Proofs.Locality
import SqlBuilder.Proofs.Reordering
import SqlBuilder.Proofs.UnionChains
import SqlBuilder.Proofs.Balance
import SqlBuilder.Proofs.Nesting
import SqlBuilder.Proofs.Outlines
import SqlBuilder.Proofs.Bracketing
import SqlBuilder.Proofs.Releasing
import SqlBuilder.Proofs.FailureLog
import SqlBuilder.Proofs.Identifiers
import SqlBuilder.Proofs.FailedSteps
import SqlBuilder.Proofs.Words
import SqlBuilder.Proofs.NullWords
import SqlBuilder.Proofs.LoneArgument
import SqlBuilder.Proofs.Replacements
import SqlBuilder.Proofs.Recovery
import SqlBuilder.Proofs.Literals
import SqlBuilder.Proofs.Spellings
import SqlBuilder.Proofs.QuotedReferences
import SqlBuilder.Proofs.CompleteRows
import SqlBuilder.Proofs.BindOrder
import SqlBuilder.Proofs.Closing
