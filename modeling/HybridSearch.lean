import HybridSearch.CommandLine.Disk
import HybridSearch.Main
import HybridSearch.Proofs.Engine.Current
import HybridSearch.Proofs.VectorIndex.Intact
import HybridSearch.Proofs.VectorIndex.RoundTrip
import HybridSearch.Proofs.Engine.Compensation
import HybridSearch.Proofs.Engine.Isolation
import HybridSearch.Proofs.VectorIndex.EntryPoint
import HybridSearch.Proofs.VectorIndex.Exact
import HybridSearch.Proofs.Query.Inert
import HybridSearch.Proofs.TextIndex.Scoping
import HybridSearch.Proofs.VectorIndex.Gauges
import HybridSearch.Proofs.VectorIndex.Reconnect
import HybridSearch.Proofs.Engine.Refusal
import HybridSearch.Proofs.VectorIndex.Namespaces
import HybridSearch.Proofs.TextIndex.Catalogue
import HybridSearch.Proofs.Engine.HybridPaging
import HybridSearch.Proofs.TextIndex.Listing
import HybridSearch.Proofs.Engine.Crowding
import HybridSearch.Proofs.Engine.HybridFusion
import HybridSearch.Proofs.VectorIndex.ClosedBeam
import HybridSearch.Proofs.VectorIndex.Replace
import HybridSearch.Proofs.TextIndex.Agreement
import HybridSearch.Proofs.Engine.Agreement
import HybridSearch.Proofs.Engine.Update
import HybridSearch.Proofs.Query.Negation
import HybridSearch.Proofs.Engine.FusionOrder
import HybridSearch.Proofs.VectorIndex.Removal
import HybridSearch.Proofs.VectorIndex.Joining
import HybridSearch.Proofs.Query.Keywords
import HybridSearch.Proofs.Engine.Counters
import HybridSearch.Proofs.VectorIndex.Commit
import HybridSearch.Proofs.Engine.Lossless
import HybridSearch.Proofs.Embedding
import HybridSearch.Proofs.TextIndex.Statements
import HybridSearch.Proofs.VectorIndex.Shrinking
import HybridSearch.Proofs.VectorIndex.Rounds
import HybridSearch.Proofs.Text.Words
import HybridSearch.Proofs.VectorIndex.Scanning
import HybridSearch.Proofs.Query.Pieces
import HybridSearch.Proofs.Text.Snippet
