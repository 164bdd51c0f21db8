import DistinctCount.Json.Config
import DistinctCount.Proofs.Absorbed
import DistinctCount.Proofs.Checked.Session
import DistinctCount.Proofs.RoundTrip
import DistinctCount.Proofs.Gather
import DistinctCount.Proofs.Commute
import DistinctCount.Proofs.Acceptance
import DistinctCount.Proofs.Canonical
import DistinctCount.Proofs.Concatenation
import DistinctCount.Proofs.Downgrade
import DistinctCount.Proofs.Truncation
import DistinctCount.Proofs.Forward
import DistinctCount.Proofs.Join
import DistinctCount.Proofs.Flush
import DistinctCount.Proofs.Writes
import DistinctCount.Proofs.Json
import DistinctCount.Proofs.Cursor
import DistinctCount.Proofs.Mixing
