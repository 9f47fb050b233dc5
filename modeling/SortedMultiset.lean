import SortedMultiset.Bag.Access
import SortedMultiset.Bag.Collect
import SortedMultiset.Bag.Compare
import SortedMultiset.Bag.Edit
import SortedMultiset.Bag.Extremum
import SortedMultiset.Bag.Scan
import SortedMultiset.Bag.Split
import SortedMultiset.Bag.Verify
import SortedMultiset.Describe
import SortedMultiset.Digest.Element
import SortedMultiset.Holding
import SortedMultiset.Proofs.Bag.Access
import SortedMultiset.Proofs.Bag.Cut
import SortedMultiset.Proofs.Bag.Detect
import SortedMultiset.Proofs.Bag.EqualRange
import SortedMultiset.Proofs.Bag.Extremum
import SortedMultiset.Proofs.Bag.Partition
import SortedMultiset.Proofs.Bag.Slice
import SortedMultiset.Proofs.Batching
import SortedMultiset.Proofs.Cancellation
import SortedMultiset.Proofs.Canonical
import SortedMultiset.Proofs.Collecting
import SortedMultiset.Proofs.Columns.Search
import SortedMultiset.Proofs.Comparison
import SortedMultiset.Proofs.Digest
import SortedMultiset.Proofs.DigestChange
import SortedMultiset.Proofs.Indexer
import SortedMultiset.Proofs.Lineage
import SortedMultiset.Proofs.Mirror
import SortedMultiset.Proofs.Reachable
import SortedMultiset.Proofs.Reassembly
import SortedMultiset.Proofs.Records
import SortedMultiset.Proofs.Refinement
import SortedMultiset.Proofs.RoundTrip
import SortedMultiset.Proofs.Safety
import SortedMultiset.Proofs.Snapshot
import SortedMultiset.Proofs.Widening
