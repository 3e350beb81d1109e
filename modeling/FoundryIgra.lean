import FoundryIgra.Rust.Word
import FoundryIgra.Rust.Text
import FoundryIgra.Order.LargestFirst
import FoundryIgra.Order.OldestFirst
import FoundryIgra.Iteration.Loop
import FoundryIgra.Relational.Table
import FoundryIgra.Relational.Transaction
import FoundryIgra.Relational.Replay
import FoundryIgra.Concurrency.Program
import FoundryIgra.Concurrency.Erasure
import FoundryIgra.Concurrency.Pool
import FoundryIgra.Concurrency.Past
import FoundryIgra.Concurrency.Lease
import FoundryIgra.Concurrency.Stack
import FoundryIgra.Concurrency.Unwinding
import FoundryIgra.Concurrency.Completion
import FoundryIgra.Store.Schema
import FoundryIgra.Store.SenderNonces
import FoundryIgra.Store.SenderLocks
import FoundryIgra.Store.AtomicAcquire
import FoundryIgra.Store.Contention
import FoundryIgra.Store.TxMap
import FoundryIgra.Store.LifecycleHistory
import FoundryIgra.Store.Cache
import FoundryIgra.Store.Retention
import FoundryIgra.Store.Eviction
import FoundryIgra.Store.LeaseExclusion
import FoundryIgra.Store.Profile
import FoundryIgra.Store.ProfileIsolation
import FoundryIgra.Store.ProfileChange
import FoundryIgra.Store.SenderView
import FoundryIgra.Config
import FoundryIgra.Payload
import FoundryIgra.Payload.Selection
import FoundryIgra.Payload.Mining
import FoundryIgra.Payload.Decode
import FoundryIgra.Payload.Build
import FoundryIgra.Payload.Limits
import FoundryIgra.Submitter.Request
import FoundryIgra.Submitter.Submission
import FoundryIgra.Submitter.UtxoCache
import FoundryIgra.Submitter.CacheFreshness
import FoundryIgra.Submitter.AcceptedBroadcasts
import FoundryIgra.Submitter.Acknowledged
import FoundryIgra.Submitter.Provenance
import FoundryIgra.Submitter.Keys
import FoundryIgra.Submitter.OwnFunds
import FoundryIgra.Transport.Config
import FoundryIgra.Transport.Packet
import FoundryIgra.Transport.Request
import FoundryIgra.Transport.Composition
import FoundryIgra.Transport.Calls
import FoundryIgra.Transport.Progress
import FoundryIgra.Transport.Session
import FoundryIgra.Transport.Serialization
import FoundryIgra.Transport.OwnerIds
import FoundryIgra.Transport.History
import FoundryIgra.Transport.Course
import FoundryIgra.Transport.Deployment
import FoundryIgra.Transport.SenderIsolation
import FoundryIgra.Transport.BoundedWork
import FoundryIgra.Transport.NonceProgress
import FoundryIgra.Transport.NonceSafety
import FoundryIgra.Transport.SubmittedOnce
import FoundryIgra.Transport.Recovery
import FoundryIgra.Transport.InProcess
import FoundryIgra.Transport.OnChain
import FoundryIgra.Transport.Lifecycle
import FoundryIgra.Transport.Records
import FoundryIgra.Transport.Attestation
import FoundryIgra.Transport.Setup
import FoundryIgra.Transport.Outcome
import FoundryIgra.Transport.Routing
import FoundryIgra.Transport.ReportedHash
import FoundryIgra.Transport.Transparency
import FoundryIgra.Transport.BroadcastLag
import FoundryIgra.Transport.Footprint
