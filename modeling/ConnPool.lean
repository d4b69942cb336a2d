import ConnPool.Worker.Operation
import ConnPool.Context.Audit
import ConnPool.Scripted
import ConnPool.Client.Scripted
import ConnPool.PoolFile.Load
import ConnPool.Proofs.Context.Orderly
import ConnPool.Proofs.Worker.Release
import ConnPool.Proofs.Worker.Slots
import ConnPool.Proofs.Worker.Act
import ConnPool.Proofs.Worker.Handshake
import ConnPool.Proofs.Worker.Listing
import ConnPool.Proofs.Worker.Growing
import ConnPool.Proofs.Worker.Lending
import ConnPool.Proofs.Worker.Shrinking
import ConnPool.Proofs.Worker.Reclaiming
import ConnPool.Proofs.Worker.Course
import ConnPool.Proofs.Run.Steps
import ConnPool.Proofs.Context.Census
import ConnPool.Proofs.Context.Accounted
import ConnPool.Proofs.Run.Membership
import ConnPool.Proofs.Arena.Issued
import ConnPool.Proofs.Arena.FiniteMap
import ConnPool.Proofs.Worker.Recycling
import ConnPool.Proofs.Worker.Borrowing
import ConnPool.Proofs.Worker.Removals
import ConnPool.Proofs.Worker.Resources
import ConnPool.Proofs.Run.Lending
import ConnPool.Proofs.Worker.Coherent
import ConnPool.Proofs.Worker.Callbacks
import ConnPool.Proofs.Worker.Handing
import ConnPool.Proofs.Worker.Calling
import ConnPool.Proofs.Run.Callbacks
import ConnPool.Proofs.Run.ConnectCallbacks
import ConnPool.Proofs.Worker.Waiting
import ConnPool.Proofs.Run.DisconnectCallbacks
import ConnPool.Proofs.Worker.Watching
import ConnPool.Proofs.Run.Watching
import ConnPool.Proofs.Worker.Sessions
import ConnPool.Proofs.Worker.Dismantling
import ConnPool.Proofs.Run.Sessions
import ConnPool.Proofs.Run.StaleIds
import ConnPool.Proofs.Run.DeferredDisconnects
import ConnPool.Proofs.Worker.Marking
import ConnPool.Proofs.Run.Records
import ConnPool.Proofs.Worker.CallOrder
import ConnPool.Proofs.Run.CallOrder
import ConnPool.Proofs.Worker.Binding
import ConnPool.Proofs.Run.Borrowers
import ConnPool.Proofs.Worker.Settling
import ConnPool.Proofs.Run.Settling
import ConnPool.Proofs.Worker.Targets
import ConnPool.Proofs.Run.Targets
import ConnPool.Proofs.Run.Undoing
import ConnPool.Proofs.Worker.Confinement
import ConnPool.Proofs.Run.Confinement
import ConnPool.Proofs.Worker.Polling
import ConnPool.Proofs.Worker.Driving
import ConnPool.Proofs.Run.Polling
import ConnPool.Proofs.Worker.Requeueing
import ConnPool.Proofs.Run.Returning
import ConnPool.Proofs.Worker.Acquiring
import ConnPool.Proofs.Run.Acquiring
import ConnPool.Proofs.Context.Redaction
import ConnPool.Proofs.Worker.Alike
import ConnPool.Proofs.Worker.Secrecy
import ConnPool.Proofs.Run.Secrecy
import ConnPool.Proofs.Worker.Answering
import ConnPool.Proofs.Run.Agreement
import ConnPool.Proofs.Worker.Failing
import ConnPool.Proofs.Run.Answers
import ConnPool.Proofs.Run.Shutdown
import ConnPool.Proofs.Text.ByteOrder
import ConnPool.Proofs.Client.Marshalling
import ConnPool.Proofs.Client.Disclosure
import ConnPool.Proofs.Run.Spawning
import ConnPool.Proofs.Pool.Sizing
import ConnPool.Proofs.Pool.Registering
import ConnPool.Proofs.PoolFile.Entries
import ConnPool.Proofs.PoolFile.Loading
