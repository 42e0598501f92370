import PacketHost.Device.Faulty
import PacketHost.Device.Memory
import PacketHost.Inquiry
import PacketHost.Proofs.WellFormed
import PacketHost.Proofs.Decision
import PacketHost.Proofs.Independence
import PacketHost.Proofs.Polling
import PacketHost.Proofs.SendPath
import PacketHost.Proofs.Draining
import PacketHost.Proofs.Packet
import PacketHost.Proofs.Waiting
import PacketHost.Proofs.Names
import PacketHost.Proofs.Requests
import PacketHost.Proofs.Matching
import PacketHost.Proofs.Inquiring
import PacketHost.Proofs.Link
import PacketHost.Proofs.Resolution
import PacketHost.Proofs.Guarded.Primitives
import PacketHost.Proofs.Guarded.Sums
import PacketHost.Proofs.Guarded.Replies
import PacketHost.Proofs.Guarded.Reactions
import PacketHost.Proofs.Guarded.Names
import PacketHost.Proofs.Guarded.Inquiries
import PacketHost.Proofs.Guarded.Tasks
import PacketHost.Proofs.Guarded.Operations
import PacketHost.Proofs.Budget
import PacketHost.Proofs.Asking
import PacketHost.Proofs.Pinging
import PacketHost.Proofs.Filtering
import PacketHost.Proofs.InPlace
import PacketHost.Proofs.Chunks
import PacketHost.Proofs.Corruption
import PacketHost.Proofs.Filling
import PacketHost.Proofs.Lockstep
import PacketHost.Proofs.Oblivious
import PacketHost.Proofs.Responses
import PacketHost.Proofs.Labels
import PacketHost.Proofs.Segments
import PacketHost.Proofs.Acknowledging
import PacketHost.Proofs.Queries
import PacketHost.Proofs.Validation
import PacketHost.Proofs.Lookup
import PacketHost.Proofs.Retrying
import PacketHost.Proofs.Endpoints
import PacketHost.Proofs.Repeating
import PacketHost.Proofs.InKind
import PacketHost.Proofs.Padding
import PacketHost.Proofs.Skipping
import PacketHost.Proofs.Recording
import PacketHost.Proofs.Identifiers
import PacketHost.Proofs.SumField
import PacketHost.Proofs.Parted
import PacketHost.Proofs.Unanswered
import PacketHost.Proofs.Leftovers
import PacketHost.Proofs.Layouts
import PacketHost.Proofs.Spelling
import PacketHost.Proofs.Routing
import PacketHost.Proofs.Sections
import PacketHost.Proofs.LastAnswer
import PacketHost.Proofs.Queueing
