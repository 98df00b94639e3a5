import UnboundWasm.Lib.Machine
import UnboundWasm.Lib.Heap
import UnboundWasm.Lib.Memory
import UnboundWasm.Lib.Netip
import UnboundWasm.Host.Errno
import UnboundWasm.Host.Egress
import UnboundWasm.Host.Sockets.State
import UnboundWasm.Host.Sockets.Imports
import UnboundWasm.Host.Sockets.Machine
import UnboundWasm.Host.Sockets.EgressSafety
import UnboundWasm.Host.Sockets.Ledger
import UnboundWasm.Host.Sockets.LedgerInvariant
import UnboundWasm.Host.Sockets.Ownership
import UnboundWasm.Host.Sockets.Shutdown
import UnboundWasm.Host.Sockets.Descriptors
import UnboundWasm.Lib.CaseFold
import UnboundWasm.Host.Answer
import UnboundWasm.Host.Name
import UnboundWasm.Guest.Result
import UnboundWasm.Guest.Outcome
import UnboundWasm.Host.Resolve.Machine
import UnboundWasm.Host.Resolve.Batch
import UnboundWasm.Host.Resolve.Teardown
import UnboundWasm.Guest.Backend
import UnboundWasm.Guest.Routing
import UnboundWasm.Host.Lifecycle.Machine
import UnboundWasm.Host.Lifecycle.Closing
import UnboundWasm.Host.Lifecycle.Safety
import UnboundWasm.Host.Resolve.Closed
import UnboundWasm.Host.Sockets.Readiness
import UnboundWasm.System.Machine
import UnboundWasm.System.Interest
import UnboundWasm.Host.Sockets.Inbox
import UnboundWasm.Host.Sockets.Receive
import UnboundWasm.Host.Sockets.Wakeup
import UnboundWasm.Host.Sockets.Termination
import UnboundWasm.Host.Events.Accounting
import UnboundWasm.Host.Events.Overflow
import UnboundWasm.Host.Lifecycle.Imports
import UnboundWasm.Host.Timers
import UnboundWasm.System.Timers
import UnboundWasm.Guest.Attribution
import UnboundWasm.System.Batches
import UnboundWasm.System.Released
import UnboundWasm.Host.Locks
import UnboundWasm.Host.Aliases
import UnboundWasm.Lib.FoldExact
import UnboundWasm.Host.Owners
import UnboundWasm.Guest.Dispatch
import UnboundWasm.Guest.OneShot
import UnboundWasm.Guest.Configuration
import UnboundWasm.Host.TimerTable
import UnboundWasm.Host.Anchors
import UnboundWasm.Host.DataSegments
import UnboundWasm.Host.LinearMemory
import UnboundWasm.Host.Zygote
import UnboundWasm.Guest.Random
import UnboundWasm.Host.MemoryLimit
import UnboundWasm.Host.DnsKey
import UnboundWasm.Host.Wasi
import UnboundWasm.Guest.HashStream
import UnboundWasm.Guest.Lines
import UnboundWasm.Host.Sockets.Ids
import UnboundWasm.Guest.SharedPorts
import UnboundWasm.Host.GuestMemory
import UnboundWasm.Host.DataSection
import UnboundWasm.Host.SegmentParser
import UnboundWasm.Host.SegmentSafety
import UnboundWasm.Guest.SecAlgo
import UnboundWasm.Guest.SlotHeap
import UnboundWasm.Guest.Veneer
import UnboundWasm.Host.Sockets.Serving
import UnboundWasm.System.Answers
import UnboundWasm.System.Attributed
import UnboundWasm.System.Crypto
import UnboundWasm.System.Descriptors
import UnboundWasm.System.Transfers
