import UnboundWasm.Host.Sockets.State

/-!
# The ownership ledger

An abstract account of who is responsible for which operating-system socket.
Packets, ports, errors and the event channel are gone; what is left is which
host socket created a connection, which map entry or closing goroutine still
answers for it, and which dials are in flight.

`Move` lists everything an instance does to its ledger as long as three slips
are avoided: opening a socket under an id that is in use, dialing a socket that
already has a dial in flight, and opening a connection for a socket that has
been closed.  `Owned` is the invariant these moves keep.
-/

namespace UnboundWasm.Host.Sockets

open UnboundWasm.Lib

/-- A host socket in the ledger. -/
structure Owner where
  id : Int
  typ : SockType
  udp : Option Nat
  tcp : Option Nat
  closed : Bool
  deriving DecidableEq, Repr

/-- An operating-system socket in the ledger. -/
structure Link where
  owner : Nat
  isOpen : Bool
  deriving DecidableEq, Repr

/-- A dial is in flight, has to close a connection its socket no longer wants,
or is over as far as the ledger is concerned. -/
inductive Flight where
  | inFlight
  | closing (conn : Nat)
  | landed
  deriving DecidableEq, Repr

/-- A dial in the ledger. -/
structure Attempt where
  sock : Nat
  flight : Flight
  deriving DecidableEq, Repr

/-- What the guest call answers for. -/
inductive Role where
  | free
  | holding (sock : Nat)
  | listening (sock : Nat)
  | leaving (sock : Nat)
  | closing (conns : List Nat)
  deriving DecidableEq, Repr

namespace Role

/-- The guest call answers for nothing that has to be closed. -/
def Quiet : Role → Prop
  | .leaving _ | .closing (_ :: _) => False
  | .free | .holding _ | .listening _ | .closing [] => True

/-- The sockets the guest call refers to are allocated. -/
def Ok (socks : Heap Owner) : Role → Prop
  | .holding sock | .leaving sock => sock < socks.size
  | .listening sock => sock < socks.size ∧ (socks.get sock).typ = .udp
  | .free | .closing _ => True

/-- Connections the guest call has still to close. -/
def conns : Role → List Nat
  | .closing conns => conns
  | .free | .holding _ | .listening _ | .leaving _ => []

@[simp] theorem conns_free : conns .free = [] := rfl

@[simp] theorem conns_leaving (sock : Nat) : conns (.leaving sock) = [] := rfl

@[simp] theorem conns_closing (conns : List Nat) : Role.conns (.closing conns) = conns := rfl

theorem conns_of_quiet {role : Role} (quiet : role.Quiet) : role.conns = [] := by
  cases role with
  | closing conns =>
      cases conns with
      | nil => rfl
      | cons => exact quiet.elim
  | free | holding | listening | leaving => rfl

theorem ne_leaving_of_quiet {role : Role} (quiet : role.Quiet) (sock : Nat) :
    role ≠ .leaving sock := by
  rintro rfl
  exact quiet

end Role

namespace ShutdownPc

/-- Connections the shutdown has still to close. -/
def conns : ShutdownPc → List Nat
  | .closeConns conns _ => conns
  | .idle | .timers | .sockets | .closing _ | .finished => []

@[simp] theorem conns_closing (todo : List Nat) : conns (.closing todo) = [] := rfl

@[simp] theorem conns_closeConns (conns todo : List Nat) :
    ShutdownPc.conns (.closeConns conns todo) = conns := rfl

end ShutdownPc

/-- The connections of a socket, closed together with it. -/
def Owner.toClose (owner : Owner) : List Nat :=
  if owner.closed then [] else owner.udp.toList ++ owner.tcp.toList

/-- The connections to be closed with a socket are those of an unclosed one. -/
theorem Owner.mem_toClose {owner : Owner} {conn : Nat} :
    conn ∈ owner.toClose ↔
      owner.closed = false ∧ (owner.udp = some conn ∨ owner.tcp = some conn) := by
  unfold Owner.toClose
  split <;> simp_all

/-- The ledger of one instance. -/
structure Ledger where
  entries : Option Entries
  socks : Heap Owner
  links : Heap Link
  attempts : Heap Attempt
  role : Role
  shutdown : ShutdownPc

namespace Ledger

/-- The socket registered under an id. -/
def lookup (L : Ledger) (id : Int) : Option Nat :=
  L.entries.bind fun entries => entries.lookup id

/-- Some entry of the map refers to the socket. -/
def Live (L : Ledger) (sock : Nat) : Prop := ∃ id, L.lookup id = some sock

/-- The sockets the entries refer to. -/
def entrySocks (L : Ledger) : List Nat :=
  match L.entries with
  | none => []
  | some entries => entries.entries.map fun entry => entry.2

theorem mem_entrySocks {L : Ledger} {sock : Nat} : sock ∈ L.entrySocks ↔ L.Live sock := by
  unfold entrySocks Live lookup
  cases L.entries with
  | none => simp
  | some entries =>
      simp only [List.mem_map, Option.bind_some]
      constructor
      · rintro ⟨⟨id, sock⟩, member, rfl⟩
        exact ⟨id, AList.mem_lookup_iff.mpr member⟩
      · rintro ⟨id, found⟩
        exact ⟨⟨id, sock⟩, AList.mem_lookup_iff.mp found, rfl⟩

/-- The connections that are open. -/
def openLinks (L : Ledger) : Finset Nat := L.links.refs fun _ link => link.isOpen

@[simp] theorem mem_openLinks {L : Ledger} {conn : Nat} :
    conn ∈ L.openLinks ↔ conn < L.links.size ∧ (L.links.get conn).isOpen = true := by
  simp [openLinks]

/-- The dials in flight. -/
def flights (L : Ledger) : Finset Nat :=
  L.attempts.refs fun _ attempt => attempt.flight = .inFlight

@[simp] theorem mem_flights {L : Ledger} {ref : Nat} :
    ref ∈ L.flights ↔ ref < L.attempts.size ∧ (L.attempts.get ref).flight = .inFlight := by
  simp [flights]

/-- The sockets that have an entry, an open connection or a dial in flight. -/
def charged (L : Ledger) : Finset Nat :=
  L.entrySocks.toFinset ∪
    (L.openLinks.image (fun conn => (L.links.get conn).owner) ∪
      L.flights.image fun ref => (L.attempts.get ref).sock)

theorem mem_charged {L : Ledger} {sock : Nat} :
    sock ∈ L.charged ↔ L.Live sock ∨
      (∃ conn < L.links.size, (L.links.get conn).isOpen = true ∧
        (L.links.get conn).owner = sock) ∨
      ∃ ref < L.attempts.size, (L.attempts.get ref).flight = .inFlight ∧
        (L.attempts.get ref).sock = sock := by
  simp [charged, mem_entrySocks, and_assoc]

/-- The connection belongs to a socket that has not been closed. -/
def InUse (L : Ledger) (conn : Nat) : Prop :=
  ∃ sock < L.socks.size, (L.socks.get sock).closed = false ∧
    ((L.socks.get sock).udp = some conn ∨ (L.socks.get sock).tcp = some conn)

/-- One of the goroutines closing sockets, or the dial that made the connection,
is about to close it. -/
def Pending (L : Ledger) (conn : Nat) : Prop :=
  conn ∈ L.role.conns ∨ conn ∈ L.shutdown.conns ∨
  L.attempts.Any fun attempt => attempt.flight = .closing conn

/-- No dial for the socket is in flight. -/
def NoFlight (L : Ledger) (sock : Nat) : Prop :=
  ∀ ref < L.attempts.size, (L.attempts.get ref).sock = sock →
    (L.attempts.get ref).flight ≠ .inFlight

/-- What the closing loop of the shutdown has done so far. -/
def ShutdownOk (L : Ledger) : ShutdownPc → Prop
  | .idle | .timers | .sockets => True
  | .closing todo | .closeConns _ todo =>
      ∀ sock, L.Live sock → (L.socks.get sock).closed = true ∨ sock ∈ todo
  | .finished => L.entries = none

/-- Every operating-system socket is answered for, and no host socket has two. -/
structure Owned (L : Ledger) : Prop where
  entry : ∀ id sock, L.lookup id = some sock →
    sock < L.socks.size ∧ (L.socks.get sock).id = id
  live : ∀ sock < L.socks.size, (L.socks.get sock).closed = false →
    L.Live sock ∨ L.role = .leaving sock
  held : ∀ conn < L.links.size, (L.links.get conn).isOpen = true →
    L.InUse conn ∨ L.Pending conn
  pending : ∀ conn, L.Pending conn →
    conn < L.links.size ∧ (L.socks.get (L.links.get conn).owner).closed = true
  udp : ∀ sock conn, (L.socks.get sock).udp = some conn →
    conn < L.links.size ∧ (L.links.get conn).owner = sock ∧ (L.socks.get sock).typ = .udp
  tcp : ∀ sock conn, (L.socks.get sock).tcp = some conn →
    conn < L.links.size ∧ (L.links.get conn).owner = sock ∧ (L.socks.get sock).typ = .tcp
  owner : ∀ conn < L.links.size, (L.links.get conn).owner < L.socks.size
  attempt : ∀ ref < L.attempts.size, (L.attempts.get ref).sock < L.socks.size ∧
    (L.socks.get (L.attempts.get ref).sock).typ = .tcp
  role : L.role.Ok L.socks
  shutdown : L.ShutdownOk L.shutdown
  oneLink : ∀ left < L.links.size, ∀ right < L.links.size,
    (L.links.get left).isOpen = true → (L.links.get right).isOpen = true →
    (L.links.get left).owner = (L.links.get right).owner → left = right
  oneFlight : ∀ left < L.attempts.size, ∀ right < L.attempts.size,
    (L.attempts.get left).flight = .inFlight → (L.attempts.get right).flight = .inFlight →
    (L.attempts.get left).sock = (L.attempts.get right).sock → left = right
  linkOrFlight : ∀ conn < L.links.size, ∀ ref < L.attempts.size,
    (L.links.get conn).isOpen = true → (L.attempts.get ref).flight = .inFlight →
    (L.links.get conn).owner ≠ (L.attempts.get ref).sock

/-- What an instance does to its ledger. `leaves` is what has to hold of a socket
whose entry is taken out. -/
inductive Move (leaves : Ledger → Nat → Prop) (L : Ledger) : Ledger → Prop where
  | turn (role : Role) : L.role.Quiet → role.Quiet → role.Ok L.socks →
      Move leaves L { L with role := role }
  | openSocket (entries : Entries) (id : Int) (typ : SockType) :
      L.role.Quiet → L.shutdown.holdsSocketsMu = false → L.entries = some entries →
      entries.keys.length < State.maxSocketsPerInstance → L.lookup id = none →
      Move leaves L { L with
        entries := some (entries.insert id L.socks.size)
        socks := L.socks.alloc ⟨id, typ, none, none, false⟩ }
  | listen (sock : Nat) :
      L.role.Quiet → sock < L.socks.size → (L.socks.get sock).closed = false →
      (L.socks.get sock).typ = .udp → (L.socks.get sock).udp = none →
      Move leaves L { L with
        links := L.links.alloc ⟨sock, true⟩
        socks := L.socks.modify sock fun owner => { owner with udp := some L.links.size } }
  | dial (sock : Nat) :
      L.role.Quiet → sock < L.socks.size → (L.socks.get sock).closed = false →
      (L.socks.get sock).typ = .tcp → (L.socks.get sock).tcp = none → L.NoFlight sock →
      Move leaves L { L with attempts := L.attempts.alloc ⟨sock, .inFlight⟩ }
  | miss (ref : Nat) :
      ref < L.attempts.size → (L.attempts.get ref).flight = .inFlight →
      Move leaves L { L with
        attempts := L.attempts.modify ref fun attempt => { attempt with flight := .landed } }
  | landUnwanted (ref : Nat) :
      ref < L.attempts.size → (L.attempts.get ref).flight = .inFlight →
      (L.socks.get (L.attempts.get ref).sock).closed = true →
      Move leaves L { L with
        links := L.links.alloc ⟨(L.attempts.get ref).sock, true⟩
        attempts := L.attempts.modify ref fun attempt =>
          { attempt with flight := .closing L.links.size } }
  | land (ref : Nat) :
      ref < L.attempts.size → (L.attempts.get ref).flight = .inFlight →
      (L.socks.get (L.attempts.get ref).sock).closed = false →
      Move leaves L { L with
        links := L.links.alloc ⟨(L.attempts.get ref).sock, true⟩
        socks := L.socks.modify (L.attempts.get ref).sock fun owner =>
          { owner with tcp := some L.links.size }
        attempts := L.attempts.modify ref fun attempt => { attempt with flight := .landed } }
  | discard (ref conn : Nat) :
      ref < L.attempts.size → (L.attempts.get ref).flight = .closing conn →
      Move leaves L { L with
        links := L.links.modify conn fun link => { link with isOpen := false }
        attempts := L.attempts.modify ref fun attempt => { attempt with flight := .landed } }
  | erase (entries : Entries) (id : Int) (sock : Nat) :
      L.role.Quiet → L.shutdown.holdsSocketsMu = false → L.entries = some entries →
      L.lookup id = some sock → leaves L sock →
      Move leaves L { L with entries := some (entries.erase id), role := .leaving sock }
  | retire (sock : Nat) :
      L.role = .leaving sock →
      Move leaves L { L with
        socks := L.socks.modify sock fun owner => { owner with closed := true }
        role := .closing (L.socks.get sock).toClose }
  | closeOne (conn : Nat) (conns : List Nat) :
      L.role = .closing (conn :: conns) →
      Move leaves L { L with
        links := L.links.modify conn fun link => { link with isOpen := false }
        role := .closing conns }
  | beginShutdown : L.shutdown = .idle → Move leaves L { L with shutdown := .timers }
  | stopTimers : L.shutdown = .timers → Move leaves L { L with shutdown := .sockets }
  | takeEntries (todo : List Nat) :
      L.shutdown = .sockets → (∀ sock, L.Live sock → sock ∈ todo) →
      Move leaves L { L with shutdown := .closing todo }
  | visit (todo : List Nat) (pick sock : Nat) :
      L.shutdown = .closing todo → todo[pick]? = some sock →
      Move leaves L { L with
        socks := L.socks.modify sock fun owner => { owner with closed := true }
        shutdown := .closeConns (L.socks.get sock).toClose (todo.eraseIdx pick) }
  | visited (todo : List Nat) :
      L.shutdown = .closeConns [] todo → Move leaves L { L with shutdown := .closing todo }
  | sweep (conn : Nat) (conns todo : List Nat) :
      L.shutdown = .closeConns (conn :: conns) todo →
      Move leaves L { L with
        links := L.links.modify conn fun link => { link with isOpen := false }
        shutdown := .closeConns conns todo }
  | finish : L.shutdown = .closing [] →
      Move leaves L { L with entries := none, shutdown := .finished }

end Ledger

end UnboundWasm.Host.Sockets
