import UnboundWasm.Host.Sockets.Ownership

/-!
# How many descriptors an instance holds

The cap of `sock_open` counts entries of the socket map.  Operating-system
sockets are made later and elsewhere, by `sock_bind`, `sock_send_to` and
finished dials, so the cap bounds them only as long as every one of them belongs
to a host socket that is charged for it.
-/

namespace UnboundWasm.Host.Sockets

open UnboundWasm.Lib

namespace State

/-- Operating-system sockets the instance holds: open connections and dials in
flight. -/
def descriptors (s : State) : Nat :=
  (s.conns.refs fun _ conn => conn.isOpen).card +
    (s.dials.refs fun _ dial => dial.pc = .dialing).card

/-- A step that is regular and does not take a socket out of the map that has a
dial in flight. -/
def Frugal (s : State) (action : Action) : Prop :=
  s.Regular action ∧ ∀ sock ∈ s.parting action, s.NoDial sock

instance (s : State) (action : Action) : Decidable (s.Frugal action) :=
  inferInstanceAs (Decidable (_ ∧ _))

/-- Exactly one entry refers to the socket, or `sock_close` has taken it out and
is about to close it. -/
def Listed (s : State) (sock : Nat) : Prop :=
  (∃! id, s.socket id = some sock) ∨ s.guest = .close sock

/-- A closing goroutine holds the connection and closes it next. -/
def Closing (s : State) (conn : Nat) : Prop :=
  (∃ conns, s.guest = .closeConns conns ∧ conn ∈ conns) ∨
  (∃ conns todo, s.shutdown = .closeConns conns todo ∧ conn ∈ conns) ∨
  ∃ ref < s.dials.size, (s.dials.get ref).pc.flight = .closing conn

/-- The connection belongs to one open, listed host socket and to no other, or
its host socket is closed and so will the connection be. -/
def OwnedConn (s : State) (conn : Nat) : Prop :=
  let sock := (s.conns.get conn).owner
  ((s.socks.get sock).closed = false ∧ s.Listed sock ∧
    ∀ other, (s.socks.get other).udp = some conn ∨ (s.socks.get other).tcp = some conn ↔
      other = sock) ∨
  (s.socks.get sock).closed = true ∧ s.Closing conn

/-- The dial belongs to an open, listed host socket, or to a closed one, in
which case `connectTCP` closes the connection it gets. -/
def OwnedDial (s : State) (ref : Nat) : Prop :=
  let sock := (s.dials.get ref).sock
  (s.socks.get sock).closed = false ∧ s.Listed sock ∨ (s.socks.get sock).closed = true

end State

namespace Ledger

variable {L M : Ledger}

/-- A socket may still be opened, now or later. -/
def Accepts (L : Ledger) : Prop := L.entries ≠ none ∧ L.shutdown.holdsSocketsMu = false

/-- Every dial in flight is for an open socket that stays in the map, and no dial has a
connection to close. -/
structure Settled (L : Ledger) : Prop where
  flying : ∀ ref < L.attempts.size, (L.attempts.get ref).flight = .inFlight →
    (L.socks.get (L.attempts.get ref).sock).closed = false
  staying : ∀ sock, L.role = .leaving sock → L.NoFlight sock
  wanted : ∀ ref < L.attempts.size, ∀ conn, (L.attempts.get ref).flight ≠ .closing conn

/-- Then every charged socket has an entry. -/
theorem Owned.charged_of_settled (owned : L.Owned) (settled : L.Settled) (quiet : L.role.Quiet)
    (unlocked : L.shutdown.holdsSocketsMu = false) : L.charged ⊆ L.entrySocks.toFinset := by
  have live {sock : Nat} (allocated : sock < L.socks.size)
      (unclosed : (L.socks.get sock).closed = false) : sock ∈ L.entrySocks.toFinset := by
    rw [List.mem_toFinset, mem_entrySocks]
    exact (owned.live sock allocated unclosed).resolve_right (Role.ne_leaving_of_quiet quiet sock)
  intro sock charged
  rcases mem_charged.mp charged with entry | ⟨conn, allocated, isOpen, rfl⟩ |
    ⟨ref, allocated, inFlight, rfl⟩
  · rw [List.mem_toFinset, mem_entrySocks]
    exact entry
  · rcases owned.held conn allocated isOpen with ⟨sock, bound, unclosed, udp | tcp⟩ | pending
    · rw [(owned.udp sock conn udp).2.1]
      exact live bound unclosed
    · rw [(owned.tcp sock conn tcp).2.1]
      exact live bound unclosed
    · rcases pending with byGuest | byShutdown | ⟨ref, allocated, closing⟩
      · rw [Role.conns_of_quiet quiet] at byGuest
        cases byGuest
      · cases pc : L.shutdown <;> simp_all [ShutdownPc.holdsSocketsMu, ShutdownPc.conns]
      · exact absurd closing (settled.wanted ref allocated conn)
  · exact live (owned.attempt ref allocated).1 (settled.flying ref allocated inFlight)

theorem Move.accepts (move : Move NoFlight L M) (accepts : M.Accepts) : L.Accepts := by
  cases move <;> simp_all [Accepts, ShutdownPc.holdsSocketsMu]

/-- Dials land, and no socket is closed. -/
theorem Settled.frame (settled : L.Settled) (role : M.role = L.role)
    (closed : ∀ sock, (M.socks.get sock).closed = (L.socks.get sock).closed)
    (attempts : ∀ ref < M.attempts.size, (M.attempts.get ref).flight = .landed ∨
      ref < L.attempts.size ∧ M.attempts.get ref = L.attempts.get ref) : M.Settled := by
  constructor
  case flying =>
    intro ref allocated inFlight
    rcases attempts ref allocated with landed | ⟨old, same⟩
    · rw [landed] at inFlight
      cases inFlight
    · rw [same] at inFlight ⊢
      rw [closed]
      exact settled.flying ref old inFlight
  case staying =>
    intro sock leaving ref allocated own inFlight
    rcases attempts ref allocated with landed | ⟨old, same⟩
    · rw [landed] at inFlight
      cases inFlight
    · rw [same] at own inFlight
      exact settled.staying sock (role ▸ leaving) ref old own inFlight
  case wanted =>
    intro ref allocated conn closing
    rcases attempts ref allocated with landed | ⟨old, same⟩
    · rw [landed] at closing
      cases closing
    · exact settled.wanted ref old conn (same ▸ closing)

/-- A dial ends. -/
theorem landed_of_modify (attempts : Heap Attempt) (ref other : Nat)
    (allocated : other < attempts.size) :
    ((attempts.modify ref fun attempt => { attempt with flight := .landed }).get other).flight =
        .landed ∨
      other < attempts.size ∧
        (attempts.modify ref fun attempt => { attempt with flight := .landed }).get other =
          attempts.get other := by
  rw [Heap.get_modify]
  split
  · exact .inl rfl
  · exact .inr ⟨allocated, rfl⟩

theorem Move.settled (move : Move NoFlight L M) (owned : L.Owned) (settled : L.Settled)
    (accepts : M.Accepts) : M.Settled := by
  obtain ⟨flying, staying, wanted⟩ := settled
  cases move with
  | turn role quiet still ok =>
      refine ⟨flying, ?_, wanted⟩
      exact fun sock leaving => absurd leaving (Role.ne_leaving_of_quiet still sock)
  | openSocket entries id typ quiet unlocked registered few unused =>
      refine ⟨?_, staying, wanted⟩
      intro ref allocated inFlight
      have old := (owned.attempt ref allocated).1
      simp only [Heap.get_alloc, if_neg (Nat.ne_of_lt old)]
      exact flying ref allocated inFlight
  | listen sock quiet allocated unclosed typ udp =>
      refine Settled.frame ⟨flying, staying, wanted⟩ rfl ?_ fun ref old => .inr ⟨old, rfl⟩
      intro other
      simp only [Heap.get_modify]
      split
      next same => rw [same]
      · rfl
  | dial sock quiet allocated unclosed typ tcp single =>
      refine ⟨?_, fun sock leaving => absurd leaving (Role.ne_leaving_of_quiet quiet sock), ?_⟩
      · intro ref bound inFlight
        simp only [Heap.get_alloc, Heap.size_alloc] at bound inFlight ⊢
        split
        · exact unclosed
        next old =>
          rw [if_neg old] at inFlight
          exact flying ref (by omega) inFlight
      · intro ref bound conn
        simp only [Heap.get_alloc, Heap.size_alloc] at bound ⊢
        split
        · exact Flight.noConfusion
        · exact wanted ref (by omega) conn
  | landUnwanted ref allocated inFlight closed =>
      rw [flying ref allocated inFlight] at closed
      cases closed
  | discard ref conn allocated closing => exact absurd closing (wanted ref allocated conn)
  | miss ref =>
      exact Settled.frame ⟨flying, staying, wanted⟩ rfl (fun _ => rfl)
        (landed_of_modify L.attempts ref)
  | land ref =>
      refine Settled.frame ⟨flying, staying, wanted⟩ rfl ?_ (landed_of_modify L.attempts ref)
      intro other
      simp only [Heap.get_modify]
      split
      next same => rw [same]
      · rfl
  | erase entries id sock quiet unlocked registered found single =>
      refine ⟨flying, ?_, wanted⟩
      rintro _ ⟨⟩
      exact single
  | retire sock leaving =>
      refine ⟨?_, fun _ => Role.noConfusion, wanted⟩
      intro ref allocated inFlight
      rw [Heap.get_modify, if_neg]
      · exact flying ref allocated inFlight
      · intro same
        exact staying sock leaving ref allocated same inFlight
  | closeOne => exact ⟨flying, fun _ => Role.noConfusion, wanted⟩
  | beginShutdown | stopTimers => exact ⟨flying, staying, wanted⟩
  | takeEntries | visit | visited | sweep => cases accepts.2
  | finish => exact absurd rfl accepts.1

/-- The cap on entries bounds the charge. -/
theorem Move.charged_le (move : Move NoFlight L M) (owned : L.Owned)
    (settled : L.Accepts → L.Settled) (within : L.charged.card ≤ State.maxSocketsPerInstance) :
    M.charged.card ≤ State.maxSocketsPerInstance := by
  rcases move.charged_subset owned with
    fewer | ⟨quiet, unlocked, ⟨entries, registered, few⟩, oneMore⟩
  · exact (Finset.card_le_card fewer).trans within
  · have accepts : L.Accepts := ⟨by simp [registered], unlocked⟩
    have listed := owned.charged_of_settled (settled accepts) quiet unlocked
    have entriesSize : L.entrySocks.length = entries.keys.length := by
      simp [entrySocks, registered, AList.keys, List.keys]
    calc M.charged.card
        ≤ (insert L.socks.size L.charged).card := Finset.card_le_card oneMore
      _ ≤ L.charged.card + 1 := Finset.card_insert_le _ _
      _ ≤ L.entrySocks.toFinset.card + 1 := Nat.succ_le_succ (Finset.card_le_card listed)
      _ ≤ entries.keys.length + 1 :=
        Nat.succ_le_succ (entriesSize ▸ List.toFinset_card_le L.entrySocks)
      _ ≤ State.maxSocketsPerInstance := few

end Ledger

namespace State

variable {s : State}

theorem descriptors_le_charged (owned : s.ledger.Owned) :
    s.descriptors ≤ s.ledger.charged.card := by
  have conns : s.conns.refs (fun _ conn => conn.isOpen) ⊆ s.ledger.openLinks := by
    intro conn isOpen
    simpa [ledger, Conn.link] using isOpen
  have dials : s.dials.refs (fun _ dial => dial.pc = .dialing) ⊆ s.ledger.flights := by
    intro ref dialing
    simp only [Heap.mem_refs, decide_eq_true_eq] at dialing
    simp [ledger, Dial.attempt, dialing.1, dialing.2, DialPc.flight]
  calc s.descriptors
      ≤ s.ledger.openLinks.card + s.ledger.flights.card :=
        Nat.add_le_add (Finset.card_le_card conns) (Finset.card_le_card dials)
    _ ≤ s.ledger.charged.card := owned.descriptors_le_charged

theorem listed_of_unclosed (owned : s.ledger.Owned) {sock : Nat}
    (allocated : sock < s.socks.size) (unclosed : (s.socks.get sock).closed = false) :
    s.Listed sock := by
  rcases owned.live sock allocated unclosed with ⟨id, found⟩ | leaving
  · refine .inl ⟨id, found, ?_⟩
    intro other also
    rw [← (owned.entry other sock also).2, (owned.entry id sock found).2]
  · right
    simp only [ledger] at leaving
    cases pc : s.guest <;> simp_all [GuestPc.role]

theorem closing_of_pending {conn : Nat} (pending : s.ledger.Pending conn) : s.Closing conn := by
  rcases pending with byGuest | byShutdown | byDial
  · left
    simp only [ledger] at byGuest
    cases pc : s.guest <;> simp_all [GuestPc.role, Role.conns]
  · right; left
    simp only [ledger] at byShutdown
    cases pc : s.shutdown <;> simp_all [ShutdownPc.conns]
  · exact .inr (.inr byDial)

theorem ownedConn_of_open (owned : s.ledger.Owned) {conn : Nat} (allocated : conn < s.conns.size)
    (isOpen : (s.conns.get conn).isOpen = true) : s.OwnedConn conn := by
  rcases owned.held conn allocated isOpen with ⟨sock, bound, unclosed, used⟩ | pending
  · have owner : ∀ other, (s.socks.get other).udp = some conn ∨
        (s.socks.get other).tcp = some conn → (s.conns.get conn).owner = other := by
      rintro other (udp | tcp)
      · exact (owned.udp other conn udp).2.1
      · exact (owned.tcp other conn tcp).2.1
    have same := owner sock used
    refine .inl ?_
    simp only [same]
    refine ⟨unclosed, listed_of_unclosed owned bound unclosed, fun other => ⟨?_, ?_⟩⟩
    · intro held
      rw [← same, owner other held]
    · rintro rfl
      exact used
  · exact .inr ⟨(owned.pending conn pending).2, closing_of_pending pending⟩

theorem ownedDial_of_dialing (owned : s.ledger.Owned) {ref : Nat}
    (allocated : ref < s.dials.size) : s.OwnedDial ref := by
  cases closed : (s.socks.get (s.dials.get ref).sock).closed with
  | true => exact .inr closed
  | false =>
      exact .inl ⟨closed, listed_of_unclosed owned (owned.attempt ref allocated).1 closed⟩

end State

/-- In every frugal run the instance holds at most `maxSocketsPerInstance`
operating-system sockets, each owned by one listed host socket or on its way to
being closed. -/
theorem descriptors_bounded (s : State)
    (reaches : machine.Reaches State.Frugal machine.initial s) :
    s.descriptors ≤ State.maxSocketsPerInstance ∧
    (∀ conn < s.conns.size, (s.conns.get conn).isOpen = true → s.OwnedConn conn) ∧
    ∀ ref < s.dials.size, (s.dials.get ref).pc = .dialing → s.OwnedDial ref := by
  have kept : ∀ L M : Ledger, L.Owned → L.Move Ledger.NoFlight M →
      ((L.Accepts → L.Settled) ∧ L.charged.card ≤ State.maxSocketsPerInstance) →
      (M.Accepts → M.Settled) ∧ M.charged.card ≤ State.maxSocketsPerInstance := by
    rintro L M owned move ⟨settled, within⟩
    exact ⟨fun accepts => move.settled owned (settled (move.accepts accepts)) accepts,
      move.charged_le owned settled within⟩
  have start : State.initial.ledger.Settled := by
    constructor <;> simp [State.initial, State.ledger, GuestPc.role]
  obtain ⟨owned, -, within⟩ := ledger_of_regular _ kept reaches ⟨fun _ => start, by decide⟩
  refine ⟨(State.descriptors_le_charged owned).trans within, ?_, ?_⟩
  · intro conn allocated isOpen
    exact State.ownedConn_of_open owned allocated isOpen
  · intro ref allocated _
    exact State.ownedDial_of_dialing owned allocated

/-- Open a TCP socket and connect it to 8.8.8.8; the dial is in flight. -/
def connectOnce : List Action :=
  [.enter, .compute ⟨4, fun _ => 8⟩, .call (.sockOpen 4 2), .guest {},
   .call (.sockConnect 1 0 4 53), .guest {}, .guest {}]

theorem descriptors_bounded_connectOnce :
    ∃ s, machine.runWhen State.Frugal machine.initial connectOnce = some s ∧
      s.dials.size = 1 ∧ s.OwnedDial 0 ∧ s.descriptors ≤ State.maxSocketsPerInstance := by
  obtain ⟨s, ran, dialed, dialing⟩ :
      ∃ s, machine.runWhen State.Frugal machine.initial connectOnce = some s ∧
        s.dials.size = 1 ∧ (s.dials.get 0).pc = .dialing :=
    ⟨_, rfl, rfl, rfl⟩
  have bounded := descriptors_bounded s (Machine.reaches_of_runWhen ran)
  exact ⟨s, ran, dialed, bounded.2.2 0 (by rw [dialed]; decide) dialing, bounded.1⟩

/-- 8.8.8.8, port 53. -/
def publicServer : AddrPort := ⟨.from4 [8, 8, 8, 8], 53⟩

/-- A guest that has connected its one TCP socket a number of times, with every
dial still in flight. -/
structure Redialing (s : State) (count : Nat) : Prop where
  guest : s.guest = .running
  memory : s.memory = ⟨4, fun _ => 8⟩
  shutdown : s.shutdown = .idle
  entry : s.socket 1 = some 0
  unclosed : (s.socks.get 0).closed = false
  typ : (s.socks.get 0).typ = .tcp
  tcp : (s.socks.get 0).tcp = none
  dials : s.dials.size = count
  dialing : ∀ ref < count, (s.dials.get ref).pc = .dialing

/-- Nothing keeps the guest from connecting once more. -/
theorem Redialing.again {s : State} {count : Nat} (redialing : Redialing s count) :
    ∃ t, machine.Reaches Machine.always s t ∧ Redialing t (count + 1) := by
  obtain ⟨guest, memory, shutdown, entry, unclosed, typ, tcp, dials, dialing⟩ := redialing
  have called : machine.step s (.call (.sockConnect 1 0 4 53)) =
      some (s.goto (.lookup 1 (.connect publicServer))) := by
    have address : readAddr s.memory 0 4 = some publicServer.addr := by rw [memory]; rfl
    have allowed : egressAllowed ⟨publicServer.addr, 53⟩ = true := by decide
    simp [machine, State.step, guest, State.call, address, State.sockConnect, allowed]
    rfl
  have found : machine.step (s.goto (.lookup 1 (.connect publicServer))) (.guest {}) =
      some (s.goto (.holding 1 0 (.connect publicServer))) := by
    have looked : (s.goto (.lookup 1 (.connect publicServer))).lookupSock 1
        (.connect publicServer) = s.goto (.holding 1 0 (.connect publicServer)) := by
      unfold State.lookupSock
      rw [show (s.goto (.lookup 1 (.connect publicServer))).socket 1 = some 0 from entry]
      rfl
    simpa [machine, State.step, State.guestStep, State.goto, shutdown,
      ShutdownPc.holdsSocketsMu] using looked
  have dialed : machine.step (s.goto (.holding 1 0 (.connect publicServer))) (.guest {}) =
      some ((((s.goto (.holding 1 0 (.connect publicServer))).onSock 0
        (fun sock => { sock with remote := publicServer })).startDial
          ⟨0, (s.socks.get 0).af, (s.socks.get 0).bindPort, publicServer, .dialing⟩).ret 0) := by
    simp [machine, State.step, State.guestStep, State.goto, State.onHolding,
      State.sockConnectLocked, unclosed, typ, tcp]
  refine ⟨_, (((Machine.Reaches.refl s).step trivial called).step trivial found).step trivial
    dialed, rfl, memory, shutdown, entry, ?_, ?_, ?_, ?_, ?_⟩
  · simpa [State.ret, State.startDial, State.onSock, State.goto, State.observe] using unclosed
  · simpa [State.ret, State.startDial, State.onSock, State.goto, State.observe] using typ
  · simpa [State.ret, State.startDial, State.onSock, State.goto, State.observe] using tcp
  · simpa [State.ret, State.startDial, State.onSock, State.goto, State.observe] using dials
  · intro ref bound
    simp only [State.ret, State.startDial, State.onSock, State.goto, State.observe,
      Heap.get_alloc]
    grind

theorem exists_redialing (count : Nat) :
    ∃ s, machine.Reachable s ∧ Redialing s (count + 1) := by
  induction count with
  | zero =>
      obtain ⟨s, ran, base⟩ :
          ∃ s, machine.run machine.initial connectOnce = some s ∧ Redialing s 1 :=
        ⟨_, rfl, rfl, rfl, rfl, rfl, rfl, rfl, rfl, rfl, by decide⟩
      exact ⟨s, Machine.reaches_of_run ran, base⟩
  | succ count ih =>
      obtain ⟨s, reachable, redialing⟩ := ih
      obtain ⟨t, more, again⟩ := redialing.again
      exact ⟨t, reachable.trans more, again⟩

theorem Redialing.le_descriptors {s : State} {count : Nat} (redialing : Redialing s count) :
    count ≤ s.descriptors := by
  have all : s.dials.refs (fun _ dial => dial.pc = .dialing) = Finset.range count := by
    ext ref
    simp only [Heap.mem_refs, decide_eq_true_eq, Finset.mem_range, redialing.dials]
    exact ⟨fun found => found.1, fun bound => ⟨bound, redialing.dialing ref bound⟩⟩
  unfold State.descriptors
  rw [all, Finset.card_range]
  exact Nat.le_add_left _ _

/-- Connect the socket of `connectOnce` again before its dial is done; then both
dials succeed. -/
def connectTwice : List Action :=
  connectOnce ++ [.call (.sockConnect 1 0 4 53), .guest {}, .guest {}, .dial 0 {}, .dial 1 {}]

/-- One entry is enough to exceed the cap, and when two of its dials succeed,
the first connection is left open with nobody to close it. -/
theorem redialing_unowned :
    (∃ s, machine.Reachable s ∧ State.maxSocketsPerInstance < s.descriptors) ∧
    ∃ s, machine.run machine.initial connectTwice = some s ∧ 0 < s.conns.size ∧
      (s.conns.get 0).isOpen = true ∧ ¬ s.OwnedConn 0 := by
  refine ⟨?_, _, rfl, by decide, rfl, ?_⟩
  · obtain ⟨s, reachable, redialing⟩ := exists_redialing State.maxSocketsPerInstance
    exact ⟨s, reachable, redialing.le_descriptors⟩
  · rintro (⟨-, -, users⟩ | ⟨closed, -⟩)
    · rcases (users 0).mpr rfl with udp | tcp
      · cases udp
      · cases tcp
    · cases closed

end UnboundWasm.Host.Sockets
