import UnboundWasm.Host.Sockets.Ownership

/-!
# What a shutdown leaves behind

`shutdown` runs without the guest lock, so it can fall between any two sections
of an import.  In regular runs it leaves no connection open.  The one import
that is not covered is `sock_send_to`, which looks at `closed` in one section
and opens the UDP socket in the next.
-/

namespace UnboundWasm.Host.Sockets

open UnboundWasm.Lib

namespace State

/-- Shutdown, the guest call and all dials have finished. -/
structure AtRest (s : State) : Prop where
  finished : s.shutdown = .finished
  outside : s.guest = .outside
  dialed : ∀ ref < s.dials.size, (s.dials.get ref).pc = .done

/-- At rest, nobody answers for a connection, so an owned one is closed. -/
theorem AtRest.closed {s : State} (rest : s.AtRest) (owned : s.ledger.Owned) {conn : Nat}
    (allocated : conn < s.conns.size) : (s.conns.get conn).isOpen = false := by
  by_contra isOpen
  have shut := owned.shutdown
  rw [show s.ledger.shutdown = .finished from rest.finished] at shut
  rcases owned.held conn allocated (by simpa [ledger, Conn.link] using isOpen) with
    ⟨sock, bound, unclosed, -⟩ | byGuest | byShutdown | ⟨ref, bound, byDial⟩
  · rcases owned.live sock bound unclosed with ⟨id, found⟩ | leaving
    · have gone : s.ledger.entries = none := shut
      simp [Ledger.lookup, gone] at found
    · simp [ledger, rest.outside, GuestPc.role] at leaving
  · simp [ledger, rest.outside, GuestPc.role] at byGuest
  · simp [ledger, rest.finished, ShutdownPc.conns] at byShutdown
  · simp [ledger, Dial.attempt, rest.dialed ref bound, DialPc.flight] at byDial

/-- The guest call holds no socket. -/
def GuestPc.Empty : GuestPc → Prop
  | .outside | .running | .openSocket _ _ | .lookup _ _ | .delete _ => True
  | _ => False

/-- The instance is shut down for good: no entry is left to start from, and no
goroutine holds a connection or is about to make one. -/
structure Sealed (conns : Heap Conn) (s : State) : Prop where
  finished : s.shutdown = .finished
  unregistered : s.sockets = none
  guest : GuestPc.Empty s.guest
  dialed : ∀ ref < s.dials.size, (s.dials.get ref).pc = .done
  unchanged : s.conns = conns

namespace Sealed

variable {conns : Heap Conn} {s : State}

theorem ret (sealed : s.Sealed conns) (result : Int) : (s.ret result).Sealed conns :=
  { sealed with guest := trivial }

theorem goto (sealed : s.Sealed conns) {pc : GuestPc} (empty : GuestPc.Empty pc) :
    (s.goto pc).Sealed conns :=
  { sealed with guest := empty }

theorem entered {t : State} (sealed : s.Sealed conns) (entered : Entered s t) :
    t.Sealed conns := by
  cases entered with
  | ret result => exact sealed.ret result
  | openSocket | lookup | delete => exact sealed.goto trivial

theorem passive {t : State} (sealed : s.Sealed conns) (passive : Passive s t) :
    t.Sealed conns where
  finished := by
    rcases passive.shutdown with same | ⟨idle, -⟩
    · rw [same, sealed.finished]
    · simp [sealed.finished] at idle
  unregistered := by rw [passive.sockets, sealed.unregistered]
  guest := by
    rw [passive.guest]
    exact sealed.guest
  dialed := by
    rw [passive.dials]
    exact sealed.dialed
  unchanged := by rw [passive.conns, sealed.unchanged]

/-- A sealed instance stays sealed whatever is called. -/
theorem step (sealed : s.Sealed conns) {t : State} {action : Action}
    (stepped : s.step action = some t) : t.Sealed conns := by
  have absent : ∀ id, s.socket id = none := by simp [socket, sealed.unregistered]
  have empty {pc : GuestPc} (here : s.guest = pc) : GuestPc.Empty pc := here ▸ sealed.guest
  cases moved_of_step stepped with
  | enter | leave => exact sealed.goto trivial
  | dispatch => exact { sealed with guest := trivial }
  | compute => exact { sealed with }
  | call => exact sealed.entered (s.entered_call _)
  | openSocket =>
      simp only [sockOpen, sealed.unregistered]
      exact sealed.ret _
  | lookup =>
      simp only [lookupSock, absent]
      exact sealed.ret _
  | delete =>
      simp only [sockDelete, absent, sealed.unregistered, Option.map_none]
      exact { sealed with unregistered := rfl, guest := trivial }
  | holding here | listen here | writeUdp here | writeTcp here | sent here | stuck here
  | released here | close here | closed here | closeConn here => exact (empty here).elim
  | dialFailed started here | dialSucceeded started here | dialClose started here
  | dialEnqueue started here | dialSpawn started here | dialWoken started here =>
      simp [sealed.dialed _ started] at here
  | read | source | push | pushEnqueue | readError | errorEnqueue | readerWoken =>
      exact sealed.passive (passive_readerStep stepped)
  | shutdown here | timers here | sockets here | finish here | visit here | visited here
  | sweep here => simp [sealed.finished] at here

end Sealed

/-- At rest after a regular run, the instance is sealed. -/
theorem AtRest.sealed {s : State} (rest : s.AtRest) (owned : s.ledger.Owned) :
    s.Sealed s.conns where
  finished := rest.finished
  unregistered := by
    have shut := owned.shutdown
    rw [show s.ledger.shutdown = .finished from rest.finished] at shut
    exact shut
  guest := by
    rw [rest.outside]
    trivial
  dialed := rest.dialed
  unchanged := rfl

end State

/-- A shutdown that interleaves with a regular run leaves nothing behind: once
it, the guest call and all dials have finished, every connection ever created
has been closed, and no later call creates another one. -/
theorem shutdown_leaks_nothing (s : State)
    (reaches : machine.Reaches State.Regular machine.initial s) (rest : s.AtRest) :
    (∀ conn < s.conns.size, (s.conns.get conn).isOpen = false) ∧
    ∀ later, machine.Reaches Machine.always s later → later.conns = s.conns := by
  have owned := owned_of_regular reaches
  refine ⟨fun conn allocated => rest.closed owned allocated, ?_⟩
  intro later continued
  have sealed : later.Sealed s.conns :=
    continued.invariant (fun _ _ _ held _ stepped => State.Sealed.step held stepped)
      (rest.sealed owned)
  exact sealed.unchanged

/-- A guest sends one datagram and returns; then the instance is closed. -/
def sendThenClose : List Action :=
  [.enter, .compute ⟨5, fun _ => 8⟩, .call (.sockOpen 4 1), .guest {},
   .call (.sockSendTo 1 0 4 53 4 1), .guest {}, .guest {}, .guest {}, .guest {}, .leave] ++
  List.replicate 7 (.shutdown 0)

theorem shutdown_leaks_nothing_sendThenClose :
    ∃ s, machine.runWhen State.Regular machine.initial sendThenClose = some s ∧
      s.conns.size = 1 ∧ (s.conns.get 0).isOpen = false := by
  obtain ⟨s, ran, created, rest⟩ :
      ∃ s, machine.runWhen State.Regular machine.initial sendThenClose = some s ∧
        s.conns.size = 1 ∧ s.AtRest :=
    ⟨_, rfl, rfl, rfl, rfl, by decide⟩
  have closed := (shutdown_leaks_nothing s (Machine.reaches_of_runWhen ran) rest).1
  exact ⟨s, ran, created, closed 0 (by rw [created]; decide)⟩

/-- The same guest, with the whole shutdown falling between the two sections of
`sock_send_to`. -/
def closeDuringSend : List Action :=
  [.enter, .compute ⟨5, fun _ => 8⟩, .call (.sockOpen 4 1), .guest {},
   .call (.sockSendTo 1 0 4 53 4 1), .guest {}, .guest {}] ++
  List.replicate 6 (.shutdown 0) ++ [.guest {}, .guest {}, .leave]

/-- The UDP socket opened by the second section stays open after everything has
finished. -/
theorem closeDuringSend_leaks :
    ∃ s, machine.run machine.initial closeDuringSend = some s ∧ s.AtRest ∧
      s.conns.size = 1 ∧ (s.conns.get 0).isOpen = true :=
  ⟨_, rfl, ⟨rfl, rfl, by decide⟩, rfl, rfl⟩

end UnboundWasm.Host.Sockets
