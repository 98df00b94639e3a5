import UnboundWasm.Host.Sockets.Ownership

/-!
# Host sockets: ids

`sock_open` takes its ids from `nextSocket`, an `int32` that only counts up.  Only two imports
and the shutdown touch the table of sockets; the rest of the machine is a frame.  The ids are
positive and new until the counter wraps, after 2^31 - 1 sockets, and no longer.
-/

namespace UnboundWasm.Host.Sockets

open UnboundWasm.Lib

/-- The id a step returns with a new entry. -/
def opened (s : State) (action : Action) : Option Int :=
  if s.opens action then some s.nextSocket else none

/-- A step in which `sock_open` returns, from its argument check or from its section. -/
def ReturnsOpen (s : State) (action : Action) (t : State) : Prop :=
  (∃ af typ, action = .call (.sockOpen af typ) ∧ t.guest = .running) ∨
    ∃ reply af typ, action = .guest reply ∧ s.guest = .openSocket af typ

/-- What `sock_open` should do: fail and change nothing, or add an entry under a positive id
that is neither live nor one it has returned before. -/
def OpensFresh (s : State) (returned : List Int) (t : State) : Prop :=
  (t.returned < 0 ∧ t.sockets = s.sockets) ∨
    0 < t.returned ∧ s.socket t.returned = none ∧ t.returned ∉ returned ∧
      ∃ entries, s.sockets = some entries ∧
        t.sockets = some (entries.insert t.returned s.socks.size)

/-- What the ids depend on: the entries, the counter, and how many sockets there are. -/
structure Table where
  entries : Option Entries
  next : Int
  size : Nat

namespace State

variable {s t : State}

def table (s : State) : Table := ⟨s.sockets, s.nextSocket, s.socks.size⟩

/-! ## The frame -/

@[simp] theorem table_ret (result : Int) : (s.ret result).table = s.table := rfl

@[simp] theorem table_goto (pc : GuestPc) : (s.goto pc).table = s.table := rfl

@[simp] theorem table_observe (obs : Obs) : (s.observe obs).table = s.table := rfl

@[simp] theorem table_onSock (sock : Nat) (update : HostSocket → HostSocket) :
    (s.onSock sock update).table = s.table := rfl

@[simp] theorem table_dialGoto (ref : Nat) (pc : DialPc) :
    (s.dialGoto ref pc).table = s.table := rfl

@[simp] theorem table_readerGoto (ref : Nat) (pc : ReaderPc) :
    (s.readerGoto ref pc).table = s.table := rfl

@[simp] theorem table_startShutdown (cause : Option Cause) :
    (s.startShutdown cause).table = s.table := by
  unfold startShutdown
  split <;> rfl

theorem table_of_enqueue {event : HostEvent} {drop full : Bool}
    (sent : s.enqueue event drop = (t, full)) : t.table = s.table := by
  unfold enqueue at sent
  split at sent
  · cases sent
    rfl
  · split at sent
    · cases sent
      rfl
    · cases sent
      rw [table_startShutdown, table_observe]

theorem table_of_listen {sock : Nat} {reply : Reply} {err : Option NetError}
    (listened : s.listenUDPLocked sock reply = (t, err)) : t.table = s.table := by
  unfold listenUDPLocked at listened
  split at listened <;> cases listened <;> rfl

theorem table_of_entered (entered : Entered s t) : t.table = s.table := by
  cases entered <;> rfl

theorem table_onHolding (id : Int) (sock : Nat) (reply : Reply) (op : SockOp) :
    (s.onHolding id sock reply op).table = s.table := by
  cases op with
  | bind port =>
      simp only [onHolding, sockBind]
      split
      · rfl
      · split
        · rfl
        · split
          · rfl
          · split
            next listened => rw [table_ret, table_of_listen listened, table_onSock]
            next listened => rw [table_ret, table_of_listen listened, table_onSock]
  | connect remote =>
      simp only [onHolding, sockConnectLocked]
      split
      · rfl
      · split
        · split
          next listened => rw [table_ret, table_of_listen listened, table_onSock]
          next listened => rw [table_goto, table_of_listen listened, table_onSock]
        · split <;> rfl
  | send data =>
      simp only [onHolding, sockSendLocked]
      split
      · exact table_of_entered (entered_sockSendTo _ _ _ _ _)
      · rfl
  | sendTo remote data =>
      simp only [onHolding, sockSendToLocked]
      split
      · rfl
      · split <;> rfl
  | recv ptr capacity fromOut =>
      simp only [onHolding, sockRecvLocked]
      split
      · split <;> rfl
      · split
        · rfl
        · split <;> rfl
  | error =>
      simp only [onHolding, sockErrorLocked]
      split <;> rfl
  | localPort =>
      simp only [onHolding, sockLocalPortLocked]
      split <;> rfl

theorem table_sockSendListen (sock : Nat) (remote : AddrPort) (data : Bytes) (reply : Reply) :
    (s.sockSendListen sock remote data reply).table = s.table := by
  unfold sockSendListen
  split
  next listened => rw [table_ret, table_of_listen listened]
  next listened =>
    split
    · rw [table_ret, table_of_listen listened]
    · rw [table_goto, table_of_listen listened]

theorem table_readerEnqueue (ref flags : Nat) (drop : Bool) (next : ReaderPc) :
    (s.readerEnqueue ref flags drop next).table = s.table := by
  unfold readerEnqueue
  split
  next sent => rw [table_readerGoto, table_of_enqueue sent]
  next sent => rw [table_readerGoto, table_of_enqueue sent]

/-- Entries may go, nothing else changes. -/
structure Fewer (s t : State) : Prop where
  next : t.nextSocket = s.nextSocket
  size : t.socks.size = s.socks.size
  entry : ∀ id sock, t.socket id = some sock → s.socket id = some sock

theorem Fewer.of_table (same : t.table = s.table) : Fewer s t := by
  simp only [table, Table.mk.injEq] at same
  obtain ⟨sockets, next, size⟩ := same
  refine ⟨next, size, ?_⟩
  intro id sock found
  rwa [socket, sockets] at found

theorem fewer_sockDelete (id : Int) : Fewer s (s.sockDelete id) := by
  unfold sockDelete
  dsimp only
  split
  · exact ⟨rfl, rfl, fun _ _ found => socket_erase found⟩
  · exact ⟨rfl, rfl, fun _ _ found => socket_erase found⟩

/-- The guest is about to enter the section of `sock_open`. -/
def AtOpen (s : State) (action : Action) : Prop :=
  ∃ reply af typ, action = .guest reply ∧ s.guest = .openSocket af typ

/-- No step but that of `sock_open` adds an entry. -/
theorem fewer_of_step {action : Action} (stepped : s.step action = some t)
    (other : ¬ s.AtOpen action) : Fewer s t := by
  cases moved_of_step stepped with
  | openSocket here => exact absurd ⟨_, _, _, rfl, here⟩ other
  | delete => exact fewer_sockDelete _
  | finish => exact ⟨rfl, rfl, fun id sock found => by simp [socket] at found⟩
  | call => exact .of_table (table_of_entered (s.entered_call _))
  | lookup =>
      unfold lookupSock
      split <;> exact .of_table rfl
  | holding => exact .of_table (table_onHolding _ _ _ _)
  | listen => exact .of_table (table_sockSendListen _ _ _ _)
  | sent _ enqueued => exact .of_table (by rw [table_ret, table_of_enqueue enqueued])
  | stuck _ enqueued => exact .of_table (by rw [table_goto, table_of_enqueue enqueued])
  | dialEnqueue _ _ enqueued =>
      exact .of_table (by rw [table_dialGoto, table_of_enqueue enqueued])
  | dialFailed =>
      unfold dialFailed
      dsimp only
      split <;> exact .of_table rfl
  | dialSucceeded =>
      unfold dialSucceeded
      dsimp only
      split <;> exact .of_table rfl
  | push =>
      unfold push
      split <;> exact .of_table rfl
  | readError =>
      unfold readErrorLocked
      split <;> exact .of_table rfl
  | pushEnqueue | errorEnqueue => exact .of_table (table_readerEnqueue _ _ _ _)
  | shutdown => exact .of_table (table_startShutdown none)
  | _ => exact .of_table rfl

/-- The ids that were returned, counted by an `int32`, and those that are still in use. -/
structure Numbered (s : State) (returned : List Int) : Prop where
  next : s.nextSocket = toInt32 (returned.length + 1)
  ids : returned = (List.range returned.length).map fun i : Nat => toInt32 (i + 1)
  live : ∀ id sock, s.socket id = some sock → id ∈ returned ∧ sock < s.socks.size

theorem toInt32_succ (value : Int) : toInt32 (toInt32 value + 1) = toInt32 (value + 1) := by
  rw [toInt32, toInt32, toInt32, Int.bmod_add_bmod]

theorem numbered_initial : Numbered initial [] where
  next := rfl
  ids := rfl
  live := by
    intro id sock found
    simp [initial, socket] at found

theorem Numbered.fewer {returned : List Int} (numbered : Numbered s returned)
    (fewer : Fewer s t) : Numbered t returned where
  next := fewer.next.trans numbered.next
  ids := numbered.ids
  live := by
    intro id sock found
    rw [fewer.size]
    exact numbered.live id sock (fewer.entry id sock found)

/-- The section of `sock_open` either fails or adds an entry under the next id. -/
theorem sockOpen_cases (s : State) (af : Family) (typ : SockType) :
    (s.admits = false ∧ (s.sockOpen af typ).table = s.table ∧ (s.sockOpen af typ).returned < 0) ∨
      ∃ entries, s.admits = true ∧ s.sockets = some entries ∧
        (s.sockOpen af typ).returned = s.nextSocket ∧
        (s.sockOpen af typ).table =
          ⟨some (entries.insert s.nextSocket s.socks.size), toInt32 (s.nextSocket + 1),
            s.socks.size + 1⟩ := by
  unfold sockOpen
  split
  next shut =>
    left
    exact ⟨by simp [admits, shut], rfl, show -wasiEBADF < 0 by decide⟩
  next entries registered =>
    split
    next many =>
      left
      exact ⟨by simpa [admits, registered] using many, rfl, show -wasiEMFILE < 0 by decide⟩
    next few =>
      right
      exact ⟨entries, by simpa [admits, registered] using few, registered, rfl, rfl⟩

theorem Numbered.opened {returned : List Int} (numbered : Numbered s returned)
    {entries : Entries} (registered : s.sockets = some entries)
    (table : t.table = ⟨some (entries.insert s.nextSocket s.socks.size),
      toInt32 (s.nextSocket + 1), s.socks.size + 1⟩) :
    Numbered t (returned ++ [s.nextSocket]) := by
  simp only [State.table, Table.mk.injEq] at table
  obtain ⟨sockets, next, size⟩ := table
  have length : (returned ++ [s.nextSocket]).length = returned.length + 1 := by simp
  refine ⟨?_, ?_, ?_⟩
  · rw [length, next, numbered.next, toInt32_succ]
    rfl
  · rw [length, List.range_succ, List.map_append, ← numbered.ids, numbered.next]
    rfl
  · intro id sock found
    rw [size]
    rw [socket, sockets, Option.bind_some] at found
    by_cases same : id = s.nextSocket
    · subst same
      rw [AList.lookup_insert] at found
      cases found
      exact ⟨by simp, Nat.lt_succ_self _⟩
    · rw [AList.lookup_insert_ne same] at found
      have old := numbered.live id sock (by rw [socket, registered]; exact found)
      exact ⟨List.mem_append_left _ old.1, Nat.lt_succ_of_lt old.2⟩

theorem step_atOpen {reply : Reply} {af : Family} {typ : SockType}
    (pc : s.guest = .openSocket af typ) (stepped : s.step (.guest reply) = some t) :
    t = s.sockOpen af typ := by
  simp only [step, guestStep, pc] at stepped
  split at stepped <;> cases stepped
  rfl

theorem numbered_step {returned : List Int} {action : Action} (numbered : Numbered s returned)
    (stepped : s.step action = some t) :
    Numbered t (returned ++ (Sockets.opened s action).toList) := by
  by_cases atOpen : s.AtOpen action
  · obtain ⟨reply, af, typ, rfl, pc⟩ := atOpen
    cases step_atOpen pc stepped
    rcases sockOpen_cases s af typ with
      ⟨refused, table, -⟩ | ⟨entries, admitted, registered, -, table⟩
    · have none : Sockets.opened s (.guest reply) = none := by
        simp [Sockets.opened, opens, pc, refused]
      rw [none, Option.toList_none, List.append_nil]
      exact numbered.fewer (.of_table table)
    · have some : Sockets.opened s (.guest reply) = some s.nextSocket := by
        simp [Sockets.opened, opens, pc, admitted]
      rw [some, Option.toList_some]
      exact numbered.opened registered table
  · have none : Sockets.opened s action = none := by
      cases action with
      | guest reply =>
          cases pc : s.guest with
          | openSocket af typ => exact absurd ⟨reply, af, typ, rfl, pc⟩ atOpen
          | _ => simp [Sockets.opened, opens, pc]
      | _ => rfl
    rw [none, Option.toList_none, List.append_nil]
    exact numbered.fewer (fewer_of_step stepped atOpen)

theorem numbered_of_reachable {returned : List Int}
    (reachable : (machine.logged Sockets.opened).Reachable (s, returned)) :
    Numbered s returned :=
  Machine.Reaches.invariant_logged
    (fun _ _ _ _ numbered _ stepped => numbered_step numbered stepped) reachable numbered_initial

/-- The next id is new exactly as long as the counter has not wrapped. -/
theorem Numbered.fresh_iff {returned : List Int} (numbered : Numbered s returned) :
    (0 < s.nextSocket ∧ s.nextSocket ∉ returned) ↔ returned.length < 2 ^ 31 - 1 := by
  have member : ∀ id, id ∈ returned ↔ ∃ i < returned.length, toInt32 (i + 1 : Nat) = id := by
    intro id
    conv_lhs => rw [numbered.ids]
    simp
  constructor
  · rintro ⟨positive, unused⟩
    -- A positive id is the number of an earlier one, once there are that many.
    by_contra many
    have bound : s.nextSocket < 2 ^ 31 := by
      rw [numbered.next]
      exact Int.bmod_lt (by decide)
    refine unused ((member _).mpr ⟨s.nextSocket.toNat - 1, by omega, ?_⟩)
    rw [toInt32_of_lt (by omega)]
    omega
  · intro few
    have next : s.nextSocket = (returned.length + 1 : Nat) := by
      rw [numbered.next, ← toInt32_of_lt (show returned.length + 1 < 2 ^ 31 by omega)]
      rfl
    refine ⟨by omega, ?_⟩
    intro used
    obtain ⟨i, below, same⟩ := (member _).mp used
    rw [next, toInt32_of_lt (by omega)] at same
    omega

end State

/-- A refusal of the arguments changes nothing. -/
theorem opensFresh_of_call {s t : State} {af typ : Int} (returned : List Int)
    (stepped : machine.step s (.call (.sockOpen af typ)) = some t) (ended : t.guest = .running) :
    OpensFresh s returned t := by
  simp only [machine, State.step, State.call] at stepped
  split at stepped
  · cases stepped
    split at ended
    next refused =>
      rw [if_pos refused]
      exact .inl ⟨show -wasiEAFNOSUPPORT < 0 by decide, rfl⟩
    next => cases ended
  · cases stepped

/-- With an entry added, `sock_open` has done well if the id is new. -/
theorem opensFresh_iff {s t : State} {returned : List Int} (numbered : s.Numbered returned)
    {entries : Entries} (registered : s.sockets = some entries)
    (result : t.returned = s.nextSocket)
    (added : t.sockets = some (entries.insert s.nextSocket s.socks.size)) :
    OpensFresh s returned t ↔ 0 < s.nextSocket ∧ s.nextSocket ∉ returned := by
  have changed : t.sockets ≠ s.sockets := by
    intro same
    rw [registered, added, Option.some.injEq] at same
    have found : s.socket s.nextSocket = some s.socks.size := by
      rw [State.socket, registered, ← same, Option.bind_some, AList.lookup_insert]
    exact Nat.lt_irrefl _ (numbered.live _ _ found).2
  rw [OpensFresh, result]
  constructor
  · rintro (⟨-, same⟩ | ⟨positive, -, unused, -⟩)
    · exact absurd same changed
    · exact ⟨positive, unused⟩
  · rintro ⟨positive, unused⟩
    have free : s.socket s.nextSocket = none := by
      cases found : s.socket s.nextSocket with
      | none => rfl
      | some sock => exact absurd (numbered.live _ _ found).1 unused
    exact .inr ⟨positive, free, unused, entries, registered, added⟩

/-- `sock_open` fails or returns a new positive id in every step of every run, except where it adds
an entry and has added 2^31 - 1 before. -/
theorem socket_ids_fresh_iff {s t : State} {returned : List Int} {action : Action}
    (reachable : (machine.logged opened).Reachable (s, returned))
    (stepped : machine.step s action = some t) (returns : ReturnsOpen s action t) :
    OpensFresh s returned t ↔ (s.opens action = true → returned.length < 2 ^ 31 - 1) := by
  have numbered := State.numbered_of_reachable reachable
  rcases returns with ⟨af, typ, rfl, ended⟩ | ⟨reply, af, typ, rfl, pc⟩
  · have fresh := opensFresh_of_call returned stepped ended
    simp [fresh, State.opens]
  · cases State.step_atOpen pc stepped
    have opens : s.opens (.guest reply) = s.admits := by simp [State.opens, pc]
    rcases State.sockOpen_cases s af typ with
      ⟨refused, table, negative⟩ | ⟨entries, admitted, registered, result, table⟩
    · have fresh : OpensFresh s returned (s.sockOpen af typ) :=
        .inl ⟨negative, congrArg Table.entries table⟩
      simp [fresh, opens, refused]
    · rw [opensFresh_iff numbered registered result (congrArg Table.entries table),
        numbered.fresh_iff, opens]
      simp [admitted]

/-- Enter the guest and open a socket. -/
def openOnce : List Action := [.enter, .call (.sockOpen 4 1)]

theorem socket_ids_fresh_iff_first :
    ∃ s t, (machine.logged opened).run (machine.logged opened).initial openOnce = some (s, []) ∧
      machine.step s (.guest {}) = some t ∧ t.returned = 1 ∧ OpensFresh s [] t := by
  obtain ⟨s, t, ran, stepped, result, pc⟩ :
      ∃ s t, (machine.logged opened).run (machine.logged opened).initial openOnce = some (s, []) ∧
        machine.step s (.guest {}) = some t ∧ t.returned = 1 ∧ s.guest = .openSocket .inet4 .udp :=
    ⟨_, _, rfl, rfl, rfl, rfl⟩
  have fresh := (socket_ids_fresh_iff (Machine.reaches_of_run ran) stepped
    (.inr ⟨{}, _, _, rfl, pc⟩)).mpr (fun _ => by decide)
  exact ⟨s, t, ran, stepped, result, fresh⟩

/-! ## A guest that opens and closes -/

/-- A guest that has closed the sockets it opened. -/
structure Cycling (s : State) : Prop where
  guest : s.guest = .running
  shutdown : s.shutdown = .idle
  sockets : s.sockets = some ∅

namespace Cycling

variable {s : State}

theorem call (cycling : Cycling s) :
    machine.step s (.call (.sockOpen 4 1)) = some (s.goto (.openSocket .inet4 .udp)) := by
  simp [machine, State.step, cycling.guest, State.call]

theorem admits (cycling : Cycling s) : (s.goto (.openSocket .inet4 .udp)).admits = true := by
  simp [State.admits, State.goto, cycling.sockets, State.maxSocketsPerInstance]

theorem enter (cycling : Cycling s) :
    machine.step (s.goto (.openSocket .inet4 .udp)) (.guest {}) =
      some ((s.goto (.openSocket .inet4 .udp)).sockOpen .inet4 .udp) := by
  simp [machine, State.step, State.guestStep, State.goto, cycling.shutdown,
    ShutdownPc.holdsSocketsMu]

/-- The guest with one socket. -/
def holding (s : State) : State :=
  { s with
    nextSocket := toInt32 (s.nextSocket + 1)
    sockets := some ((∅ : Entries).insert s.nextSocket s.socks.size)
    socks := s.socks.alloc (.new s.nextSocket .inet4 .udp) }.ret s.nextSocket

theorem sockOpen_eq (cycling : Cycling s) :
    (s.goto (.openSocket .inet4 .udp)).sockOpen .inet4 .udp = holding s := by
  simp [State.sockOpen, State.goto, cycling.sockets, State.maxSocketsPerInstance]
  rfl

end Cycling

/-- A guest that has one socket, never bound, closes it. -/
theorem cycling_of_close (s : State) {id : Int} {ref : Nat} (guest : s.guest = .running)
    (shutdown : s.shutdown = .idle) (sockets : s.sockets = some ((∅ : Entries).insert id ref))
    (fresh : State.toClose (s.socks.get ref) = []) (log : List Int) :
    ∃ t, (machine.logged opened).Reaches Machine.always (s, log) (t, log) ∧ Cycling t := by
  have found : (s.goto (.delete id)).socket id = some ref := by
    rw [State.socket, show (s.goto (.delete id)).sockets = s.sockets from rfl, sockets,
      Option.bind_some, AList.lookup_insert]
  have called : machine.step s (.call (.sockClose id)) = some (s.goto (.delete id)) := by
    simp [machine, State.step, guest, State.call]
  have deleted : machine.step (s.goto (.delete id)) (.guest {}) =
      some ({ s with sockets := some ∅ }.goto (.close ref)) := by
    have unlocked : (s.goto (.delete id)).shutdown.holdsSocketsMu = false := by
      rw [show (s.goto (.delete id)).shutdown = s.shutdown from rfl, shutdown]
      rfl
    have erased : (s.goto (.delete id)).sockets.map (AList.erase id) = some ∅ := by
      rw [show (s.goto (.delete id)).sockets = s.sockets from rfl, sockets]
      rw [Option.map_some, AList.insert_empty, Option.some.injEq]
      exact AList.ext (List.kerase_cons_eq rfl)
    show (if (s.goto (.delete id)).shutdown.holdsSocketsMu then none
      else some ((s.goto (.delete id)).sockDelete id)) = _
    rw [unlocked, State.sockDelete, erased, found]
    rfl
  have closed : machine.step ({ s with sockets := some ∅ }.goto (.close ref)) (.guest {}) =
      some ((({ s with sockets := some ∅ }.goto (.close ref)).markClosed ref).goto
        (.closeConns [])) := by
    rw [← fresh]
    rfl
  have ended : machine.step ((({ s with sockets := some ∅ }.goto (.close ref)).markClosed ref).goto
      (.closeConns [])) (.guest {}) =
        some (((({ s with sockets := some ∅ }.goto (.close ref)).markClosed ref).goto
          (.closeConns [])).ret 0) := rfl
  have start : (machine.logged opened).Reaches Machine.always (s, log) (s, log) := .refl _
  have first := start.step trivial (Machine.logged_quiet opened called rfl log)
  have second := first.step trivial (Machine.logged_quiet opened deleted rfl log)
  have third := second.step trivial (Machine.logged_quiet opened closed rfl log)
  exact ⟨_, third.step trivial (Machine.logged_quiet opened ended rfl log), rfl, shutdown, rfl⟩

/-- The guest can open and close a socket once more. -/
theorem Cycling.again {s : State} (cycling : Cycling s) (log : List Int) :
    ∃ t, (machine.logged opened).Reaches Machine.always (s, log) (t, log ++ [s.nextSocket]) ∧
      Cycling t := by
  have noted : opened (s.goto (.openSocket .inet4 .udp)) (.guest {}) = some s.nextSocket := by
    rw [opened, show (s.goto (.openSocket .inet4 .udp)).opens (.guest {}) =
      (s.goto (.openSocket .inet4 .udp)).admits from rfl, cycling.admits]
    rfl
  have start : (machine.logged opened).Reaches Machine.always (s, log) (s, log) := .refl _
  have called := start.step trivial (Machine.logged_quiet opened cycling.call rfl log)
  have entered := called.step trivial (Machine.logged_step opened cycling.enter log)
  rw [noted, Option.toList_some, cycling.sockOpen_eq] at entered
  have fresh : State.toClose ((holding s).socks.get s.socks.size) = [] := by
    simp [holding, State.ret, State.toClose, HostSocket.new]
  obtain ⟨t, closed, further⟩ := cycling_of_close (holding s) rfl cycling.shutdown rfl fresh
    (log ++ [s.nextSocket])
  exact ⟨t, entered.trans closed, further⟩

theorem exists_cycling (count : Nat) :
    ∃ s log, (machine.logged opened).Reachable (s, log) ∧ Cycling s ∧ log.length = count := by
  induction count with
  | zero =>
      have entered : (machine.logged opened).run (machine.logged opened).initial [.enter] =
          some (State.initial.goto .running, []) := rfl
      exact ⟨_, [], Machine.reaches_of_run entered, ⟨rfl, rfl, rfl⟩, rfl⟩
  | succ count ih =>
      obtain ⟨s, log, reachable, cycling, length⟩ := ih
      obtain ⟨t, more, further⟩ := cycling.again log
      exact ⟨t, _, reachable.trans more, further, by simp [length]⟩

/-- A guest that opens and closes sockets for long enough gets an entry under a negative id,
the same number an error would be. -/
theorem negative_id_returned :
    ∃ s t log, (machine.logged opened).Reachable (s, log) ∧ log.length = 2 ^ 31 - 1 ∧
      machine.step s (.guest {}) = some t ∧ s.guest = .openSocket .inet4 .udp ∧
      t.returned = -2 ^ 31 ∧ t.socket (-2 ^ 31) ≠ none ∧ ¬ OpensFresh s log t := by
  obtain ⟨s, log, reachable, cycling, length⟩ := exists_cycling (2 ^ 31 - 1)
  have called := reachable.step trivial (Machine.logged_quiet opened cycling.call rfl log)
  have numbered := State.numbered_of_reachable called
  have next : s.nextSocket = -2 ^ 31 := by
    have counted := numbered.next
    rw [length] at counted
    exact counted
  have fresh := opensFresh_iff numbered cycling.sockets
    (show ((s.goto (.openSocket .inet4 .udp)).sockOpen .inet4 .udp).returned = _ by
      rw [cycling.sockOpen_eq]; rfl)
    (by rw [cycling.sockOpen_eq]; rfl)
  refine ⟨_, _, log, called, length, cycling.enter, rfl, ?_, ?_, ?_⟩
  · rw [cycling.sockOpen_eq]
    exact next
  · rw [cycling.sockOpen_eq, ← next, State.socket]
    show ((∅ : Entries).insert s.nextSocket s.socks.size).lookup s.nextSocket ≠ none
    rw [AList.lookup_insert]
    simp
  · rw [fresh, numbered.fresh_iff, length]
    exact Nat.lt_irrefl _

end UnboundWasm.Host.Sockets
