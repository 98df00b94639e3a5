import UnboundWasm.Guest.Veneer
import UnboundWasm.Host.Sockets.Serving

/-!
# The guest's sockets over the host's

Unbound's socket calls (`sockets.c`) composed with the host's imports (`sockets.go`): a guest whose
imports are all made by the veneer, with dials, readers and the shutdown of the host beside it.
Between two calls Unbound may do anything to its memory.
-/

namespace UnboundWasm.System.Veneer

open UnboundWasm.Lib
open UnboundWasm.Guest (maxSockets)
open UnboundWasm.Guest.Backend (lookup)
open UnboundWasm.Guest.Veneer UnboundWasm.Host.Sockets

/-- `pending` is the call that waits for an import, `last` what the last call left behind. -/
structure State where
  host : Host.Sockets.State
  slots : Slots
  pending : Option Pending
  last : Option Outcome

/-- What happens next: a step of the host, a call of Unbound, or the return of its import. -/
inductive Action where
  | host (action : Host.Sockets.Action)
  | call (call : Call) (frame : Frame)
  | resume

namespace State

def initial : State := ⟨.initial, List.replicate maxSockets none, none, none⟩

/-- The steps of the host that are not the veneer's: the guest is entered and left, and computes,
between two calls only. -/
def admits (s : State) : Host.Sockets.Action → Bool
  | .enter | .dispatch | .leave | .compute _ => s.pending.isNone
  | .call _ => false
  | .guest _ | .dial _ _ | .reader _ _ _ | .shutdown _ => true

/-- The call in progress returns or makes its next import. -/
def advance (s : State) : Turn → State
  | .done slots outcome => { s with slots := slots, pending := none, last := some outcome }
  | .ask memory imp pending =>
      { s with host := (s.host.store memory).call imp, pending := some pending }

variable (sizeof : Host.Sockets.Family → Nat)

def step (s : State) : Action → Option State
  | .host action =>
      if s.admits action then (s.host.step action).map fun host => { s with host := host } else none
  | .call call frame =>
      if s.host.guest = .running ∧ s.pending = none then
        (start sizeof s.slots s.host.memory frame call).map s.advance
      else
        none
  | .resume =>
      match s.host.guest, s.pending with
      | .running, some pending =>
          (resume sizeof s.slots s.host.memory s.host.returned pending).map s.advance
      | _, _ => none

end State

/-- An instance whose guest uses the veneer. -/
def machine (sizeof : Host.Sockets.Family → Nat) : Machine State Action :=
  ⟨State.initial, State.step sizeof⟩

variable {sizeof : Host.Sockets.Family → Nat} {s after : State}

/-- What a step can be. -/
inductive Stepped (sizeof : Host.Sockets.Family → Nat) (s : State) : State → Prop where
  | host {action : Host.Sockets.Action} {host : Host.Sockets.State}
      (admitted : s.admits action = true)
      (stepped : s.host.step action = some host) : Stepped sizeof s { s with host := host }
  | call {call : Call} {frame : Frame} {turn : Turn} (running : s.host.guest = .running)
      (free : s.pending = none)
      (started : start sizeof s.slots s.host.memory frame call = some turn) :
      Stepped sizeof s (s.advance turn)
  | resume {pending : Pending} {turn : Turn} (running : s.host.guest = .running)
      (waiting : s.pending = some pending)
      (resumed : resume sizeof s.slots s.host.memory s.host.returned pending = some turn) :
      Stepped sizeof s (s.advance turn)

theorem stepped_of_step {action : Action} (stepped : s.step sizeof action = some after) :
    Stepped sizeof s after := by
  cases action with
  | host action =>
      simp only [State.step] at stepped
      split at stepped
      next admitted =>
        obtain ⟨host, moved, rfl⟩ := Option.map_eq_some_iff.mp stepped
        exact .host admitted moved
      next => cases stepped
  | call call frame =>
      simp only [State.step] at stepped
      split at stepped
      next idle =>
        obtain ⟨turn, started, rfl⟩ := Option.map_eq_some_iff.mp stepped
        exact .call idle.1 idle.2 started
      next => cases stepped
  | resume =>
      simp only [State.step] at stepped
      split at stepped
      next running waiting =>
        obtain ⟨turn, resumed, rfl⟩ := Option.map_eq_some_iff.mp stepped
        exact .resume running waiting resumed
      next => cases stepped

/-- Storing the locals and making an import are steps of the host's machine. -/
theorem host_reaches_advance (running : s.host.guest = .running) (turn : Turn) :
    Host.Sockets.machine.Reaches Machine.always s.host (s.advance turn).host := by
  cases turn with
  | done slots outcome => exact .refl _
  | ask memory imp pending =>
      have stored : Host.Sockets.machine.step s.host (.compute memory) =
          some (s.host.store memory) := by
        simp [Host.Sockets.machine, Host.Sockets.State.step, running]
      have called : Host.Sockets.machine.step (s.host.store memory) (.call imp) =
          some ((s.host.store memory).call imp) := by
        simp [Host.Sockets.machine, Host.Sockets.State.step, Host.Sockets.State.store, running]
      exact ((Machine.Reaches.refl _).step trivial stored).step trivial called

theorem host_reachable_step (reached : Host.Sockets.machine.Reachable s.host)
    (stepped : Stepped sizeof s after) : Host.Sockets.machine.Reachable after.host := by
  cases stepped with
  | host admitted moved => exact reached.step trivial moved
  | call running free started => exact reached.trans (host_reaches_advance running _)
  | resume running waiting resumed => exact reached.trans (host_reaches_advance running _)

/-- The host's part of every run is a run of the host's machine, whose theorems therefore hold here
as well. -/
theorem host_reachable (reachable : (machine sizeof).Reachable s) :
    Host.Sockets.machine.Reachable s.host := by
  have preserved : ∀ before action after, Host.Sockets.machine.Reachable before.host →
      (machine sizeof).step before action = some after →
      Host.Sockets.machine.Reachable after.host :=
    fun _ _ _ reached stepped => host_reachable_step reached (stepped_of_step stepped)
  have carried := Machine.Reachable.invariant preserved reachable (.refl _)
  exact carried

/-! ## The imports of the veneer -/

/-- The descriptor of a call. -/
def descriptor : Call → Int
  | .socket _ _ => -1
  | .bind fd _ _ | .connect fd _ _ | .send fd _ _ | .sendto fd _ _ _ _ | .recv fd _ _
  | .recvfrom fd _ _ _ | .close fd | .getsockname fd _ | .getpeername fd _ | .getsockopt fd _ _ =>
      fd

/-- The operation a call asks the host for. -/
def asked (memory : Memory) (locals : Locals) : Call → Option SockOp
  | .bind _ _ _ => some (.bind locals.port)
  | .connect _ _ _ => some (.connect ⟨addrOf locals.ip, locals.port⟩)
  | .send _ buf n => (memory.read buf (clamp n)).map .send
  | .sendto _ buf n _ _ => (memory.read buf (clamp n)).map (.sendTo ⟨addrOf locals.ip, locals.port⟩)
  | .recv _ buf n => some (.recv buf (clamp n) none)
  | .recvfrom _ buf n _ => some (.recv buf (clamp n) (some (locals.frame.ip, locals.frame.p)))
  | .getsockname _ _ => some .localPort
  | .getsockopt _ _ _ => some .error
  | .socket _ _ | .close _ | .getpeername _ _ => none

/-- What `decode` left in the locals of a call that is passed an address. -/
def Decoded (sizeof : Host.Sockets.Family → Nat) (locals : Locals) : Call → Prop
  | .bind _ sa n | .connect _ sa n | .sendto _ _ _ sa n =>
      decode sizeof sa n = .ok (locals.ip, locals.port)
  | _ => True

/-- An import on a socket, called with the memory as it is now, fails or goes on to look it up. -/
def Requests (memory : Memory) (imp : Import) (call : Call) (locals : Locals) : Prop :=
  ∀ host : Host.Sockets.State, host.memory = memory →
    (∃ result < 0, (host.call imp).view = host.view.ret result) ∨
      ∃ op, asked memory locals call = some op ∧
        (host.call imp).view = host.view.goto (.lookup locals.slot.sid op)

/-- The first import of a call. -/
inductive Asks (sizeof : Host.Sockets.Family → Nat) (slots : Slots) (memory : Memory) :
    Memory → Import → Pending → Prop where
  | opens (af : Host.Sockets.Family) (typ : SockType) :
      Asks sizeof slots memory memory (.sockOpen (afNumber af) (typNumber typ)) (.opening af typ)
  | closes {fd : Int} (locals : Locals) (found : lookup slots fd = some locals.slot) :
      Asks sizeof slots memory memory (.sockClose locals.slot.sid) (.waiting (.close fd) locals)
  | requests {stored : Memory} {imp : Import} {call : Call} {locals : Locals}
      (found : lookup slots (descriptor call) = some locals.slot)
      (decoded : Decoded sizeof locals call) (unclosed : ∀ fd, call ≠ .close fd)
      (requests : Requests stored imp call locals) :
      Asks sizeof slots memory stored imp (.waiting call locals)

section Requests

variable {memory : Memory} (locals : Locals)

theorem requests_bind (fd : Int) (sa : Option Sockaddr) (n : Nat) :
    Requests memory (.sockBind locals.slot.sid locals.port) (.bind fd sa n) locals := by
  intro host _
  simp only [Host.Sockets.State.call]
  split
  · exact .inl ⟨_, show -Host.wasiEINVAL < 0 by decide, rfl⟩
  · exact .inr ⟨_, rfl, rfl⟩

theorem requests_connect (fd : Int) (sa : Option Sockaddr) (n : Nat) {ptr : Nat}
    (stored : readAddr memory ptr locals.ip.length = some (addrOf locals.ip)) :
    Requests memory (.sockConnect locals.slot.sid ptr locals.ip.length locals.port)
      (.connect fd sa n) locals := by
  rintro host rfl
  simp only [Host.Sockets.State.call, stored, Host.Sockets.State.sockConnect]
  split
  · exact .inl ⟨_, show -Host.wasiEINVAL < 0 by decide, rfl⟩
  · split
    · exact .inr ⟨_, rfl, rfl⟩
    · exact .inl ⟨_, show -Host.wasiEACCES < 0 by decide, rfl⟩

theorem requests_send (fd : Int) (buf n : Nat) :
    Requests memory (.sockSend locals.slot.sid buf (clamp n)) (.send fd buf n) locals := by
  rintro host rfl
  simp only [Host.Sockets.State.call]
  split
  · exact .inl ⟨_, show -Host.wasiEFAULT < 0 by decide, rfl⟩
  next data loaded => exact .inr ⟨.send data, by simp [asked, loaded], rfl⟩

theorem requests_sendto (fd : Int) (buf n : Nat) (sa : Option Sockaddr) (sl : Nat) {ptr : Nat}
    (stored : readAddr memory ptr locals.ip.length = some (addrOf locals.ip)) :
    Requests memory (.sockSendTo locals.slot.sid ptr locals.ip.length locals.port buf (clamp n))
      (.sendto fd buf n sa sl) locals := by
  rintro host rfl
  simp only [Host.Sockets.State.call, stored]
  split
  next ip data found loaded =>
    cases found
    simp only [Host.Sockets.State.sockSendTo]
    split
    · exact .inl ⟨_, show -Host.wasiEINVAL < 0 by decide, rfl⟩
    · split
      · exact .inr ⟨_, by rw [asked, loaded]; rfl, rfl⟩
      · exact .inl ⟨_, show -Host.wasiEACCES < 0 by decide, rfl⟩
  next => exact .inl ⟨_, show -Host.wasiEFAULT < 0 by decide, rfl⟩

end Requests

variable {slots : Slots} {memory stored : Memory} {frame : Frame} {imp : Import} {pending : Pending}

theorem asks_of_withSlot (call : Call) {op : Slot → Import} {first : Memory}
    (started : withSlot slots stored frame call (descriptor call) op = .ask first imp pending)
    (unclosed : ∀ fd, call ≠ .close fd)
    (requests : ∀ slot, Requests stored (op slot) call ⟨slot, [], 0, frame⟩)
    (plain : ∀ locals, Decoded sizeof locals call) :
    Asks sizeof slots memory first imp pending := by
  unfold withSlot at started
  split at started
  next => cases started
  next slot found =>
    cases started
    exact .requests found (plain _) unclosed (requests slot)

theorem asks_of_withAddress (call : Call) {sa : Option Sockaddr} {n : Nat}
    {op : Slot → Bytes → Nat → Import} {first : Memory}
    (started : withAddress sizeof slots memory frame call (descriptor call) sa n op =
      some (.ask first imp pending))
    (unclosed : ∀ fd, call ≠ .close fd)
    (requests : ∀ slot ip port, decode sizeof sa n = .ok (ip, port) →
      readAddr first frame.ip ip.length = some (addrOf ip) →
      Decoded sizeof ⟨slot, ip, port, frame⟩ call ∧
        Requests first (op slot ip port) call ⟨slot, ip, port, frame⟩) :
    Asks sizeof slots memory first imp pending := by
  unfold withAddress at started
  split at started
  next => cases started
  next slot found =>
    split at started
    next => cases started
    next ip port decoded =>
      obtain ⟨written, stored, turn⟩ := Option.map_eq_some_iff.mp started
      cases turn
      obtain ⟨length, -⟩ := bounds_of_decode decoded
      obtain ⟨decoded, requests⟩ := requests slot ip port decoded (readAddr_of_write stored length)
      exact .requests found decoded unclosed requests

/-- The first import of a call is one of three kinds. -/
theorem asks_of_start {call : Call}
    (started : start sizeof slots memory frame call = some (.ask stored imp pending)) :
    Asks sizeof slots memory stored imp pending := by
  cases call with
  | socket af type =>
      cases af with
      | none => cases started
      | some af =>
          cases type with
          | none => cases started
          | some typ =>
              cases started
              exact .opens af typ
  | bind fd sa n =>
      exact asks_of_withAddress (.bind fd sa n) started (fun _ => by simp)
        fun slot ip port decoded _ => ⟨decoded, requests_bind ⟨slot, ip, port, frame⟩ fd sa n⟩
  | connect fd sa n =>
      exact asks_of_withAddress (.connect fd sa n) started (fun _ => by simp)
        fun slot ip port decoded stored =>
          ⟨decoded, requests_connect ⟨slot, ip, port, frame⟩ fd sa n stored⟩
  | send fd buf n =>
      exact asks_of_withSlot (.send fd buf n) (Option.some.inj started) (fun _ => by simp)
        (fun slot => requests_send ⟨slot, [], 0, frame⟩ fd buf n) fun _ => trivial
  | sendto fd buf n sa sl =>
      exact asks_of_withAddress (.sendto fd buf n sa sl) started (fun _ => by simp)
        fun slot ip port decoded stored =>
          ⟨decoded, requests_sendto ⟨slot, ip, port, frame⟩ fd buf n sa sl stored⟩
  | recv fd buf n =>
      exact asks_of_withSlot (.recv fd buf n) (Option.some.inj started) (fun _ => by simp)
        (fun slot host _ => .inr ⟨_, rfl, rfl⟩) fun _ => trivial
  | recvfrom fd buf n sl =>
      obtain ⟨cleared, _, started⟩ := Option.map_eq_some_iff.mp started
      exact asks_of_withSlot (.recvfrom fd buf n sl) started (fun _ => by simp)
        (fun slot host _ => .inr ⟨_, rfl, rfl⟩) fun _ => trivial
  | close fd =>
      simp only [start] at started
      split at started
      next => cases started
      next slot found =>
        cases started
        exact .closes ⟨slot, [], 0, frame⟩ found
  | getsockname fd room =>
      exact asks_of_withSlot (.getsockname fd room) (Option.some.inj started) (fun _ => by simp)
        (fun slot host _ => .inr ⟨_, rfl, rfl⟩) fun _ => trivial
  | getpeername fd room =>
      simp only [start] at started
      split at started <;> cases started
  | getsockopt fd option n =>
      simp only [start] at started
      split at started
      next => cases started
      next slot found =>
        split at started
        · cases started
        · split at started <;> cases started
          exact .requests found trivial (fun _ => by simp) fun host _ => .inr ⟨_, rfl, rfl⟩

theorem slots_of_withSlot {call : Call} {fd : Int} {op : Slot → Import} {other : Slots}
    {outcome : Outcome} (started : withSlot slots memory frame call fd op = .done other outcome) :
    other = slots := by
  unfold withSlot at started
  split at started <;> cases started
  rfl

theorem slots_of_withAddress {call : Call} {fd : Int} {sa : Option Sockaddr} {n : Nat}
    {op : Slot → Bytes → Nat → Import} {other : Slots} {outcome : Outcome}
    (started : withAddress sizeof slots memory frame call fd sa n op = some (.done other outcome)) :
    other = slots := by
  unfold withAddress at started
  split at started
  next => cases started; rfl
  next =>
    split at started
    next => cases started; rfl
    next =>
      obtain ⟨_, _, turn⟩ := Option.map_eq_some_iff.mp started
      cases turn

/-- A call that makes no import leaves the slots as they are. -/
theorem slots_of_start {call : Call} {other : Slots} {outcome : Outcome}
    (started : start sizeof slots memory frame call = some (.done other outcome)) :
    other = slots := by
  cases call with
  | socket af type => cases af <;> cases type <;> cases started <;> rfl
  | bind | connect | sendto => exact slots_of_withAddress started
  | send | recv | getsockname => exact slots_of_withSlot (Option.some.inj started)
  | recvfrom fd buf n sl =>
      obtain ⟨cleared, _, started⟩ := Option.map_eq_some_iff.mp started
      exact slots_of_withSlot started
  | close fd | getpeername fd room =>
      simp only [start] at started
      split at started <;> cases started <;> rfl
  | getsockopt fd option n =>
      simp only [start] at started
      split at started
      next => cases started; rfl
      next =>
        split at started
        · cases started; rfl
        · split at started <;> cases started <;> rfl

end UnboundWasm.System.Veneer
