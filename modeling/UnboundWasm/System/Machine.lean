import UnboundWasm.Guest.Backend
import UnboundWasm.Host.Sockets.Ownership
import UnboundWasm.Host.Sockets.Readiness

/-!
# Host sockets and guest backend together

One instance with both halves of its sockets: the host's (`sockets.go`) and the
guest's event backend (`event.c`, `sockets.c`).  They meet at the imports, which
the guest calls with the ids in its slots, and at `io_ready` and `timer_fired`,
by which the host delivers the events of its channel.  The machine is the product
of the two, synchronised there, and keeps a record of the interest that Unbound
has given in the current export.

The imports are called with arbitrary arguments, as in the model of the host; only
`sock_open` and `sock_close` change the guest's slots.
-/

namespace UnboundWasm.System

open UnboundWasm.Lib
open UnboundWasm.Guest UnboundWasm.Host.Sockets

/-- The `UB_EV_*` bit of a condition. -/
def bit : Readiness → BitVec 16
  | .read => evRead
  | .write => evWrite

/-- Interest in a condition that was true of the socket when it was given. -/
structure Interest where
  sock : Nat
  sid : Int
  readiness : Readiness
  deriving DecidableEq, Repr

/-- `given` is the interest given in the export that runs or ran last. -/
structure State where
  host : Host.Sockets.State
  guest : Backend
  given : List Interest

/-- What happens next. `host` is a section of an import or of a goroutine, `op` a
call through the vmt. -/
inductive Action where
  | enter
  | dispatch
  | leave
  | host (action : Host.Sockets.Action)
  | op (op : Op)
  | close (fd : Int)
  | scan
  | ret

/-- The export that delivers an event. -/
def delivery : HostEvent → Step
  | .io sid flags => .ioReady sid flags
  | .timer tid => .timerFired tid

namespace State

def initial : State := ⟨.initial, .initial, []⟩

/-- The conditions among `bits` that are true of the socket of a descriptor. -/
def interests (s : State) (fd : Int) (bits : BitVec 16) : List Interest :=
  match Backend.lookup s.guest.slots fd with
  | none => []
  | some sid =>
      match s.host.socket sid with
      | none => []
      | some sock =>
          ([Readiness.read, .write].filter fun readiness =>
            (bits &&& bit readiness) != 0 && s.host.ready sock readiness).map
              fun readiness => ⟨sock, sid, readiness⟩

/-- The interest an operation gives: `event_add` in all bits of the event, and
`event_add_bits` on an active event in the bits it adds. -/
def gives (s : State) : Op → List Interest
  | .add event _ => s.interests (s.guest.events.get event).fd (s.guest.events.get event).bits
  | .addBits event bits =>
      if (s.guest.events.get event).active then
        s.interests (s.guest.events.get event).fd bits
      else
        []
  | _ => []

/-- `uw_io_ready` is looking for the next event. -/
def scanning (s : State) : Bool :=
  match s.guest.running with
  | .scanning _ => true
  | .idle | .callback _ _ => false

/-- Whether a step of the host is one of its own: Unbound's code calls no import
while `uw_io_ready` scans. -/
def admits (s : State) : Host.Sockets.Action → Bool
  | .enter | .dispatch | .leave => false
  | .call _ => !s.scanning
  | .compute _ | .guest _ | .dial _ _ | .reader _ _ _ | .shutdown _ => true

/-- The guest's half of a step of the host: a socket that was opened takes a slot. -/
def follow (s : State) (action : Host.Sockets.Action) : Option Backend :=
  if s.host.opens action then s.guest.step (.op .socket) else some s.guest

/-- Both halves of a step that succeeded. -/
def pair (given : List Interest) (host : Option Host.Sockets.State) (guest : Option Backend) :
    Option State :=
  match host, guest with
  | some host, some guest => some ⟨host, guest, given⟩
  | _, _ => none

/-- One step of the instance. -/
def step (s : State) : Action → Option State
  | .enter =>
      if s.guest.running = .idle then pair [] (s.host.step .enter) (some s.guest) else none
  | .dispatch =>
      match s.host.events with
      | [] => none
      | event :: _ => pair [] (s.host.step .dispatch) (s.guest.step (delivery event))
  | .leave =>
      if s.guest.running = .idle then pair s.given (s.host.step .leave) (some s.guest) else none
  | .host action =>
      if s.admits action then pair s.given (s.host.step action) (s.follow action) else none
  | .op .socket | .op (.close _) => none
  | .op op =>
      if s.host.guest = .running then
        pair (s.given ++ s.gives op) (some s.host) (s.guest.step (.op op))
      else
        none
  | .close fd =>
      match Backend.lookup s.guest.slots fd with
      | none => if s.host.guest = .running then some s else none
      | some sid =>
          pair s.given (s.host.step (.call (.sockClose sid))) (s.guest.step (.op (.close fd)))
  | .scan =>
      if s.host.guest = .running then pair s.given (some s.host) (s.guest.step .scan) else none
  | .ret =>
      if s.host.guest = .running then pair s.given (some s.host) (s.guest.step .ret) else none

end State

/-- An instance from its creation on. -/
def system : Machine State Action := ⟨State.initial, State.step⟩

/-! ## The two halves -/

namespace State

variable {s after : State}

theorem of_pair {given : List Interest} {host : Option Host.Sockets.State}
    {guest : Option Backend} (paired : pair given host guest = some after) :
    host = some after.host ∧ guest = some after.guest ∧ after.given = given := by
  unfold pair at paired
  split at paired
  · cases paired
    exact ⟨rfl, rfl, rfl⟩
  · cases paired

/-- What a step of the instance can be. -/
inductive Stepped (s after : State) : Action → Prop where
  | enter (host : s.host.step .enter = some after.host) (guest : after.guest = s.guest)
      (given : after.given = []) : Stepped s after .enter
  | dispatch {event : HostEvent} {events : List HostEvent} (queue : s.host.events = event :: events)
      (host : s.host.step .dispatch = some after.host)
      (guest : s.guest.step (delivery event) = some after.guest) (given : after.given = []) :
      Stepped s after .dispatch
  | leave (host : s.host.step .leave = some after.host) (guest : after.guest = s.guest)
      (given : after.given = s.given) : Stepped s after .leave
  | host {action : Host.Sockets.Action} (admits : s.admits action = true)
      (host : s.host.step action = some after.host)
      (guest : s.follow action = some after.guest) (given : after.given = s.given) :
      Stepped s after (.host action)
  | op {op : Op} (running : s.host.guest = .running) (host : after.host = s.host)
      (guest : s.guest.step (.op op) = some after.guest)
      (given : after.given = s.given ++ s.gives op) : Stepped s after (.op op)
  | close {fd sid : Int} (host : s.host.step (.call (.sockClose sid)) = some after.host)
      (guest : s.guest.step (.op (.close fd)) = some after.guest)
      (given : after.given = s.given) : Stepped s after (.close fd)
  | closeUnknown {fd : Int} (running : s.host.guest = .running) (same : after = s) :
      Stepped s after (.close fd)
  | scan (running : s.host.guest = .running) (host : after.host = s.host)
      (guest : s.guest.step .scan = some after.guest) (given : after.given = s.given) :
      Stepped s after .scan
  | ret (running : s.host.guest = .running) (host : after.host = s.host)
      (guest : s.guest.step .ret = some after.guest) (given : after.given = s.given) :
      Stepped s after .ret

theorem stepped_of_step {action : Action} (stepped : s.step action = some after) :
    Stepped s after action := by
  unfold step at stepped
  split at stepped
  case h_1 =>
    split at stepped
    · obtain ⟨host, guest, given⟩ := of_pair stepped
      exact .enter host (Option.some.inj guest).symm given
    · cases stepped
  case h_2 =>
    split at stepped
    · cases stepped
    next event events queue =>
      obtain ⟨host, guest, given⟩ := of_pair stepped
      exact .dispatch queue host guest given
  case h_3 =>
    split at stepped
    · obtain ⟨host, guest, given⟩ := of_pair stepped
      exact .leave host (Option.some.inj guest).symm given
    · cases stepped
  case h_4 =>
    split at stepped
    next admits =>
      obtain ⟨host, guest, given⟩ := of_pair stepped
      exact .host admits host guest given
    · cases stepped
  case h_5 => cases stepped
  case h_6 => cases stepped
  case h_7 =>
    split at stepped
    next running =>
      obtain ⟨host, guest, given⟩ := of_pair stepped
      exact .op running (Option.some.inj host).symm guest given
    · cases stepped
  case h_8 =>
    split at stepped
    · split at stepped
      next running =>
        cases stepped
        exact .closeUnknown running rfl
      · cases stepped
    · obtain ⟨host, guest, given⟩ := of_pair stepped
      exact .close host guest given
  case h_9 =>
    split at stepped
    next running =>
      obtain ⟨host, guest, given⟩ := of_pair stepped
      exact .scan running (Option.some.inj host).symm guest given
    · cases stepped
  case h_10 =>
    split at stepped
    next running =>
      obtain ⟨host, guest, given⟩ := of_pair stepped
      exact .ret running (Option.some.inj host).symm guest given
    · cases stepped

end State

end UnboundWasm.System
