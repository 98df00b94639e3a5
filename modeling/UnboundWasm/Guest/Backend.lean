import UnboundWasm.Lib.Heap
import UnboundWasm.Lib.Machine
import UnboundWasm.Host.Errno

/-!
# The guest's event backend

`event.c` with the descriptor table of `sockets.c`: Unbound opens and closes
sockets and registers events through the vmt, the host delivers readiness through
`guest_io_ready`.  What Unbound's callbacks do is arbitrary, so a callback is a
stretch of operations of any kind between its invocation and its return.

Events are never touched after they were freed.
-/

namespace UnboundWasm.Guest

open UnboundWasm.Lib UnboundWasm.Host

/-! The `UB_EV_*` bits of libunbound. -/

def evTimeout : BitVec 16 := 0x01
def evRead : BitVec 16 := 0x02
def evWrite : BitVec 16 := 0x04
def evPersist : BitVec 16 := 0x10

/-- `UNBOUND_WASM_IO_*`. -/
def abiRead : Nat := 1
def abiWrite : Nat := 2
def abiErr : Nat := 4

/-- `FD_BASE` and `MAX_SOCKETS`. -/
def fdBase : Int := 0x40000000
def maxSockets : Nat := 128

/-- `struct uw_event`, without its callback. `released` says that the memory was
given back. -/
structure Event where
  fd : Int
  bits : BitVec 16
  active : Bool
  firing : Bool
  freed : Bool
  timerId : Int
  lastDispatch : Nat
  released : Bool
  deriving DecidableEq, Repr

/-- `calloc` and the assignments of `base_new_event`. -/
def Event.new (fd : Int) (bits : BitVec 16) : Event :=
  ⟨fd, bits, false, false, false, 0, 0, false⟩

/-- The locals of `uw_io_ready`, with the host id it was called for. -/
structure Delivery where
  sid : Int
  fd : Int
  bits : BitVec 16
  gen : Nat
  deriving DecidableEq, Repr

/-- What the guest is doing. `idle` also stands for exports other than the two
deliveries. A callback runs for a delivery or for a timer. -/
inductive Running where
  | idle
  | scanning (d : Delivery)
  | callback (d : Option Delivery) (event : Nat)
  deriving DecidableEq, Repr

/-- A callback `uw_io_ready` invoked: for which host id, on which event, and what
the descriptor denoted at that moment. -/
structure Invocation where
  sid : Int
  event : Nat
  fd : Int
  denoted : Option Int
  closed : Bool
  deriving DecidableEq, Repr

/-- `slots` holds the host id of every used slot. `list` is `base.events` from its
head. `generation` counts the deliveries; the `uint64_t` of the source is what is left
of it modulo `2 ^ 64`. `opened` counts the sockets the host has opened; `closed` and
`invoked` record what has happened. -/
structure Backend where
  slots : List (Option Int)
  events : Heap Event
  list : List Nat
  generation : Nat
  running : Running
  opened : Nat
  closed : List Int
  invoked : List Invocation

namespace Backend

def initial : Backend :=
  ⟨List.replicate maxSockets none, .empty (.new (-1) 0), [], 0, .idle, 0, [], []⟩

section Slots

variable {Slot : Type} (slots : List (Option Slot))

/-- The slot a descriptor stands for, in use or not. -/
def slotOf (fd : Int) : Nat := (fd - fdBase).toNat

/-- `lookup`, for what is kept of a slot in use. -/
def lookup (fd : Int) : Option Slot := if fd < fdBase then none else (slots[slotOf fd]?).join

/-- The search of `uw_socket` for a slot that is not in use. -/
def freeSlot : Option Nat := slots.findIdx? Option.isNone

/-- The slot of a descriptor is given back. -/
def release (fd : Int) : List (Option Slot) := slots.set (slotOf fd) none

variable {slots} {fd : Int} {slot : Slot}

theorem mem_of_lookup (found : lookup slots fd = some slot) :
    fdBase ≤ fd ∧ slots[slotOf fd]? = some (some slot) := by
  rw [lookup] at found
  split at found
  · cases found
  next inside =>
    rw [Option.join_eq_some_iff] at found
    exact ⟨Int.not_lt.mp inside, found⟩

theorem lookup_of_mem {i : Nat} (used : slots[i]? = some (some slot)) :
    lookup slots (fdBase + i) = some slot := by
  have index : slotOf (fdBase + i) = i := by
    rw [slotOf]
    omega
  rw [lookup, if_neg (by omega), index, used]
  rfl

end Slots

/-- `uw_socket_fd_for_sid`. -/
def fdForSid (slots : List (Option Int)) (sid : Int) : Int :=
  match slots.findIdx? (· = some sid) with
  | none => -1
  | some i => fdBase + i

/-- `uw_socket`, once its arguments have passed. The host numbers the sockets it
opens. -/
def socket (b : Backend) : Backend :=
  let sid := toInt32 (b.opened + 1)
  let b := { b with opened := b.opened + 1 }
  if sid < 0 then b
  else
    match freeSlot b.slots with
    | some i => { b with slots := b.slots.set i (some sid) }
    | none => { b with closed := b.closed ++ [sid] }

/-- `uw_close`. -/
def close (b : Backend) (fd : Int) : Backend :=
  match lookup b.slots fd with
  | none => b
  | some sid =>
      { b with
        slots := release b.slots fd
        closed := b.closed ++ [sid] }

end Backend

/-- What Unbound may do. `add` and `addTimer` give the id `uw_timer_start`
returned, where a timeout was passed. -/
inductive Op where
  | socket
  | close (fd : Int)
  | newEvent (fd : Int) (bits : BitVec 16)
  | addBits (event : Nat) (bits : BitVec 16)
  | delBits (event : Nat) (bits : BitVec 16)
  | setFd (event : Nat) (fd : Int)
  | del (event : Nat)
  | free (event : Nat)
  | add (event : Nat) (timer : Option Int)
  | addTimer (event : Nat) (timer : Option Int)
  | delTimer (event : Nat)
  deriving DecidableEq, Repr

namespace Event

/-- `stop_timer`. -/
def stopTimer (e : Event) : Event := { e with timerId := 0 }

/-- `start_timer`. -/
def startTimer (e : Event) (timer : Option Int) : Event := { e with timerId := timer.getD 0 }

/-- `event_del`. -/
def del (e : Event) : Event := { e with active := false }.stopTimer

/-- `event_free`, the unlinking apart. -/
def free (e : Event) : Event :=
  if e.firing then { e.del with freed := true } else { e.del with released := true }

/-- `event_add`. -/
def add (e : Event) (timer : Option Int) : Event := { e with active := true }.startTimer timer

/-- `event_add_timer`. -/
def addTimer (e : Event) (timer : Option Int) : Event :=
  { e with fd := -1, bits := evTimeout, active := true }.startTimer timer

/-- The condition of the scan in `uw_io_ready`. -/
def isReady (e : Event) (d : Delivery) : Bool :=
  e.active && !e.firing && e.fd = d.fd && (e.bits &&& d.bits) != 0 && e.lastDispatch != d.gen

end Event

/-- The vmt entries that change one event, and how. -/
def Op.change : Op → Option (Nat × (Event → Event))
  | .addBits event bits => some (event, fun e => { e with bits := e.bits ||| bits })
  | .delBits event bits => some (event, fun e => { e with bits := e.bits &&& ~~~bits })
  | .setFd event fd => some (event, fun e => { e with fd := fd })
  | .del event => some (event, Event.del)
  | .free event => some (event, Event.free)
  | .add event timer => some (event, fun e => e.add timer)
  | .addTimer event timer => some (event, fun e => e.addTimer timer)
  | .delTimer event => some (event, Event.stopTimer)
  | .socket | .close _ | .newEvent _ _ => none

/-- What happens next. -/
inductive Step where
  | op (op : Op)
  | ioReady (sid : Int) (flags : Nat)
  | timerFired (tid : Int)
  | scan
  | ret
  deriving DecidableEq, Repr

namespace Backend

/-- The event may still be used. -/
def alive (b : Backend) (event : Nat) : Bool :=
  event < b.events.size && !(b.events.get event).freed && !(b.events.get event).released

/-- An operation of Unbound. -/
def operate (b : Backend) (op : Op) : Option Backend :=
  match op with
  | .socket => some b.socket
  | .close fd => some (b.close fd)
  | .newEvent fd bits =>
      some { b with events := b.events.alloc (.new fd bits), list := b.events.size :: b.list }
  | op =>
      match op.change with
      | none => none
      | some (event, change) =>
          if b.alive event then
            let list := match op with
              | .free _ => b.list.erase event
              | _ => b.list
            some { b with events := b.events.modify event change, list := list }
          else
            none

/-- The readiness bits of `uw_io_ready`. -/
def readyBits (flags : Nat) : BitVec 16 :=
  (if flags &&& abiRead ≠ 0 then evRead else 0) |||
    (if flags &&& abiWrite ≠ 0 then evWrite else 0) |||
    (if flags &&& abiErr ≠ 0 then evRead ||| evWrite else 0)

/-- `guest_io_ready` up to the loop of `uw_io_ready`. -/
def ioReady (b : Backend) (sid : Int) (flags : Nat) : Backend :=
  let fd := fdForSid b.slots sid
  if fd < 0 then b
  else
    { b with
      generation := b.generation + 1
      running := .scanning ⟨sid, fd, readyBits flags, (b.generation + 1) % 2 ^ 64⟩ }

/-- Invoke the callback of an event. -/
def fire (b : Backend) (d : Delivery) (event : Nat) : Backend :=
  { b with
    events := b.events.modify event fun e =>
      { e with
        lastDispatch := d.gen
        firing := true
        active := e.active && (e.bits &&& evPersist) != 0 }
    running := .callback (some d) event
    invoked := b.invoked ++ [⟨d.sid, event, (b.events.get event).fd,
      lookup b.slots (b.events.get event).fd, b.closed.contains d.sid⟩] }

/-- The search of `uw_io_ready`. -/
def scanTarget (b : Backend) (d : Delivery) : Option Nat :=
  b.list.find? fun event => (b.events.get event).isReady d

/-- One turn of the loop in `uw_io_ready`. -/
def scan (b : Backend) (d : Delivery) : Backend :=
  match b.scanTarget d with
  | none => { b with running := .idle }
  | some event => b.fire d event

/-- The search of `uw_timer_fired`. -/
def timerTarget (b : Backend) (tid : Int) : Option Nat :=
  b.list.find? fun event => (b.events.get event).active && (b.events.get event).timerId = tid

/-- `uw_timer_fired` up to its callback. -/
def timerFired (b : Backend) (tid : Int) : Backend :=
  match b.timerTarget tid with
  | none => b
  | some event =>
      { b with
        events := b.events.modify event fun e => { e with timerId := 0, firing := true }
        running := .callback none event }

/-- A callback returns. -/
def ret (b : Backend) (d : Option Delivery) (event : Nat) : Backend :=
  { b with
    events := b.events.modify event fun e =>
      if e.freed then { e with released := true } else { e with firing := false }
    running := match d with
      | some d => .scanning d
      | none => .idle }

/-- One step of the guest. Unbound's code runs in callbacks and in other exports,
not while `uw_io_ready` scans. -/
def step (b : Backend) (action : Step) : Option Backend :=
  match b.running, action with
  | .idle, .op op => b.operate op
  | .callback _ _, .op op => b.operate op
  | .idle, .ioReady sid flags => some (b.ioReady sid flags)
  | .idle, .timerFired tid => some (b.timerFired tid)
  | .scanning d, .scan => some (b.scan d)
  | .callback d event, .ret => some (b.ret d event)
  | _, _ => none

end Backend

/-- The guest backend from its start. -/
def backend : Machine Backend Step := ⟨Backend.initial, Backend.step⟩

end UnboundWasm.Guest
