import Mathlib.Data.List.Nodup
import UnboundWasm.Guest.Routing

/-!
# The event list

`base.events` and the flags of its events, which callbacks change under the dispatchers.
A log records which events were created, added and freed, which callbacks were invoked,
and which events were given back to `malloc`.  It is read off the state after each step; a
delivery of readiness is known by its number.
-/

namespace UnboundWasm.Guest

open UnboundWasm.Lib

/-- Something that happened in a run. `called` is an invocation by `uw_io_ready`, `timed`
one by `uw_timer_fired`; both say whether the event was persistent. `freed` says whether
the event was given back at once, `released` that it was on the return of its callback. -/
inductive Happening where
  | called (delivery event : Nat) (persistent : Bool)
  | timed (event : Nat) (persistent : Bool)
  | created (event : Nat)
  | added (event : Nat)
  | freed (event : Nat) (released : Bool)
  | released (event : Nat)
  deriving DecidableEq, Repr

namespace Happening

def calls (delivery event : Nat) : Happening → Bool
  | .called delivery' event' _ => delivery' = delivery && event' = event
  | _ => false

def releases (event : Nat) : Happening → Bool
  | .freed event' atOnce => event' = event && atOnce
  | .released event' => event' = event
  | _ => false

def isInvocation : Happening → Bool
  | .called _ _ _ | .timed _ _ => true
  | _ => false

/-- No creation, no free and no release. -/
def isNeutral : Happening → Bool
  | .called _ _ _ | .timed _ _ | .added _ => true
  | .created _ | .freed _ _ | .released _ => false

end Happening

namespace Backend

def persistent (b : Backend) (event : Nat) : Bool :=
  ((b.events.get event).bits &&& evPersist) != 0

/-- What is noted about a step that leads to `after`: the callback that is then on the
stack, and the memory that has then been given back. -/
def noted (b : Backend) (action : Step) (after : Backend) : Option Happening :=
  match action with
  | .op (.newEvent _ _) => after.list.head?.map .created
  | .op (.add event _) | .op (.addTimer event _) => some (.added event)
  | .op (.free event) => some (.freed event (after.events.get event).released)
  | .scan | .timerFired _ =>
      match after.running with
      | .callback (some _) event => some (.called after.generation event (b.persistent event))
      | .callback none event => some (.timed event (b.persistent event))
      | .idle | .scanning _ => none
  | .ret =>
      match b.running with
      | .callback _ event =>
          if (after.events.get event).released then some (.released event) else none
      | .idle | .scanning _ => none
  | .op _ | .ioReady _ _ => none

/-- What a step adds to the log. -/
def happening : Backend → Step → Option Happening := backend.seen noted

/-- The events a step may look into: the list it walks, the event an operation is given,
and the event whose callback returns. -/
def reads (b : Backend) : Step → List Nat
  | .op (.free event) => event :: b.list
  | .op op =>
      match op.change with
      | some (event, _) => [event]
      | none => []
  | .scan | .timerFired _ => b.list
  | .ret =>
      match b.running with
      | .callback _ event => [event]
      | _ => []
  | .ioReady _ _ => []

end Backend

/-- The guest backend with the log of its run. -/
def dispatch : Machine (Backend × List Happening) Step := backend.logged Backend.happening

namespace Backend

variable {b after : Backend} {action : Step} {event other : Nat}

/-! ## Steps -/

/-- What a step of the backend can be. -/
inductive Moved (b : Backend) : Step → Backend → Prop where
  | table {op : Op} {after : Backend} (untouched : op.change = none)
      (same : SameEvents b after) (generation : after.generation = b.generation)
      (quiet : b.noted (.op op) after = none) : Moved b (.op op) after
  | created (fd : Int) (bits : BitVec 16) :
      Moved b (.op (.newEvent fd bits))
        { b with events := b.events.alloc (.new fd bits), list := b.events.size :: b.list }
  | changed {op : Op} {event : Nat} {change : Event → Event}
      (changes : op.change = some (event, change)) (kept : ∀ event, op ≠ .free event)
      (alive : b.alive event = true) :
      Moved b (.op op) { b with events := b.events.modify event change }
  | freed {event : Nat} (alive : b.alive event = true) :
      Moved b (.op (.free event))
        { b with events := b.events.modify event Event.free, list := b.list.erase event }
  | unknown {sid : Int} {flags : Nat} : Moved b (.ioReady sid flags) b
  | began {sid : Int} {flags : Nat} (idle : b.running = .idle) :
      Moved b (.ioReady sid flags)
        { b with
          generation := b.generation + 1
          running := .scanning
            ⟨sid, fdForSid b.slots sid, readyBits flags, (b.generation + 1) % 2 ^ 64⟩ }
  | finished {d : Delivery} (here : b.running = .scanning d) (none : b.scanTarget d = none) :
      Moved b .scan { b with running := .idle }
  | fired {d : Delivery} {event : Nat} (here : b.running = .scanning d)
      (found : b.scanTarget d = some event) : Moved b .scan (b.fire d event)
  | unmatched {tid : Int} (idle : b.running = .idle) (none : b.timerTarget tid = none) :
      Moved b (.timerFired tid) b
  | timed {tid : Int} {event : Nat} (idle : b.running = .idle)
      (found : b.timerTarget tid = some event) :
      Moved b (.timerFired tid)
        { b with
          events := b.events.modify event fun e => { e with timerId := 0, firing := true }
          running := .callback none event }
  | returned {d : Option Delivery} {event : Nat} (here : b.running = .callback d event) :
      Moved b .ret (b.ret d event)

theorem sameEvents_socket (b : Backend) :
    SameEvents b b.socket ∧ b.socket.generation = b.generation := by
  unfold socket
  dsimp only
  split
  · exact ⟨⟨rfl, rfl, rfl, rfl⟩, rfl⟩
  · split <;> exact ⟨⟨rfl, rfl, rfl, rfl⟩, rfl⟩

theorem sameEvents_close (b : Backend) (fd : Int) :
    SameEvents b (b.close fd) ∧ (b.close fd).generation = b.generation := by
  unfold close
  split <;> exact ⟨⟨rfl, rfl, rfl, rfl⟩, rfl⟩

theorem moved_of_operate {op : Op} (operated : b.operate op = some after) :
    Moved b (.op op) after := by
  cases op with
  | socket =>
      rw [operate, Option.some.injEq] at operated
      subst operated
      exact .table rfl (sameEvents_socket b).1 (sameEvents_socket b).2 rfl
  | close fd =>
      cases operated
      exact .table rfl (sameEvents_close b fd).1 (sameEvents_close b fd).2 rfl
  | newEvent fd bits =>
      cases operated
      exact .created fd bits
  | free event =>
      simp only [operate, Op.change] at operated
      split at operated
      next alive =>
        cases operated
        exact .freed alive
      · cases operated
  | addBits | delBits | setFd | del | add | addTimer | delTimer =>
      simp only [operate, Op.change] at operated
      split at operated
      next alive =>
        cases operated
        exact .changed rfl (by simp) alive
      · cases operated

theorem moved_of_step (stepped : b.step action = some after) : Moved b action after := by
  unfold step at stepped
  split at stepped
  case h_1 => exact moved_of_operate stepped
  case h_2 => exact moved_of_operate stepped
  case h_7 => cases stepped
  all_goals cases stepped
  case h_3 sid flags idle =>
    unfold ioReady
    dsimp only
    split
    · exact .unknown
    · exact .began idle
  case h_4 tid idle =>
    unfold timerFired
    split
    next none => exact .unmatched idle none
    next event found => exact .timed idle found
  case h_5 d here =>
    unfold scan
    split
    next none => exact .finished here none
    next event found => exact .fired here found
  case h_6 d event here => exact .returned here

/-! ## The list and the callback stack -/

/-- How the list, the flags of the events and the callback on the stack fit together. -/
structure Linked (b : Backend) : Prop where
  nodup : b.list.Nodup
  listed : ∀ event, event ∈ b.list ↔ b.alive event = true
  unborn : ∀ event, b.events.size ≤ event → b.events.get event = .new (-1) 0
  onStack : ∀ event, (b.events.get event).released = false →
    ((b.events.get event).firing = true ↔ ∃ d, b.running = .callback d event)
  held : ∀ d event, b.running = .callback d event →
    event < b.events.size ∧ (b.events.get event).released = false
  deferred : ∀ event, (b.events.get event).freed = true →
    (b.events.get event).released = false → (b.events.get event).firing = true

theorem initial_linked : Linked initial := by
  constructor
  case nodup => exact List.nodup_nil
  case listed => simp [initial, alive]
  case unborn =>
    intro event _
    rfl
  case onStack => simp [initial, Heap.empty, Event.new]
  case held => simp [initial]
  case deferred => simp [initial, Heap.empty, Event.new]

theorem alive_iff :
    b.alive event = true ↔ event < b.events.size ∧ (b.events.get event).freed = false ∧
      (b.events.get event).released = false := by
  simp [alive, and_assoc]

theorem mem_of_scanTarget {d : Delivery} (found : b.scanTarget d = some event) :
    event ∈ b.list ∧ (b.events.get event).isReady d = true := by
  have ready := List.find?_some found
  exact ⟨List.mem_of_find?_eq_some found, ready⟩

theorem mem_of_timerTarget {tid : Int} (found : b.timerTarget tid = some event) :
    event ∈ b.list ∧ (b.events.get event).active = true ∧ (b.events.get event).timerId = tid := by
  have ready := List.find?_some found
  simp only [Bool.and_eq_true, decide_eq_true_eq] at ready
  exact ⟨List.mem_of_find?_eq_some found, ready⟩

/-- The flags of an event that say who may still hold it. -/
structure SameFlags (old new : Event) : Prop where
  freed : new.freed = old.freed
  released : new.released = old.released
  firing : new.firing = old.firing

/-- An operation other than `event_free` leaves the flags of its event alone. -/
theorem kept_of_change {op : Op} {change : Event → Event}
    (changes : op.change = some (event, change)) (kept : ∀ event, op ≠ .free event) (e : Event) :
    SameFlags e (change e) := by
  cases op with
  | socket | close | newEvent => cases changes
  | free event => exact absurd rfl (kept event)
  | addBits | delBits | setFd | del | add | addTimer | delTimer =>
      cases changes
      exact ⟨rfl, rfl, rfl⟩

/-- A step that changes neither the list nor the flags, and enters or leaves no callback. -/
theorem Linked.frame (linked : b.Linked) (list : after.list = b.list)
    (size : after.events.size = b.events.size)
    (flags : ∀ event, SameFlags (b.events.get event) (after.events.get event))
    (unborn : ∀ event, b.events.size ≤ event → after.events.get event = b.events.get event)
    (running : ∀ d event, after.running = .callback d event ↔ b.running = .callback d event) :
    after.Linked := by
  constructor
  case nodup =>
    rw [list]
    exact linked.nodup
  case listed =>
    intro event
    rw [list, linked.listed, alive_iff, alive_iff, size, (flags event).freed,
      (flags event).released]
  case unborn =>
    intro event beyond
    rw [size] at beyond
    rw [unborn event beyond, linked.unborn event beyond]
  case onStack =>
    intro event
    simp only [(flags event).released, (flags event).firing, running]
    exact linked.onStack event
  case held =>
    intro d event
    simp only [size, (flags event).released, running]
    exact linked.held d event
  case deferred =>
    intro event
    rw [(flags event).freed, (flags event).released, (flags event).firing]
    exact linked.deferred event

/-- A callback is entered, for an event of the list. -/
theorem Linked.enter (linked : b.Linked) {d : Option Delivery}
    (outside : ∀ d event, b.running ≠ .callback d event) (member : event ∈ b.list)
    (list : after.list = b.list) (size : after.events.size = b.events.size)
    (running : after.running = .callback d event)
    (others : ∀ other ≠ event, after.events.get other = b.events.get other)
    (freed : (after.events.get event).freed = (b.events.get event).freed)
    (released : (after.events.get event).released = (b.events.get event).released)
    (firing : (after.events.get event).firing = true) : after.Linked := by
  obtain ⟨below, -, unreleased⟩ := alive_iff.mp ((linked.listed event).mp member)
  constructor
  case nodup =>
    rw [list]
    exact linked.nodup
  case listed =>
    intro other
    rw [list, linked.listed, alive_iff, alive_iff, size]
    by_cases same : other = event
    · rw [same, freed, released]
    · rw [others other same]
  case unborn =>
    intro other beyond
    rw [size] at beyond
    rw [others other (by omega), linked.unborn other beyond]
  case onStack =>
    intro other kept
    rw [running]
    by_cases same : other = event
    · simp [same, firing]
    · rw [others other same] at kept ⊢
      have quiet := linked.onStack other kept
      simp only [outside, exists_false, iff_false] at quiet
      simp [quiet, Ne.symm same]
  case held =>
    intro d' other here
    rw [running] at here
    cases here
    rw [size, released]
    exact ⟨below, unreleased⟩
  case deferred =>
    intro other gone kept
    by_cases same : other = event
    · rw [same, firing]
    · rw [others other same] at gone kept ⊢
      exact linked.deferred other gone kept

theorem Linked.created (linked : b.Linked) (fd : Int) (bits : BitVec 16) :
    Linked { b with events := b.events.alloc (.new fd bits), list := b.events.size :: b.list } := by
  have old (event : Nat) (member : event ∈ b.list) : event < b.events.size :=
    (alive_iff.mp ((linked.listed event).mp member)).1
  constructor
  case nodup =>
    refine List.nodup_cons.mpr ⟨?_, linked.nodup⟩
    intro member
    exact absurd (old _ member) (Nat.lt_irrefl _)
  case listed =>
    intro event
    rw [List.mem_cons, linked.listed, alive_iff, alive_iff]
    simp only [Heap.size_alloc, Heap.get_alloc]
    split
    next same => simp [same, Event.new]
    next distinct =>
      constructor
      · rintro (same | ⟨below, flags⟩)
        · exact absurd same distinct
        · exact ⟨by omega, flags⟩
      · rintro ⟨below, flags⟩
        exact .inr ⟨by omega, flags⟩
  case unborn =>
    intro event beyond
    simp only [Heap.size_alloc] at beyond
    simp only [Heap.get_alloc]
    rw [if_neg (by omega), linked.unborn event (by omega)]
  case onStack =>
    intro event kept
    simp only [Heap.get_alloc] at kept ⊢
    split at kept
    next same =>
      have unheld (d : Option Delivery) : b.running ≠ .callback d event := by
        intro here
        have below := (linked.held d event here).1
        omega
      simp [same ▸ unheld, same, Event.new]
    next distinct =>
      rw [if_neg distinct]
      exact linked.onStack event kept
  case held =>
    intro d event here
    obtain ⟨below, kept⟩ := linked.held d event here
    simp only [Heap.size_alloc, Heap.get_alloc, if_neg (Nat.ne_of_lt below)]
    exact ⟨by omega, kept⟩
  case deferred =>
    intro event
    simp only [Heap.get_alloc]
    split
    · simp [Event.new]
    · exact linked.deferred event

theorem Linked.freed (linked : b.Linked) (alive : b.alive event = true) :
    Linked { b with events := b.events.modify event Event.free, list := b.list.erase event } := by
  obtain ⟨below, unfreed, unreleased⟩ := alive_iff.mp alive
  constructor
  case nodup => exact linked.nodup.erase event
  case listed =>
    intro other
    rw [linked.nodup.mem_erase_iff, linked.listed, alive_iff, alive_iff]
    simp only [Heap.size_modify, Heap.get_modify]
    split
    next same =>
      have gone : (b.events.get event).free.freed = true ∨
          (b.events.get event).free.released = true := by
        unfold Event.free
        split <;> simp
      rcases gone with gone | gone <;> simp [same, gone]
    next distinct => simp [distinct]
  case unborn =>
    intro other beyond
    simp only [Heap.size_modify] at beyond
    simp only [Heap.get_modify]
    rw [if_neg (by omega), linked.unborn other beyond]
  case onStack =>
    intro other kept
    simp only [Heap.get_modify] at kept ⊢
    split at kept
    next same =>
      subst same
      rw [if_pos rfl, ← linked.onStack other unreleased]
      unfold Event.free
      split <;> simp [Event.del, Event.stopTimer]
    next distinct =>
      rw [if_neg distinct]
      exact linked.onStack other kept
  case held =>
    intro d other here
    obtain ⟨inside, kept⟩ := linked.held d other here
    refine ⟨inside, ?_⟩
    simp only [Heap.get_modify]
    split
    next same =>
      subst same
      have firing := (linked.onStack other kept).mpr ⟨d, here⟩
      simp [Event.free, firing, Event.del, Event.stopTimer, kept]
    · exact kept
  case deferred =>
    intro other
    simp only [Heap.get_modify]
    split
    next same =>
      unfold Event.free
      split
      next firing => simp [Event.del, Event.stopTimer, firing]
      · simp
    · exact linked.deferred other

theorem Linked.returned (linked : b.Linked) {d : Option Delivery}
    (here : b.running = .callback d event) : (b.ret d event).Linked := by
  obtain ⟨below, unreleased⟩ := linked.held d event here
  have firing := (linked.onStack event unreleased).mpr ⟨d, here⟩
  have outside (d' : Option Delivery) (other : Nat) :
      (b.ret d event).running ≠ .callback d' other := by
    cases d <;> simp [ret]
  have alone (other : Nat) (distinct : other ≠ event)
      (kept : (b.events.get other).released = false) : (b.events.get other).firing = false := by
    have quiet := linked.onStack other kept
    rw [here] at quiet
    simpa [Ne.symm distinct] using quiet
  constructor
  case nodup => exact linked.nodup
  case listed =>
    intro other
    have old := linked.listed other
    rw [alive_iff] at old ⊢
    simp only [ret, Heap.size_modify, Heap.get_modify]
    rw [old]
    split
    next same =>
      subst same
      split <;> simp_all
    · rfl
  case unborn =>
    intro other beyond
    simp only [ret, Heap.size_modify] at beyond
    simp only [ret, Heap.get_modify]
    rw [if_neg (by omega), linked.unborn other beyond]
  case onStack =>
    intro other kept
    simp only [outside, exists_false, iff_false]
    simp only [ret, Heap.get_modify] at kept ⊢
    split at kept
    next same =>
      split at kept
      · simp at kept
      next unfreed => simp [same, unfreed]
    next distinct => simp [distinct, alone other distinct kept]
  case held =>
    intro d' other there
    exact absurd there (outside d' other)
  case deferred =>
    intro other gone kept
    simp only [ret, Heap.get_modify] at gone kept ⊢
    split at kept
    next same =>
      split at kept
      · simp at kept
      next unfreed => simp [same, unfreed] at gone
    next distinct =>
      rw [if_neg distinct] at gone ⊢
      exact linked.deferred other gone kept

theorem Linked.moved (linked : b.Linked) (moved : Moved b action after) : after.Linked := by
  cases moved with
  | table untouched same generation quiet =>
      refine linked.frame same.list (by rw [same.events]) ?_ ?_ ?_
      · intro event
        rw [same.events]
        exact ⟨rfl, rfl, rfl⟩
      · intro event _
        rw [same.events]
      · intro d event
        rw [same.running]
  | created fd bits => exact linked.created fd bits
  | @changed op event change changes kept alive =>
      have flags := kept_of_change changes kept
      refine linked.frame rfl rfl ?_ ?_ (fun _ _ => Iff.rfl)
      · intro other
        constructor
        · exact Heap.get_modify_frame _ _ _ _ Event.freed fun e => (flags e).freed
        · exact Heap.get_modify_frame _ _ _ _ Event.released fun e => (flags e).released
        · exact Heap.get_modify_frame _ _ _ _ Event.firing fun e => (flags e).firing
      · intro other beyond
        have below := (alive_iff.mp alive).1
        simp only [Heap.get_modify]
        rw [if_neg (by omega)]
  | freed alive => exact linked.freed alive
  | unknown | unmatched => exact linked
  | began idle =>
      refine linked.frame rfl rfl (fun _ => ⟨rfl, rfl, rfl⟩) (fun _ _ => rfl) ?_
      simp [idle]
  | finished here none =>
      refine linked.frame rfl rfl (fun _ => ⟨rfl, rfl, rfl⟩) (fun _ _ => rfl) ?_
      simp [here]
  | fired here found =>
      refine linked.enter (by simp [here]) (mem_of_scanTarget found).1 rfl rfl rfl ?_ ?_ ?_ ?_
      · intro other distinct
        simp only [fire, Heap.get_modify]
        rw [if_neg distinct]
      all_goals simp [fire]
  | timed idle found =>
      refine linked.enter (by simp [idle]) (mem_of_timerTarget found).1 rfl rfl rfl ?_ ?_ ?_ ?_
      · intro other distinct
        simp only [Heap.get_modify]
        rw [if_neg distinct]
      all_goals simp
  | returned here => exact linked.returned here

end Backend

end UnboundWasm.Guest
