import UnboundWasm.Guest.Backend
import UnboundWasm.Host.Timers

/-!
# Timers across host and guest

The event backend of the guest with the timers of its host.  `stop_timer` and
`uw_timer_start` are separate calls of the host, and timers expire, are deleted and
enqueued before, between and after them, so the guest is sent events of timers it
has stopped.  A log records what became of each event's timer: stopped, started with
the id the host returned, and fired, with the event whose callback is then on the stack.
-/

namespace UnboundWasm.System.Timers

open UnboundWasm.Lib UnboundWasm.Guest
open UnboundWasm.Host (toInt64)
open UnboundWasm.Host.Timers (toUInt64 toUInt64_toInt64 toInt64_eq_zero)

/-- The event whose `timer_id` an operation sets, and to what. -/
def timerOf : Op → Option (Nat × Int)
  | .add event timer | .addTimer event timer => some (event, timer.getD 0)
  | .del event | .free event | .delTimer event => some (event, 0)
  | .socket | .close _ | .newEvent _ _ | .addBits _ _ | .delBits _ _ | .setFd _ _ => none

/-- The operation was given a timeout. -/
def timed : Op → Bool
  | .add _ timer | .addTimer _ timer => timer.isSome
  | .socket | .close _ | .newEvent _ _ | .addBits _ _ | .delBits _ _ | .setFd _ _ | .del _
  | .free _ | .delTimer _ => false

/-- The operation once `uw_timer_start` has returned. -/
def returning (tid : Int) : Op → Op
  | .add event (some _) => .add event (some tid)
  | .addTimer event (some _) => .addTimer event (some tid)
  | op => op

/-- `starting` is an operation between its `stop_timer` and its `uw_timer_start`. -/
structure State where
  host : Host.Timers.State
  guest : Backend
  starting : Option Op

/-- The host on its own, the guest on its own, an operation of Unbound up to its call
of `uw_timer_start`, that call, and the delivery of a timer event. -/
inductive Action where
  | host (action : Host.Timers.Action)
  | guest (step : Step)
  | op (op : Op)
  | start
  | dispatch (tid : Nat)

/-- What became of an event's timer. -/
inductive Note where
  | stopped (event : Nat)
  | started (event : Nat) (tid : Nat)
  | fired (tid : Nat) (event : Option Nat)
  deriving DecidableEq, Repr

/-- What the host does without being called. -/
def background : Host.Timers.Action → Bool
  | .expire _ | .delete _ | .enqueue _ _ | .shutdown | .receive | .lose _ => true
  | .start | .stop _ | .dispatch _ => false

/-- What the guest does without touching a timer. -/
def timeless : Step → Bool
  | .ioReady _ _ | .scan | .ret => true
  | .op _ | .timerFired _ => false

/-- The event whose callback runs for a timer. -/
def timedOut : Running → Option Nat
  | .callback none event => some event
  | .idle | .scanning _ | .callback (some _) _ => none

namespace State

def initial : State := ⟨.initial, .initial, none⟩

/-- `stop_timer`, as the host sees it. -/
def stopTimer (s : State) (event : Nat) : Host.Timers.State :=
  let tid := (s.guest.events.get event).timerId
  if tid = 0 then s.host else s.host.timerStop (toUInt64 tid)

def step (s : State) : Action → Option State
  | .host action =>
      if background action then
        match s.host.step action with
        | none => none
        | some host => some { s with host := host }
      else none
  | .guest step =>
      if timeless step ∧ s.starting = none then
        match s.guest.step step with
        | none => none
        | some guest => some { s with guest := guest }
      else none
  | .op op =>
      if s.starting = none then
        match timerOf op with
        | none =>
            match s.guest.step (.op op) with
            | none => none
            | some guest => some { s with guest := guest }
        | some (event, _) =>
            -- With a timeout, `timer_id` is 0 while `uw_timer_start` is called.
            match s.guest.step (.op (if timed op then .delTimer event else op)) with
            | none => none
            | some guest =>
                some ⟨s.stopTimer event, guest, if timed op then some op else none⟩
      else none
  | .start =>
      match s.starting with
      | none => none
      | some op =>
          match s.guest.step (.op (returning (toInt64 s.host.timerStart.1) op)) with
          | none => none
          | some guest => some ⟨s.host.timerStart.2, guest, none⟩
  | .dispatch tid =>
      if s.starting = none then
        match s.host.step (.dispatch tid), s.guest.step (.timerFired (toInt64 tid)) with
        | some host, some guest => some { s with host := host, guest := guest }
        | _, _ => none
      else none

/-- What is noted about a step that leads to `after`. -/
def noted (s : State) (action : Action) (after : State) : Option Note :=
  match action with
  | .host _ | .guest _ => none
  | .op op => (timerOf op).map fun set => .stopped set.1
  | .start => s.starting.bind fun op =>
      (timerOf op).map fun set => .started set.1 s.host.timerStart.1
  | .dispatch tid => some (.fired tid (timedOut after.guest.running))

end State

/-- The guest's timers on the host's. -/
def system : Machine State Action := ⟨State.initial, State.step⟩

/-- What a step adds to the log. -/
def State.note : State → Action → Option Note := system.seen State.noted

/-- The system with the log of its timers. -/
def history : Machine (State × List Note) Action := system.logged State.note

/-! ## The guest's timer ids -/

section Guest

variable {b after : Backend} {event : Nat}

theorem timerId_ioReady (sid : Int) (flags : Nat) :
    ((b.ioReady sid flags).events.get event).timerId = (b.events.get event).timerId := by
  rw [Backend.ioReady]
  split <;> rfl

theorem timerId_scan (d : Delivery) :
    ((b.scan d).events.get event).timerId = (b.events.get event).timerId := by
  rw [Backend.scan]
  split
  · rfl
  · rw [Backend.fire, Heap.get_modify]
    split
    next same => rw [same]
    · rfl

theorem timerId_ret (d : Option Delivery) (other : Nat) :
    ((b.ret d other).events.get event).timerId = (b.events.get event).timerId := by
  simp only [Backend.ret, Heap.get_modify]
  split
  next same =>
    rw [same]
    split <;> rfl
  · rfl

/-- Deliveries of readiness leave timers alone. -/
theorem timerId_timeless {step : Step} (plain : timeless step = true)
    (stepped : b.step step = some after) :
    (after.events.get event).timerId = (b.events.get event).timerId := by
  unfold Backend.step at stepped
  split at stepped
  case h_1 => cases plain
  case h_2 => cases plain
  case h_7 => cases stepped
  all_goals cases stepped
  case h_4 => cases plain
  case h_3 => exact timerId_ioReady _ _
  case h_5 => exact timerId_scan _
  case h_6 => exact timerId_ret _ _

/-- What an operation does to `timer_id` of its event. -/
theorem timerId_change {op : Op} {change : Event → Event}
    (changes : op.change = some (event, change)) (e : Event) :
    ((change e).timerId = e.timerId ∧ timerOf op = none) ∨
      timerOf op = some (event, (change e).timerId) := by
  cases op with
  | free =>
      cases changes
      right
      rw [Event.free]
      split <;> rfl
  | addBits | delBits | setFd =>
      cases changes
      exact .inl ⟨rfl, rfl⟩
  | del | add | addTimer | delTimer =>
      cases changes
      exact .inr rfl
  | socket | close | newEvent => cases changes

theorem events_socket : b.socket.events = b.events := by
  rw [Backend.socket]
  dsimp only
  split
  · rfl
  · split <;> rfl

theorem events_close (fd : Int) : (b.close fd).events = b.events := by
  rw [Backend.close]
  split <;> rfl

/-- An operation sets `timer_id` of the event it is for, or leaves it alone; a new event
has none. -/
theorem timerId_operate {op : Op} (stepped : b.operate op = some after) (event : Nat) :
    (after.events.get event).timerId = 0 ∨
      ((after.events.get event).timerId = (b.events.get event).timerId ∧
        ∀ tid, timerOf op ≠ some (event, tid)) ∨
      timerOf op = some (event, (after.events.get event).timerId) := by
  have changed : ∀ other change, op.change = some (other, change) →
      after.events = b.events.modify other change →
      ((after.events.get event).timerId = (b.events.get event).timerId ∧
        ∀ tid, timerOf op ≠ some (event, tid)) ∨
      timerOf op = some (event, (after.events.get event).timerId) := by
    intro other change changes events
    rw [events, Heap.get_modify]
    split
    next same =>
      subst same
      rcases timerId_change changes (b.events.get event) with ⟨kept, untimed⟩ | set
      · exact .inl ⟨kept, by simp [untimed]⟩
      · exact .inr set
    next different =>
      rcases timerId_change changes (b.events.get other) with ⟨_, untimed⟩ | set
      · exact .inl ⟨rfl, by simp [untimed]⟩
      · refine .inl ⟨rfl, ?_⟩
        intro tid same
        rw [set] at same
        cases same
        exact different rfl
  cases op with
  | socket =>
      rw [Backend.operate, Option.some.injEq] at stepped
      rw [← stepped, events_socket]
      exact .inr (.inl ⟨rfl, fun _ => by simp [timerOf]⟩)
  | close fd =>
      cases stepped
      rw [events_close]
      exact .inr (.inl ⟨rfl, fun _ => by simp [timerOf]⟩)
  | newEvent fd bits =>
      cases stepped
      dsimp only
      rw [Heap.get_alloc]
      split
      · exact .inl rfl
      · exact .inr (.inl ⟨rfl, fun _ => by simp [timerOf]⟩)
  | addBits | delBits | setFd | del | free | add | addTimer | delTimer =>
      simp only [Backend.operate, Op.change] at stepped
      split at stepped
      · cases stepped
        exact .inr (changed _ _ rfl rfl)
      · cases stepped

/-- Unbound's code runs in exports and in callbacks. -/
theorem operate_of_step {op : Op} (stepped : b.step (.op op) = some after) :
    b.operate op = some after := by
  unfold Backend.step at stepped
  cases running : b.running with
  | idle | callback => simpa only [running] using stepped
  | scanning => simp only [running, reduceCtorEq] at stepped

theorem timerFired_of_step {tid : Int} (stepped : b.step (.timerFired tid) = some after) :
    b.timerFired tid = after := by
  unfold Backend.step at stepped
  cases running : b.running with
  | idle => simpa only [running, Option.some.injEq] using stepped
  | callback | scanning => simp only [running, reduceCtorEq] at stepped

/-- `uw_timer_fired` invokes the callback of an event only for the id it holds. -/
theorem timerId_of_timedOut {tid : Int} (stepped : b.step (.timerFired tid) = some after)
    (runs : timedOut after.running = some event) : (b.events.get event).timerId = tid := by
  have idle : b.running = .idle := by
    unfold Backend.step at stepped
    cases running : b.running with
    | idle => rfl
    | callback | scanning => simp only [running, reduceCtorEq] at stepped
  rw [← timerFired_of_step stepped, Backend.timerFired] at runs
  split at runs
  · rw [idle] at runs
    cases runs
  next found =>
    cases runs
    have chosen := List.find?_some found
    simp only [Bool.and_eq_true, decide_eq_true_eq] at chosen
    exact chosen.2

/-- `uw_timer_fired` clears the id of the event it finds, and no other. -/
theorem timerId_timerFired (tid : Int) (event : Nat) :
    ((b.timerFired tid).events.get event).timerId = 0 ∨
      ((b.timerFired tid).events.get event).timerId = (b.events.get event).timerId := by
  rw [Backend.timerFired]
  split
  · exact .inr rfl
  · rw [Heap.get_modify]
    split
    · exact .inl rfl
    · exact .inr rfl

end Guest

/-! ## The log -/

namespace Note

/-- The timer of this event was stopped or replaced. -/
def touches (event : Nat) : Note → Bool
  | .stopped other | .started other _ => other = event
  | .fired _ _ => false

def isStarted (tid : Nat) : Note → Bool
  | .started _ other => other = tid
  | .stopped _ | .fired _ _ => false

def isFired (tid : Nat) : Note → Bool
  | .fired other _ => other = tid
  | .stopped _ | .started _ _ => false

/-- The delivery of this timer that invoked a callback. -/
def invokes (tid : Nat) : Note → Bool
  | .fired other event => other = tid && event.isSome
  | .stopped _ | .started _ _ => false

end Note

/-- The latest entry about an event says that `start_timer` returned this id. -/
def Newest (log : List Note) (event tid : Nat) : Prop :=
  ∃ older newer, log = older ++ .started event tid :: newer ∧
    ∀ note ∈ newer, note.touches event = false

theorem Newest.append {log : List Note} {event tid : Nat} (newest : Newest log event tid)
    {entry : Option Note} (other : ∀ note, entry = some note → note.touches event = false) :
    Newest (log ++ entry.toList) event tid := by
  obtain ⟨older, newer, rfl, untouched⟩ := newest
  refine ⟨older, newer ++ entry.toList, by rw [List.append_assoc, List.cons_append], ?_⟩
  intro note member
  rcases List.mem_append.mp member with old | new
  · exact untouched note old
  · exact other note (Option.mem_toList.mp new)

/-- The event's most recent `start_timer` returned this id, and the timer has been
neither stopped, replaced nor delivered since. -/
def Standing (log : List Note) (event tid : Nat) : Prop :=
  tid ≠ 0 ∧ ∃ older newer, log = older ++ .started event tid :: newer ∧
    ∀ note ∈ newer, note.touches event = false ∧ note.isFired tid = false

/-- `timer_id` of an event is this id of the host. -/
def Holds (guest : Backend) (event tid : Nat) : Prop :=
  (tid ≠ 0 ∧ tid < 2 ^ 64) ∧ (guest.events.get event).timerId = toInt64 tid

theorem not_holds {guest : Backend} {event tid : Nat}
    (unset : (guest.events.get event).timerId = 0) : ¬ Holds guest event tid := by
  rintro ⟨⟨positive, small⟩, set⟩
  exact positive (toInt64_eq_zero small (set.symm.trans unset))

/-- What holds of the system and its log until the ids wrap around. -/
structure Faithful (s : State) (log : List Note) : Prop where
  host : s.host.Sound
  starting : ∀ op, s.starting = some op → timed op = true
  newest : ∀ event tid, Holds s.guest event tid → Newest log event tid
  counted : ∀ tid, log.countP (Note.isFired tid) = s.host.dispatched.count tid
  numbered : ∀ tid, s.host.nextTimer < tid → log.countP (Note.isStarted tid) = 0
  distinct : ∀ tid, tid ≠ 0 → log.countP (Note.isStarted tid) ≤ 1
  rightful : ∀ before event tid later, log = before ++ .fired tid (some event) :: later →
    Standing before event tid

variable {s after : State} {log : List Note}

theorem Faithful.initial : Faithful .initial [] := by
  refine ⟨.initial, by simp [State.initial], ?_, fun _ => rfl, fun _ _ => rfl,
    fun _ _ => Nat.zero_le 1, by simp⟩
  intro event tid holds
  exact absurd holds (not_holds rfl)

/-- One more entry, or none. A set `timer_id` was so before and is not what the entry is
about, or the entry is its start, with an id that is new. -/
theorem Faithful.append {entry : Option Note} (faithful : Faithful s log)
    (host : after.host.Sound) (starting : ∀ op, after.starting = some op → timed op = true)
    (next : s.host.nextTimer ≤ after.host.nextTimer)
    (guest : ∀ event tid : Nat, Holds after.guest event tid →
      (Holds s.guest event tid ∧ ∀ note, entry = some note → note.touches event = false) ∨
      entry = some (.started event tid))
    (fired : ∀ tid, after.host.dispatched.count tid =
      s.host.dispatched.count tid + entry.toList.countP (Note.isFired tid))
    (started : ∀ event tid, entry = some (.started event tid) →
      tid = 0 ∨ (s.host.nextTimer < tid ∧ tid ≤ after.host.nextTimer))
    (standing : ∀ event tid, entry = some (.fired tid (some event)) → Standing log event tid) :
    Faithful after (log ++ entry.toList) := by
  have starts : ∀ tid, entry.toList.countP (Note.isStarted tid) = 0 ∨
      ∃ event, entry = some (.started event tid) := by
    intro tid
    cases entry with
    | none => exact .inl rfl
    | some note =>
        cases note with
        | stopped | fired => exact .inl rfl
        | started event other =>
            by_cases same : other = tid
            · exact .inr ⟨event, by rw [same]⟩
            · exact .inl (by simp [Note.isStarted, same])
  constructor
  case host => exact host
  case starting => exact starting
  case newest =>
    intro event tid holds
    rcases guest event tid holds with ⟨before, other⟩ | here
    · exact (faithful.newest event tid before).append other
    · exact ⟨log, [], by rw [here]; rfl, by simp⟩
  case counted =>
    intro tid
    rw [List.countP_append, faithful.counted, fired]
  case numbered =>
    intro tid unused
    rw [List.countP_append, faithful.numbered tid (Nat.lt_of_le_of_lt next unused), Nat.zero_add]
    rcases starts tid with none | ⟨event, here⟩
    · exact none
    · rcases started event tid here with zero | new <;> omega
  case distinct =>
    intro tid positive
    rw [List.countP_append]
    rcases starts tid with none | ⟨event, here⟩
    · rw [none]
      exact faithful.distinct tid positive
    · have new := (started event tid here).resolve_left positive
      rw [faithful.numbered tid new.1, here]
      simp [Note.isStarted]
  case rightful =>
    intro before event tid later split
    cases entry with
    | none =>
        rw [Option.toList_none, List.append_nil] at split
        exact faithful.rightful before event tid later split
    | some note =>
        rcases Machine.entry_of_append split with ⟨rfl, rfl, -⟩ | ⟨more, -, older⟩
        · exact standing event tid rfl
        · exact faithful.rightful before event tid more older

/-- Nothing happens to a timer of the guest. -/
theorem Faithful.quiet (faithful : Faithful s log) (host : after.host.Sound)
    (starting : after.starting = s.starting) (next : after.host.nextTimer = s.host.nextTimer)
    (dispatched : after.host.dispatched = s.host.dispatched)
    (guest : ∀ event, (after.guest.events.get event).timerId = 0 ∨
      (after.guest.events.get event).timerId = (s.guest.events.get event).timerId) :
    Faithful after (log ++ (none : Option Note).toList) := by
  refine faithful.append host (starting ▸ faithful.starting) (Nat.le_of_eq next.symm) ?_ ?_
    (by simp) (by simp)
  · intro event tid holds
    rcases guest event with unset | same
    · exact absurd holds (not_holds unset)
    · exact .inl ⟨⟨holds.1, same ▸ holds.2⟩, by simp⟩
  · intro tid
    rw [dispatched]
    rfl

/-- What the host does on its own starts no timer and dispatches nothing. -/
theorem frame_background {host next : Host.Timers.State} {action : Host.Timers.Action}
    (alone : background action = true) (stepped : host.step action = some next) :
    next.nextTimer = host.nextTimer ∧ next.dispatched = host.dispatched := by
  cases action with
  | start | stop | dispatch => cases alone
  | shutdown =>
      cases stepped
      exact host.shutdown_frame
  | expire | delete | enqueue | lose =>
      simp only [Host.Timers.State.step] at stepped
      split at stepped
      · cases stepped
        exact ⟨rfl, rfl⟩
      · cases stepped
  | receive =>
      simp only [Host.Timers.State.step] at stepped
      split at stepped
      · cases stepped
      · cases stepped
        exact ⟨rfl, rfl⟩

theorem State.stopTimer_frame (s : State) (event : Nat) :
    (s.stopTimer event).nextTimer = s.host.nextTimer ∧
      (s.stopTimer event).dispatched = s.host.dispatched := by
  rw [State.stopTimer]
  split
  · exact ⟨rfl, rfl⟩
  · exact s.host.timerStop_frame _

theorem State.stopTimer_sound (sound : s.host.Sound) (event : Nat) :
    (s.stopTimer event).Sound := by
  rw [State.stopTimer]
  split
  · exact sound
  · exact sound.stop _

theorem nextTimer_le {action : Action} (stepped : s.step action = some after) :
    s.host.nextTimer ≤ after.host.nextTimer := by
  cases action with
  | host action =>
      simp only [State.step] at stepped
      split at stepped
      next alone =>
        split at stepped
        · cases stepped
        next host received =>
          cases stepped
          exact Nat.le_of_eq (frame_background alone received).1.symm
      · cases stepped
  | guest step =>
      simp only [State.step] at stepped
      split at stepped
      · split at stepped <;> cases stepped
        exact Nat.le_refl _
      · cases stepped
  | op op =>
      simp only [State.step] at stepped
      split at stepped
      · split at stepped
        · split at stepped <;> cases stepped
          exact Nat.le_refl _
        next event _ _ =>
          split at stepped <;> cases stepped
          exact Nat.le_of_eq (s.stopTimer_frame event).1.symm
      · cases stepped
  | start =>
      simp only [State.step] at stepped
      split at stepped
      · cases stepped
      · split at stepped <;> cases stepped
        exact Nat.le_trans (Nat.le_succ _) (Nat.le_of_eq s.host.timerStart_spec.2.1.symm)
  | dispatch tid =>
      simp only [State.step, Host.Timers.State.step] at stepped
      split at stepped
      · split at stepped
        next received _ =>
          split at received <;> cases received
          cases stepped
          exact Nat.le_refl _
        · cases stepped
      · cases stepped

/-- Without a timeout the operation leaves its event without a timer. -/
theorem eq_zero_of_untimed {op : Op} {event : Nat} {tid : Int} (untimed : timed op = false)
    (set : timerOf op = some (event, tid)) : tid = 0 := by
  cases op with
  | add event timer | addTimer event timer =>
      cases timer with
      | none =>
          cases set
          rfl
      | some => cases untimed
  | del | free | delTimer =>
      cases set
      rfl
  | socket | close | newEvent | addBits | delBits | setFd => cases set

theorem timerOf_returning {op : Op} {event : Nat} {set : Int} (isTimed : timed op = true)
    (before : timerOf op = some (event, set)) (tid : Int) :
    timerOf (returning tid op) = some (event, tid) := by
  cases op with
  | add event timer | addTimer event timer =>
      cases timer with
      | none => cases isTimed
      | some =>
          cases before
          rfl
  | socket | close | newEvent | addBits | delBits | setFd | del | free | delTimer =>
      cases isTimed

/-- The id an event has after an operation it had before, or the operation has set it. -/
theorem holds_operate {op : Op} {guest : Backend} {event tid : Nat}
    (stepped : s.guest.step (.op op) = some guest) (holds : Holds guest event tid) :
    (Holds s.guest event tid ∧ ∀ set, timerOf op ≠ some (event, set)) ∨
      timerOf op = some (event, (guest.events.get event).timerId) := by
  rcases timerId_operate (operate_of_step stepped) event with unset | ⟨same, untouched⟩ | set
  · exact absurd holds (not_holds unset)
  · exact .inl ⟨⟨holds.1, same ▸ holds.2⟩, untouched⟩
  · exact .inr set

/-- `stop_timer`, on its own or before `uw_timer_start`. -/
theorem Faithful.stop {op : Op} {event : Nat} {set : Int} {guest : Backend}
    {starting : Option Op} (faithful : Faithful s log) (untimed : timed op = false)
    (timer : timerOf op = some (event, set)) (stepped : s.guest.step (.op op) = some guest)
    (isTimed : ∀ op, starting = some op → timed op = true) :
    Faithful ⟨s.stopTimer event, guest, starting⟩
      (log ++ (some (Note.stopped event)).toList) := by
  obtain ⟨next, dispatched⟩ := s.stopTimer_frame event
  refine faithful.append (State.stopTimer_sound faithful.host event) isTimed
    (Nat.le_of_eq next.symm)
    ?_ ?_ (by simp) (by simp)
  · intro other tid holds
    rcases holds_operate stepped holds with ⟨before, untouched⟩ | reset
    · refine .inl ⟨before, ?_⟩
      rintro note ⟨⟩
      simp only [Note.touches, decide_eq_false_iff_not]
      rintro rfl
      exact untouched set timer
    · exact absurd holds (not_holds (eq_zero_of_untimed untimed reset))
  · intro tid
    rw [dispatched]
    rfl

/-- `uw_timer_start`, and what `start_timer` does with its result. -/
theorem Faithful.start {op : Op} {event : Nat} {set : Int} {guest : Backend}
    (faithful : Faithful s log) (few : s.host.nextTimer + 1 < 2 ^ 64) (isTimed : timed op = true)
    (timer : timerOf op = some (event, set))
    (stepped : s.guest.step (.op (returning (toInt64 s.host.timerStart.1) op)) = some guest) :
    Faithful ⟨s.host.timerStart.2, guest, none⟩
      (log ++ (some (Note.started event s.host.timerStart.1)).toList) := by
  obtain ⟨given, next, dispatched⟩ := s.host.timerStart_spec
  rw [Nat.mod_eq_of_lt few] at given
  have started := timerOf_returning isTimed timer (toInt64 s.host.timerStart.1)
  refine faithful.append (faithful.host.start few) (by simp) (by rw [next]; exact Nat.le_succ _)
    ?_ ?_ ?_ (by simp)
  · intro other tid holds
    rcases holds_operate stepped holds with ⟨before, untouched⟩ | reset
    · refine .inl ⟨before, ?_⟩
      rintro note ⟨⟩
      simp only [Note.touches, decide_eq_false_iff_not]
      rintro rfl
      exact untouched _ started
    · rw [started] at reset
      simp only [Option.some.injEq, Prod.mk.injEq] at reset
      have same : s.host.timerStart.1 = tid := by
        rw [← toUInt64_toInt64 (by omega : s.host.timerStart.1 < 2 ^ 64), reset.2, holds.2,
          toUInt64_toInt64 holds.1.2]
      exact .inr (by rw [reset.1, same])
  · intro tid
    rw [dispatched]
    rfl
  · rintro other tid ⟨⟩
    rw [next]
    omega

/-- The delivery of a timer that was sent is the first one. -/
theorem Faithful.unfired {tid : Nat} (faithful : Faithful s log) (held : tid ∈ s.host.taken) :
    tid ≠ 0 ∧ tid ≤ s.host.nextTimer ∧ log.countP (Note.isFired tid) = 0 := by
  have present : 0 < s.host.taken.count tid := List.count_pos_iff.mpr held
  have single := faithful.host.single tid
  have unseen := faithful.host.unseen tid
  rw [Host.Timers.State.sightings] at single unseen
  have finished : s.host.stage tid = .finished := by
    by_contra unfinished
    have none := unseen unfinished
    omega
  obtain ⟨positive, used⟩ := faithful.host.absent tid (by rw [finished]; decide)
  rw [faithful.counted]
  exact ⟨by omega, used, by omega⟩

/-- A callback is invoked for the timer its event holds. -/
theorem Faithful.standing {event tid : Nat} (faithful : Faithful s log)
    (few : s.host.nextTimer < 2 ^ 64) (held : tid ∈ s.host.taken)
    (set : (s.guest.events.get event).timerId = toInt64 tid) : Standing log event tid := by
  obtain ⟨positive, used, unfired⟩ := faithful.unfired held
  obtain ⟨older, newer, rfl, untouched⟩ :=
    faithful.newest event tid ⟨⟨positive, Nat.lt_of_le_of_lt used few⟩, set⟩
  refine ⟨positive, older, newer, rfl, ?_⟩
  intro note member
  refine ⟨untouched note member, ?_⟩
  rw [List.countP_eq_zero] at unfired
  have other := unfired note (List.mem_append_right _ (List.mem_cons_of_mem _ member))
  simpa using other

/-- `uw_timer_fired`, whatever it finds. -/
theorem Faithful.dispatch {tid : Nat} {host : Host.Timers.State} {guest : Backend}
    (faithful : Faithful s log) (few : s.host.nextTimer < 2 ^ 64)
    (received : s.host.step (.dispatch tid) = some host)
    (stepped : s.guest.step (.timerFired (toInt64 tid)) = some guest) :
    Faithful { s with host := host, guest := guest }
      (log ++ (some (Note.fired tid (timedOut guest.running))).toList) := by
  have cleared := timerFired_of_step stepped
  have advanced := received
  simp only [Host.Timers.State.step] at received
  split at received
  next held =>
    cases received
    refine faithful.append (faithful.host.step advanced few) faithful.starting (Nat.le_refl _)
      ?_ ?_ (by simp) ?_
    · intro other fired holds
      rw [Holds, ← cleared] at holds
      rcases timerId_timerFired (toInt64 tid) other with unset | same
      · exact absurd holds (not_holds unset)
      · exact .inl ⟨⟨holds.1, same ▸ holds.2⟩, by rintro note ⟨⟩; rfl⟩
    · intro other
      dsimp only
      rw [List.count_append, List.count_singleton]
      simp [Note.isFired]
    · intro event fired noted
      simp only [Option.some.injEq, Note.fired.injEq] at noted
      obtain ⟨rfl, runs⟩ := noted
      exact faithful.standing few held (timerId_of_timedOut stepped runs)
  · cases received

theorem Faithful.step {action : Action} (faithful : Faithful s log)
    (few : after.host.nextTimer < 2 ^ 64) (stepped : s.step action = some after) :
    Faithful after (log ++ (s.noted action after).toList) := by
  have fewer := Nat.lt_of_le_of_lt (nextTimer_le stepped) few
  cases action with
  | host action =>
      simp only [State.step] at stepped
      split at stepped
      next alone =>
        split at stepped
        · cases stepped
        next host received =>
          cases stepped
          obtain ⟨next, dispatched⟩ := frame_background alone received
          exact faithful.quiet (faithful.host.step received few) rfl next dispatched fun _ =>
            .inr rfl
      · cases stepped
  | guest step =>
      simp only [State.step] at stepped
      split at stepped
      next plain =>
        split at stepped
        · cases stepped
        next guest moved =>
          cases stepped
          exact faithful.quiet faithful.host rfl rfl rfl fun _ =>
            .inr (timerId_timeless plain.1 moved)
      · cases stepped
  | op op =>
      simp only [State.step] at stepped
      split at stepped
      next free =>
        split at stepped
        next untimed =>
          split at stepped
          · cases stepped
          next guest moved =>
            cases stepped
            simp only [State.noted, untimed, Option.map_none]
            refine faithful.quiet faithful.host rfl rfl rfl fun event => ?_
            rcases timerId_operate (operate_of_step moved) event with unset | same | set
            · exact .inl unset
            · exact .inr same.1
            · rw [untimed] at set
              cases set
        next event set timer =>
          split at stepped
          · cases stepped
          next guest moved =>
            cases stepped
            simp only [State.noted, timer, Option.map_some]
            cases isTimed : timed op with
            | true =>
                rw [isTimed, if_pos rfl] at moved
                apply faithful.stop rfl rfl moved
                rintro _ ⟨⟩
                exact isTimed
            | false =>
                rw [isTimed, if_neg Bool.false_ne_true] at moved
                apply faithful.stop isTimed timer moved
                rintro _ ⟨⟩
      · cases stepped
  | start =>
      simp only [State.step] at stepped
      split at stepped
      · cases stepped
      next op pending =>
        split at stepped
        · cases stepped
        next guest moved =>
          cases stepped
          have isTimed := faithful.starting op pending
          cases timer : timerOf op with
          | none => cases op <;> simp [timerOf, timed] at timer isTimed
          | some set =>
              obtain ⟨event, before⟩ := set
              simp only [State.noted, pending, Option.bind_some, timer, Option.map_some]
              rw [s.host.timerStart_spec.2.1] at few
              exact faithful.start few isTimed timer moved
  | dispatch tid =>
      simp only [State.step] at stepped
      split at stepped
      · split at stepped
        next host guest received moved =>
          cases stepped
          exact faithful.dispatch fewer received moved
        · cases stepped
      · cases stepped

/-! ## Fidelity -/

/-- The timer with this id was started and has been stopped, replaced or delivered. -/
def Stale (log : List Note) (tid : Nat) : Prop :=
  ∃ older event newer, log = older ++ .started event tid :: newer ∧
    ∃ note ∈ newer, note.touches event = true ∨ note.isFired tid = true

/-- What a log of timers must show. -/
structure Fidelity (log : List Note) : Prop where
  rightful : ∀ before event tid later, log = before ++ .fired tid (some event) :: later →
    Standing before event tid
  distinct : ∀ tid, tid ≠ 0 → log.countP (Note.isStarted tid) ≤ 1
  once : ∀ tid, log.countP (Note.invokes tid) ≤ 1
  stale : ∀ before tid found later, log = before ++ .fired tid found :: later →
    Stale before tid → found = none

/-- A list has one place for an element that occurs once. -/
theorem split_unique {α : Type} {p : α → Bool} {before other later rest : List α} {x y : α}
    (same : before ++ x :: later = other ++ y :: rest) (left : p x = true) (right : p y = true)
    (once : (before ++ x :: later).countP p ≤ 1) : x = y ∧ later = rest := by
  induction before generalizing other with
  | nil =>
      cases other with
      | nil =>
          cases same
          exact ⟨rfl, rfl⟩
      | cons first other =>
          have tail : later = other ++ y :: rest := (List.cons.inj same).2
          rw [List.nil_append, List.countP_cons_of_pos left, tail, List.countP_append,
            List.countP_cons_of_pos right] at once
          omega
  | cons first before ih =>
      cases other with
      | nil =>
          cases same
          rw [List.cons_append, List.countP_cons_of_pos right, List.countP_append,
            List.countP_cons_of_pos left] at once
          omega
      | cons second other =>
          injection same with _ same
          refine ih same (Nat.le_trans ?_ once)
          exact (List.sublist_cons_self _ _).countP_le

theorem faithful_of_reachable (reachable : history.Reachable (s, log)) :
    s.host.nextTimer < 2 ^ 64 → Faithful s log := by
  have kept : ∀ (before : State) (old : List Note) (action : Action) (after : State),
      (before.host.nextTimer < 2 ^ 64 → Faithful before old) →
      Machine.always (before, old) action → system.step before action = some after →
      after.host.nextTimer < 2 ^ 64 → Faithful after (old ++ (before.note action).toList) := by
    intro before old action after faithful _ stepped few
    rw [State.note, Machine.seen_of_step State.noted stepped]
    exact (faithful (Nat.lt_of_le_of_lt (nextTimer_le stepped) few)).step few stepped
  have carried := Machine.Reaches.invariant_logged kept reachable fun _ => Faithful.initial
  exact carried

/-- Over every run of host and guest with fewer than `2 ^ 64` starts, `uw_timer_fired`
invokes the callback of an event only for the timer that event last started and has
neither stopped, replaced nor seen fire; no two starts get one id, no start leads to two
callbacks, and the event of a stale timer invokes nothing. -/
theorem timer_fidelity (reachable : history.Reachable (s, log))
    (few : s.host.nextTimer < 2 ^ 64) : Fidelity log := by
  have faithful := faithful_of_reachable reachable few
  constructor
  case rightful => exact faithful.rightful
  case distinct => exact faithful.distinct
  case once =>
    intro tid
    have single := faithful.host.single tid
    rw [Host.Timers.State.sightings] at single
    have fired : log.countP (Note.invokes tid) ≤ log.countP (Note.isFired tid) := by
      apply List.countP_mono_left
      intro note _ invokes
      cases note with
      | stopped | started => cases invokes
      | fired other event =>
          simp only [Note.invokes, Bool.and_eq_true] at invokes
          exact invokes.1
    rw [faithful.counted] at fired
    omega
  case stale =>
    rintro before tid found later whole ⟨older, event, newer, rfl, note, member, ended⟩
    cases found with
    | none => rfl
    | some other =>
        obtain ⟨positive, _, rest, same, untouched⟩ := faithful.rightful _ other tid later whole
        have once := faithful.distinct tid positive
        rw [whole, List.countP_append] at once
        have unique := split_unique (p := Note.isStarted tid) same (by simp [Note.isStarted])
          (by simp [Note.isStarted]) (by omega)
        obtain ⟨sameNote, rfl⟩ := unique
        cases sameNote
        have clean := untouched note member
        rw [clean.1, clean.2] at ended
        rcases ended with impossible | impossible <;> cases impossible

/-- The event of a timer that was replaced while its goroutine ran, and of the timer in
its place. -/
def replacedWhileFiring : List Action :=
  [.op (.newEvent (-1) evTimeout), .op (.add 0 (some 0)), .start, .host (.expire 1),
    .op (.add 0 (some 0)), .start, .host (.delete 1), .host (.enqueue 1 true), .host .receive,
    .dispatch 1, .host (.expire 2), .host (.delete 2), .host (.enqueue 2 true), .host .receive,
    .dispatch 2]

theorem timer_fidelity_replacedWhileFiring :
    ∃ s log, history.Reachable (s, log) ∧
      log = [.stopped 0, .started 0 1, .stopped 0, .started 0 2, .fired 1 none,
        .fired 2 (some 0)] ∧ Fidelity log := by
  obtain ⟨⟨s, log⟩, ran⟩ : ∃ final, history.run (State.initial, []) replacedWhileFiring =
      some final := ⟨_, rfl⟩
  have reachable := Machine.reaches_of_run ran
  have few : s.host.nextTimer < 2 ^ 64 := by
    cases ran
    decide
  refine ⟨s, log, reachable, ?_, timer_fidelity reachable few⟩
  cases ran
  rfl

/-- An event with a timer, idle between two exports, and an event of timer 1 in the
channel. -/
structure Resting (s : State) (count : Nat) (timers : List Nat) (tid : Nat) : Prop where
  free : s.starting = none
  idle : s.guest.running = .idle
  alive : s.guest.alive 0 = true
  active : (s.guest.events.get 0).active = true
  list : s.guest.list = [0]
  held : (s.guest.events.get 0).timerId = toInt64 tid
  next : s.host.nextTimer = count
  timers : s.host.timers = some timers
  queue : s.host.events = [1]
  taken : s.host.taken = []

/-- `stop_timer` takes the timer out of the host's table. -/
theorem Resting.stopped {count tid : Nat} {timers : List Nat} (resting : Resting s count timers tid)
    (small : tid < 2 ^ 64) :
    ∃ stage, s.stopTimer 0 =
      { s.host with
        timers := some (if tid = 0 then timers else timers.erase tid), stage := stage } := by
  rw [State.stopTimer, resting.held]
  split
  next zero =>
    rw [if_pos (toInt64_eq_zero small zero), ← resting.timers]
    exact ⟨_, rfl⟩
  next set =>
    have positive : tid ≠ 0 := by
      rintro rfl
      exact set rfl
    rw [toUInt64_toInt64 small, if_neg positive, Host.Timers.State.timerStop, resting.timers]
    dsimp only
    split
    · exact ⟨_, rfl⟩
    next absent =>
      rw [List.erase_of_not_mem absent, ← resting.timers]
      exact ⟨_, rfl⟩

/-- The timer is replaced. -/
theorem Resting.replaced {count tid : Nat} {timers : List Nat}
    (resting : Resting s count timers tid) (small : tid < 2 ^ 64)
    (room : timers.length < Host.Timers.maxTimersPerInstance) (log : List Note) :
    ∃ after more, history.Reaches Machine.always (s, log) (after, log ++ more) ∧
      Resting after (count + 1)
        ((if tid = 0 then timers else timers.erase tid).insert ((count + 1) % 2 ^ 64))
        ((count + 1) % 2 ^ 64) := by
  obtain ⟨stage, host⟩ := resting.stopped small
  generalize kept : (if tid = 0 then timers else timers.erase tid) = left at host ⊢
  have fewer : left.length < Host.Timers.maxTimersPerInstance := by
    rw [← kept]
    split
    · exact room
    · exact Nat.lt_of_le_of_lt List.length_erase_le room
  have stops : system.step s (.op (.add 0 (some 0))) =
      some ⟨{ s.host with timers := some left, stage := stage },
        { s.guest with events := s.guest.events.modify 0 Event.stopTimer },
        some (.add 0 (some 0))⟩ := by
    simp [system, State.step, resting.free, timerOf, timed, Backend.step, resting.idle,
      Backend.operate, Op.change, resting.alive, host]
  have alive : (s.guest.events.get 0).freed = false ∧ (s.guest.events.get 0).released = false ∧
      0 < s.guest.events.size := by
    have alive := resting.alive
    simp only [Backend.alive, Bool.and_eq_true, decide_eq_true_eq, Bool.not_eq_true'] at alive
    exact ⟨alive.1.2, alive.2, alive.1.1⟩
  obtain ⟨after, starts, next⟩ : ∃ after, system.step
      ⟨{ s.host with timers := some left, stage := stage },
        { s.guest with events := s.guest.events.modify 0 Event.stopTimer },
        some (.add 0 (some 0))⟩ .start = some after ∧
      Resting after (count + 1) (left.insert ((count + 1) % 2 ^ 64)) ((count + 1) % 2 ^ 64) := by
    simp only [system, State.step, Host.Timers.State.timerStart, if_neg (Nat.not_le.mpr fewer),
      returning, Backend.step, resting.idle, Backend.operate, Op.change, Backend.alive,
      Heap.size_modify, Heap.get_modify_self, Event.stopTimer, alive, resting.next]
    refine ⟨_, rfl, ?_⟩
    constructor <;>
      simp [Host.Timers.State.toStage, Backend.alive, Event.add, Event.startTimer,
        Event.stopTimer, alive, resting.list, resting.queue, resting.taken]
  have first : history.Reaches Machine.always (s, log) _ :=
    (Machine.Reaches.refl _).step trivial (Machine.logged_step State.note stops log)
  have reaches := first.step trivial (Machine.logged_step State.note starts _)
  rw [List.append_assoc] at reaches
  exact ⟨after, _, reaches, next⟩

/-- A timer that fired is replaced before its event is delivered. -/
def replacedAfterFiring : List Action :=
  [.op (.newEvent (-1) evTimeout), .op (.add 0 (some 0)), .start, .host (.expire 1),
    .host (.delete 1), .host (.enqueue 1 true), .op (.add 0 (some 0)), .start]

/-- After `2 ^ 64` more starts the event's timer has the id of the stale one, and the stale
one's event invokes the callback. -/
theorem wrapped_timer_unfaithful : ∃ s log, history.Reachable (s, log) ∧ ¬ Fidelity log := by
  obtain ⟨s, ran, start⟩ : ∃ s, history.run (State.initial, []) replacedAfterFiring =
      some (s, [.stopped 0, .started 0 1, .stopped 0, .started 0 2]) ∧ Resting s 2 [2] 2 :=
    ⟨_, rfl, ⟨rfl, rfl, rfl, rfl, rfl, by decide, rfl, rfl, rfl, rfl⟩⟩
  generalize first : [Note.stopped 0, .started 0 1, .stopped 0, .started 0 2] = log at ran
  have goesOn (more : Nat) (few : more + 2 < 2 ^ 64) : ∃ after entries,
      history.Reaches Machine.always (s, log) (after, log ++ entries) ∧
        Resting after (more + 2) [more + 2] (more + 2) := by
    induction more with
    | zero => exact ⟨s, [], by rw [List.append_nil]; exact Machine.Reaches.refl _, start⟩
    | succ more ih =>
        obtain ⟨before, entries, reaches, resting⟩ := ih (by omega)
        obtain ⟨after, new, replaced, next⟩ :=
          resting.replaced (by omega) (Nat.lt_of_lt_of_le Nat.one_lt_two (by decide))
            (log ++ entries)
        rw [if_neg (Nat.succ_ne_zero _), List.erase_cons_head, Nat.mod_eq_of_lt few] at next
        rw [List.append_assoc] at replaced
        exact ⟨after, entries ++ new, reaches.trans replaced, next⟩
  obtain ⟨last, entries, reaches, resting⟩ := goesOn (2 ^ 64 - 3) (by decide)
  obtain ⟨zero, new, wrapped, resting⟩ := resting.replaced (by decide) (by decide) (log ++ entries)
  obtain ⟨one, newer, reused, resting⟩ :=
    resting.replaced (by decide) (by decide) (log ++ entries ++ new)
  have held : (one.guest.events.get 0).timerId = toInt64 1 := resting.held
  have receives : system.step one (.host .receive) =
      some { one with host := { one.host with events := [], taken := [1] } } := by
    simp [system, State.step, background, Host.Timers.State.step, resting.queue, resting.taken]
  obtain ⟨fired, fires, runs⟩ : ∃ fired, system.step
      { one with host := { one.host with events := [], taken := [1] } } (.dispatch 1) =
        some fired ∧ fired.guest.running = .callback none 0 := by
    simp [system, State.step, resting.free, Host.Timers.State.step, Backend.step, resting.idle,
      Backend.timerFired, Backend.timerTarget, resting.list, resting.active, held]
  have all := (((Machine.reaches_of_run ran).trans reaches).trans wrapped).trans reused
  have received := all.step trivial
    (Machine.logged_quiet State.note receives (Machine.seen_of_step State.noted receives) _)
  have final := received.step trivial (Machine.logged_step State.note fires _)
  rw [State.note, Machine.seen_of_step State.noted fires, State.noted, runs] at final
  refine ⟨fired, _, final, ?_⟩
  intro fidelity
  have stale : Stale (log ++ entries ++ new ++ newer) 1 := by
    refine ⟨[.stopped 0], 0, [.stopped 0, .started 0 2] ++ entries ++ new ++ newer, ?_,
      .stopped 0, by simp, .inl rfl⟩
    simp [← first]
  cases fidelity.stale _ 1 (some 0) [] rfl stale

end UnboundWasm.System.Timers
