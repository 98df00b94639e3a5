import Mathlib.Data.List.Count
import Mathlib.Logic.Function.Basic
import UnboundWasm.Lib.Machine
import UnboundWasm.Host.Errno

/-!
# Host timers

`timerStart` and `timerStop` of `host.go`, the function a timer runs when it expires,
and the way of its event through the channel to the guest.  Every section under
`timersMu` is one step, and stopping a timer does nothing once its goroutine runs.

How long a timer takes is left out: it may expire at any time.  An event may be
dropped by `enqueue`, or lost in `dispatch` on a closed module.
-/

namespace UnboundWasm.Host.Timers

open UnboundWasm.Lib

/-- A `time.Timer` with its function: the goroutine runs from `expired` on, has left
the section under `timersMu` at `deleted`, and `enqueue` at `finished`. -/
inductive Stage where
  | absent | armed | stopped | expired | deleted | finished
  deriving DecidableEq, Repr

/-- `Timer.Stop`. -/
def Stage.stop : Stage → Stage
  | .armed => .stopped
  | stage => stage

/-- `nextTimer` counts the starts; the ids are what is left of it in 64 bits. `timers`
holds the keys of the map and is nil after the shutdown, and `stage` says where the
latest timer of an id is. `events` are the timer events in the channel,
`taken` those received but not dispatched, and `dispatched` records those that reached
the guest. -/
structure State where
  nextTimer : Nat
  timers : Option (List Nat)
  stage : Nat → Stage
  events : List Nat
  taken : List Nat
  dispatched : List Nat

inductive Action where
  | start
  | stop (tid : Nat)
  | expire (tid : Nat)
  | delete (tid : Nat)
  | enqueue (tid : Nat) (sent : Bool)
  | shutdown
  | receive
  | lose (tid : Nat)
  | dispatch (tid : Nat)
  deriving DecidableEq, Repr

def maxTimersPerInstance : Nat := 8192

/-- `uint64(tid)`, which undoes the `int64(tid)` that the guest is given. -/
def toUInt64 (tid : Int) : Nat := (BitVec.ofInt 64 tid).toNat

theorem toUInt64_toInt64 {tid : Nat} (small : tid < 2 ^ 64) : toUInt64 (toInt64 tid) = tid := by
  rw [toUInt64, toInt64, BitVec.ofInt_toInt, BitVec.ofInt_natCast, BitVec.toNat_ofNat,
    Nat.mod_eq_of_lt small]

theorem toInt64_eq_zero {tid : Nat} (small : tid < 2 ^ 64) (zero : toInt64 tid = 0) : tid = 0 := by
  rw [← toUInt64_toInt64 small, zero]
  rfl

namespace State

def initial : State := ⟨0, some [], fun _ => .absent, [], [], []⟩

def toStage (s : State) (tid : Nat) (stage : Stage) : State :=
  { s with stage := Function.update s.stage tid stage }

/-- `timerStart`: the id, 0 on failure. An id is used up either way. -/
def timerStart (s : State) : Nat × State :=
  let tid := (s.nextTimer + 1) % 2 ^ 64
  let s := { s with nextTimer := s.nextTimer + 1 }
  match s.timers with
  | none => (0, s)
  | some timers =>
      if timers.length ≥ maxTimersPerInstance then (0, s)
      else (tid, { s with timers := some (timers.insert tid) }.toStage tid .armed)

/-- `timerStop`. -/
def timerStop (s : State) (tid : Nat) : State :=
  match s.timers with
  | none => s
  | some timers =>
      if tid ∈ timers then
        { s with timers := some (timers.erase tid) }.toStage tid (s.stage tid).stop
      else s

/-- The part of `shutdown` under `timersMu`. -/
def shutdown (s : State) : State :=
  match s.timers with
  | none => s
  | some timers =>
      { s with
        timers := none
        stage := fun tid => if tid ∈ timers then (s.stage tid).stop else s.stage tid }

def step (s : State) : Action → Option State
  | .start => some s.timerStart.2
  | .stop tid => some (s.timerStop tid)
  | .expire tid => if s.stage tid = .armed then some (s.toStage tid .expired) else none
  | .delete tid =>
      if s.stage tid = .expired then
        some (State.toStage { s with timers := s.timers.map (List.erase · tid) } tid .deleted)
      else none
  | .enqueue tid sent =>
      if s.stage tid = .deleted then
        some ({ s with events := if sent then s.events ++ [tid] else s.events }.toStage tid
          .finished)
      else none
  | .shutdown => some s.shutdown
  | .receive =>
      match s.events with
      | [] => none
      | tid :: rest => some { s with events := rest, taken := s.taken ++ [tid] }
  | .lose tid => if tid ∈ s.taken then some { s with taken := s.taken.erase tid } else none
  | .dispatch tid =>
      if tid ∈ s.taken then
        some { s with taken := s.taken.erase tid, dispatched := s.dispatched ++ [tid] }
      else none

/-- The id is 0 or a new one, and nothing is dispatched. -/
theorem timerStart_spec (s : State) :
    (s.timerStart.1 = 0 ∨ s.timerStart.1 = (s.nextTimer + 1) % 2 ^ 64) ∧
      s.timerStart.2.nextTimer = s.nextTimer + 1 ∧ s.timerStart.2.dispatched = s.dispatched := by
  rw [timerStart]
  dsimp only
  split
  · exact ⟨.inl rfl, rfl, rfl⟩
  · split
    · exact ⟨.inl rfl, rfl, rfl⟩
    · exact ⟨.inr rfl, rfl, rfl⟩

theorem timerStop_frame (s : State) (tid : Nat) :
    (s.timerStop tid).nextTimer = s.nextTimer ∧ (s.timerStop tid).dispatched = s.dispatched := by
  rw [timerStop]
  split
  · exact ⟨rfl, rfl⟩
  · split <;> exact ⟨rfl, rfl⟩

theorem shutdown_frame (s : State) :
    s.shutdown.nextTimer = s.nextTimer ∧ s.shutdown.dispatched = s.dispatched := by
  rw [shutdown]
  split <;> exact ⟨rfl, rfl⟩

end State

/-! ## Every timer is delivered at most once -/

namespace State

variable {s after : State} {tid : Nat}

/-- How often the event of a timer is on its way or has arrived. -/
def sightings (s : State) (tid : Nat) : Nat :=
  s.events.count tid + s.taken.count tid + s.dispatched.count tid

/-- Ids are new, and the goroutine of a timer accounts for its one event. -/
structure Sound (s : State) : Prop where
  absent : ∀ tid, s.stage tid ≠ .absent → 0 < tid ∧ tid ≤ s.nextTimer
  unseen : ∀ tid, s.stage tid ≠ .finished → s.sightings tid = 0
  single : ∀ tid, s.sightings tid ≤ 1

theorem Sound.initial : initial.Sound :=
  ⟨fun _ present => absurd rfl present, fun _ _ => rfl, fun _ => Nat.zero_le 1⟩

/-- Timers move on, short of the end of their goroutine, with no event touched. -/
theorem Sound.restage (sound : s.Sound) (next : s.nextTimer ≤ after.nextTimer)
    (same : ∀ tid, after.sightings tid = s.sightings tid)
    (stage : ∀ tid, after.stage tid = s.stage tid ∨
      (s.stage tid ≠ .finished ∧ after.stage tid ≠ .finished ∧
        (s.stage tid ≠ .absent ∨ (0 < tid ∧ tid ≤ after.nextTimer)))) : after.Sound := by
  constructor
  case absent =>
    intro tid present
    rcases stage tid with unchanged | ⟨_, _, started | new⟩
    · rw [unchanged] at present
      exact (sound.absent tid present).imp_right fun old => Nat.le_trans old next
    · exact (sound.absent tid started).imp_right fun old => Nat.le_trans old next
    · exact new
  case unseen =>
    intro tid unfinished
    rw [same]
    rcases stage tid with unchanged | ⟨before, _, _⟩
    · exact sound.unseen tid (unchanged ▸ unfinished)
    · exact sound.unseen tid before
  case single =>
    intro tid
    rw [same]
    exact sound.single tid

/-- One timer moves on. -/
theorem Sound.toStage {stage : Stage} {nextTimer : Nat} {timers : Option (List Nat)}
    (sound : s.Sound) (next : s.nextTimer ≤ nextTimer) (before : s.stage tid ≠ .finished)
    (unfinished : stage ≠ .finished)
    (started : s.stage tid ≠ .absent ∨ (0 < tid ∧ tid ≤ nextTimer)) :
    (State.toStage { s with nextTimer := nextTimer, timers := timers } tid stage).Sound := by
  refine sound.restage next (fun _ => rfl) ?_
  intro other
  simp only [State.toStage, Function.update_apply]
  split
  next same =>
    subst same
    exact .inr ⟨before, unfinished, started⟩
  · exact .inl rfl

/-- Stopping changes nothing but an armed timer. -/
theorem stop_cases (stage : Stage) :
    stage.stop = stage ∨ (stage ≠ .finished ∧ stage.stop ≠ .finished ∧ stage ≠ .absent) := by
  cases stage <;> decide

theorem Sound.start (sound : s.Sound) (few : s.nextTimer + 1 < 2 ^ 64) :
    s.timerStart.2.Sound := by
  have fresh : s.stage (s.nextTimer + 1) = .absent := by
    by_contra present
    have old := (sound.absent _ present).2
    omega
  have grown : State.Sound { s with nextTimer := s.nextTimer + 1 } :=
    sound.restage (Nat.le_succ _) (fun _ => rfl) fun _ => .inl rfl
  rw [timerStart, Nat.mod_eq_of_lt few]
  dsimp only
  split
  · exact grown
  · split
    · exact grown
    · refine sound.toStage (Nat.le_succ _) ?_ (by decide) (.inr ⟨Nat.succ_pos _, Nat.le_refl _⟩)
      rw [fresh]
      decide

theorem Sound.stop (sound : s.Sound) (tid : Nat) : (s.timerStop tid).Sound := by
  rw [timerStop]
  split
  · exact sound
  · split
    · refine sound.restage (Nat.le_refl _) (fun _ => rfl) ?_
      intro other
      simp only [State.toStage, Function.update_apply]
      split
      next same =>
        subst same
        exact (stop_cases _).imp_right fun stopped => ⟨stopped.1, stopped.2.1, .inl stopped.2.2⟩
      · exact .inl rfl
    · exact sound

theorem Sound.shutdown (sound : s.Sound) : s.shutdown.Sound := by
  rw [State.shutdown]
  split
  · exact sound
  · refine sound.restage (Nat.le_refl _) (fun _ => rfl) ?_
    intro other
    dsimp only
    split
    · exact (stop_cases _).imp_right fun stopped => ⟨stopped.1, stopped.2.1, .inl stopped.2.2⟩
    · exact .inl rfl

/-- The goroutine ends; its event is sent or dropped. -/
theorem Sound.finish {events : List Nat} (sound : s.Sound) (here : s.stage tid = .deleted)
    (elsewhere : ∀ other, other ≠ tid → events.count other = s.events.count other)
    (once : events.count tid ≤ s.events.count tid + 1) :
    (State.toStage { s with events := events } tid .finished).Sound := by
  have unseen := sound.unseen tid (by rw [here]; decide)
  have others : ∀ other, other ≠ tid →
      (State.toStage { s with events := events } tid .finished).sightings other =
        s.sightings other := by
    intro other different
    simp only [sightings, State.toStage, elsewhere other different]
  constructor
  case absent =>
    intro other present
    simp only [State.toStage, Function.update_apply] at present
    split at present
    next same =>
      subst same
      exact sound.absent _ (by rw [here]; decide)
    · exact sound.absent other present
  case unseen =>
    intro other unfinished
    simp only [State.toStage, Function.update_apply] at unfinished
    split at unfinished
    · exact absurd rfl unfinished
    next different =>
      rw [others other different]
      exact sound.unseen other unfinished
  case single =>
    intro other
    by_cases same : other = tid
    · subst same
      simp only [sightings, State.toStage] at unseen ⊢
      omega
    · rw [others other same]
      exact sound.single other

/-- Events move on towards the guest, or are lost. -/
theorem Sound.advance (sound : s.Sound) (next : after.nextTimer = s.nextTimer)
    (stage : after.stage = s.stage) (fewer : ∀ tid, after.sightings tid ≤ s.sightings tid) :
    after.Sound := by
  constructor
  case absent =>
    rw [stage, next]
    exact sound.absent
  case unseen =>
    intro tid unfinished
    have none := sound.unseen tid (stage ▸ unfinished)
    have bound := fewer tid
    omega
  case single => exact fun tid => Nat.le_trans (fewer tid) (sound.single tid)

theorem Sound.step {action : Action} (sound : s.Sound) (stepped : s.step action = some after)
    (few : after.nextTimer < 2 ^ 64) : after.Sound := by
  cases action with
  | start =>
      cases stepped
      rw [s.timerStart_spec.2.1] at few
      exact sound.start few
  | stop tid =>
      cases stepped
      exact sound.stop tid
  | expire tid =>
      simp only [State.step] at stepped
      split at stepped
      next here =>
        cases stepped
        exact sound.toStage (Nat.le_refl _) (by rw [here]; decide) (by decide)
          (.inl (by rw [here]; decide))
      · cases stepped
  | delete tid =>
      simp only [State.step] at stepped
      split at stepped
      next here =>
        cases stepped
        exact sound.toStage (Nat.le_refl _) (by rw [here]; decide) (by decide)
          (.inl (by rw [here]; decide))
      · cases stepped
  | enqueue tid sent =>
      simp only [State.step] at stepped
      split at stepped
      next here =>
        cases stepped
        cases sent with
        | false => exact sound.finish here (fun _ _ => rfl) (Nat.le_succ _)
        | true =>
            apply sound.finish here
            · intro other different
              simp [List.count_append, different.symm]
            · simp [List.count_append]
      · cases stepped
  | shutdown =>
      cases stepped
      exact sound.shutdown
  | receive =>
      simp only [State.step] at stepped
      split at stepped
      · cases stepped
      next tid rest here =>
        cases stepped
        refine sound.advance rfl rfl fun other => ?_
        simp only [sightings, here, List.count_append, List.count_cons, List.count_nil]
        omega
  | lose tid =>
      simp only [State.step] at stepped
      split at stepped
      · cases stepped
        refine sound.advance rfl rfl fun other => ?_
        have fewer : (s.taken.erase tid).count other ≤ s.taken.count other :=
          List.erase_sublist.count_le other
        simp only [sightings]
        omega
      · cases stepped
  | dispatch tid =>
      simp only [State.step] at stepped
      split at stepped
      next held =>
        cases stepped
        refine sound.advance rfl rfl fun other => ?_
        have present : 0 < s.taken.count tid := List.count_pos_iff.mpr held
        by_cases same : tid = other
        · subst same
          simp only [sightings, List.count_append, List.count_singleton_self, List.count_erase_self]
          omega
        · simp [sightings, List.count_append, List.count_erase_of_ne (Ne.symm same), same]
      · cases stepped

end State

end UnboundWasm.Host.Timers
