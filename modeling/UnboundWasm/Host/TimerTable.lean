import Mathlib.Algebra.Ring.Nat
import Mathlib.Data.List.Nodup
import UnboundWasm.Host.Timers

/-!
# The table of host timers

The sections under `timersMu` taken apart: `timerStart` draws its id before it takes the
lock, creates the timer and records it in two steps, and a timer may expire as soon as it
was created, whoever holds the lock.  Several calls of `timerStart` and `timerStop` may be
under way at once.  A log tells what happened to each id.  `Timers` is what is left of
these runs when nothing interrupts a call.
-/

namespace UnboundWasm.Host.TimerTable

open UnboundWasm.Lib UnboundWasm.Host.Timers

/-- Who holds `timersMu`, and how far it is: `timerStart` before its checks and before it
records the timer it created, `timerStop`, the function of a timer, and `shutdown` with
the timers it has still to stop. -/
inductive Holder where
  | start (tid : Nat)
  | record (tid : Nat)
  | stop (tid : Nat)
  | callback (tid : Nat)
  | shutdown (left : List Nat)
  deriving DecidableEq, Repr

/-- `nextTimer` counts the starts. `starting` are the ids of the calls of `timerStart` that
have not got the lock. `timers` holds the keys of the map and is nil after the shutdown.
`closing` says that `shutdown` has been entered. -/
structure State where
  nextTimer : Nat
  starting : List Nat
  timers : Option (List Nat)
  stage : Nat → Stage
  holder : Option Holder
  closing : Bool

inductive Action where
  | draw
  | lockStart (tid : Nat)
  | check
  | record
  | lockStop (tid : Nat)
  | stop
  | expire (tid : Nat)
  | lockCallback (tid : Nat)
  | delete
  | enqueue (tid : Nat)
  | lockShutdown
  | halt (tid : Nat)
  | clear
  deriving DecidableEq, Repr

/-- What happened to an id. `refused` is a start that returned 0, `deleted` and `enqueued`
are the two halves of a timer's function. -/
inductive Note where
  | drew (tid : Nat)
  | started (tid : Nat)
  | refused (tid : Nat)
  | stopped (tid : Nat)
  | deleted (tid : Nat)
  | enqueued (tid : Nat)
  | shutDown
  deriving DecidableEq, Repr

namespace State

def initial : State := ⟨0, [], some [], fun _ => .absent, none, false⟩

def toStage (s : State) (tid : Nat) (stage : Stage) : State :=
  { s with stage := Function.update s.stage tid stage }

/-- The keys of the map; a nil map has none. -/
def table (s : State) : List Nat := s.timers.getD []

/-- The checks of `timerStart`. -/
def full (s : State) : Bool :=
  match s.timers with
  | none => true
  | some timers => timers.length ≥ maxTimersPerInstance

def step (s : State) : Action → Option State
  | .draw =>
      some { s with
        nextTimer := s.nextTimer + 1
        starting := (s.nextTimer + 1) % 2 ^ 64 :: s.starting }
  | .lockStart tid =>
      if s.holder = none ∧ tid ∈ s.starting then
        some { s with starting := s.starting.erase tid, holder := some (.start tid) }
      else none
  | .check =>
      match s.holder with
      | some (.start tid) =>
          if s.full then some { s with holder := none }
          -- `time.AfterFunc`
          else some ({ s with holder := some (.record tid) }.toStage tid .armed)
      | _ => none
  | .record =>
      match s.holder with
      | some (.record tid) =>
          some { s with timers := s.timers.map (List.insert tid), holder := none }
      | _ => none
  | .lockStop tid => if s.holder = none then some { s with holder := some (.stop tid) } else none
  | .stop =>
      match s.holder with
      | some (.stop tid) =>
          if tid ∈ s.table then
            some ({ s with timers := s.timers.map (List.erase · tid), holder := none }.toStage tid
              (s.stage tid).stop)
          else some { s with holder := none }
      | _ => none
  | .expire tid => if s.stage tid = .armed then some (s.toStage tid .expired) else none
  | .lockCallback tid =>
      if s.holder = none ∧ s.stage tid = .expired then
        some { s with holder := some (.callback tid) }
      else none
  | .delete =>
      match s.holder with
      | some (.callback tid) =>
          some (State.toStage
            { s with timers := s.timers.map (List.erase · tid), holder := none } tid .deleted)
      | _ => none
  | .enqueue tid => if s.stage tid = .deleted then some (s.toStage tid .finished) else none
  | .lockShutdown =>
      if s.holder = none ∧ s.closing = false then
        some { s with closing := true, holder := some (.shutdown s.table) }
      else none
  | .halt tid =>
      match s.holder with
      | some (.shutdown left) =>
          if tid ∈ left then
            some ({ s with holder := some (.shutdown (left.erase tid)) }.toStage tid
              (s.stage tid).stop)
          else none
      | _ => none
  | .clear =>
      if s.holder = some (.shutdown []) then some { s with timers := none, holder := none }
      else none

def note (s : State) : Action → Option Note
  | .draw => some (.drew ((s.nextTimer + 1) % 2 ^ 64))
  | .check =>
      match s.holder with
      | some (.start tid) => if s.full then some (.refused tid) else none
      | _ => none
  | .record =>
      match s.holder with
      | some (.record tid) => some (.started tid)
      | _ => none
  | .stop =>
      match s.holder with
      | some (.stop tid) => some (.stopped tid)
      | _ => none
  | .delete =>
      match s.holder with
      | some (.callback tid) => some (.deleted tid)
      | _ => none
  | .enqueue tid => some (.enqueued tid)
  | .clear => some .shutDown
  | _ => none

end State

def sections : Machine State Action := ⟨State.initial, State.step⟩

/-- The table with the log of its run. -/
def timerTable : Machine (State × List Note) Action := sections.logged State.note

/-- The timer was started and not stopped since, its function has not run its deletion,
and the instance is not shut down. -/
def Live (log : List Note) (tid : Nat) : Prop :=
  (∃ before later, log = before ++ .started tid :: later ∧ .stopped tid ∉ later) ∧
    .deleted tid ∉ log ∧ .shutDown ∉ log

/-! ## Live timers -/

section Live

variable {log : List Note} {note : Note} {tid : Nat}

theorem live_started : Live (log ++ [.started tid]) tid ↔ .deleted tid ∉ log ∧ .shutDown ∉ log := by
  have newest : ∃ before later, log ++ [Note.started tid] = before ++ .started tid :: later ∧
      .stopped tid ∉ later := ⟨log, [], rfl, List.not_mem_nil⟩
  simp [Live, newest]

theorem not_live_stopped : ¬ Live (log ++ [.stopped tid]) tid := by
  rintro ⟨⟨before, later, split, unstopped⟩, -⟩
  -- What follows the start ends with the stop.
  rcases Machine.entry_of_append split with ⟨-, same, -⟩ | ⟨more, rfl, -⟩
  · cases same
  · simp at unstopped

theorem not_live_deleted : ¬ Live (log ++ [.deleted tid]) tid := by
  rintro ⟨-, undeleted, -⟩
  simp at undeleted

theorem not_live_shutDown : ¬ Live (log ++ [.shutDown]) tid := by
  rintro ⟨-, -, running⟩
  simp at running

/-- Nothing else matters to a timer. -/
theorem live_append (started : note ≠ .started tid) (stopped : note ≠ .stopped tid)
    (deleted : note ≠ .deleted tid) (shutDown : note ≠ .shutDown) :
    Live (log ++ [note]) tid ↔ Live log tid := by
  have still : (∃ before later, log ++ [note] = before ++ .started tid :: later ∧
        .stopped tid ∉ later) ↔
      ∃ before later, log = before ++ .started tid :: later ∧ .stopped tid ∉ later := by
    constructor
    · rintro ⟨before, later, split, unstopped⟩
      rcases Machine.entry_of_append split with ⟨-, same, -⟩ | ⟨more, rfl, older⟩
      · exact absurd same.symm started
      · rw [List.mem_append, not_or] at unstopped
        exact ⟨before, more, older, unstopped.1⟩
    · rintro ⟨before, later, rfl, unstopped⟩
      refine ⟨before, later ++ [note], by simp, ?_⟩
      simp [unstopped, stopped.symm]
  simp only [Live, still, List.mem_append, List.mem_singleton, deleted.symm, shutDown.symm,
    or_false]

end Live

namespace State

variable {s after : State} {action : Action} {tid : Nat} {log : List Note}

/-! ## Steps -/

/-- What a step can be, with what it adds to the log. -/
inductive Moved (s : State) : State → Option Note → Prop where
  | drew :
      Moved s
        { s with
          nextTimer := s.nextTimer + 1
          starting := (s.nextTimer + 1) % 2 ^ 64 :: s.starting }
        (some (.drew ((s.nextTimer + 1) % 2 ^ 64)))
  | began {tid : Nat} (free : s.holder = none) (waiting : tid ∈ s.starting) :
      Moved s { s with starting := s.starting.erase tid, holder := some (.start tid) } none
  | refused {tid : Nat} (here : s.holder = some (.start tid)) (full : s.full = true) :
      Moved s { s with holder := none } (some (.refused tid))
  | armed {tid : Nat} (here : s.holder = some (.start tid)) (room : s.full = false) :
      Moved s ({ s with holder := some (.record tid) }.toStage tid .armed) none
  | recorded {tid : Nat} (here : s.holder = some (.record tid)) :
      Moved s { s with timers := s.timers.map (List.insert tid), holder := none }
        (some (.started tid))
  | stopping {tid : Nat} (free : s.holder = none) :
      Moved s { s with holder := some (.stop tid) } none
  | stopped {tid : Nat} (here : s.holder = some (.stop tid)) (member : tid ∈ s.table) :
      Moved s
        ({ s with timers := s.timers.map (List.erase · tid), holder := none }.toStage tid
          (s.stage tid).stop)
        (some (.stopped tid))
  | missed {tid : Nat} (here : s.holder = some (.stop tid)) (absent : tid ∉ s.table) :
      Moved s { s with holder := none } (some (.stopped tid))
  | expired {tid : Nat} (here : s.stage tid = .armed) : Moved s (s.toStage tid .expired) none
  | entered {tid : Nat} (free : s.holder = none) (here : s.stage tid = .expired) :
      Moved s { s with holder := some (.callback tid) } none
  | deleted {tid : Nat} (here : s.holder = some (.callback tid)) :
      Moved s
        (State.toStage { s with timers := s.timers.map (List.erase · tid), holder := none } tid
          .deleted)
        (some (.deleted tid))
  | enqueued {tid : Nat} (here : s.stage tid = .deleted) :
      Moved s (s.toStage tid .finished) (some (.enqueued tid))
  | closing (free : s.holder = none) :
      Moved s { s with closing := true, holder := some (.shutdown s.table) } none
  | halted {left : List Nat} {tid : Nat} (here : s.holder = some (.shutdown left)) :
      Moved s
        ({ s with holder := some (.shutdown (left.erase tid)) }.toStage tid (s.stage tid).stop)
        none
  | cleared (here : s.holder = some (.shutdown [])) :
      Moved s { s with timers := none, holder := none } (some .shutDown)

theorem moved_of_step (stepped : s.step action = some after) : Moved s after (s.note action) := by
  cases action with
  | draw =>
      cases stepped
      exact .drew
  | lockStart tid =>
      simp only [step, Option.ite_none_right_eq_some, Option.some.injEq] at stepped
      obtain ⟨⟨free, waiting⟩, rfl⟩ := stepped
      exact .began free waiting
  | check =>
      simp only [step] at stepped
      split at stepped
      next tid here =>
        simp only [note, here]
        split at stepped
        next full =>
          cases stepped
          rw [if_pos full]
          exact .refused here full
        next room =>
          cases stepped
          rw [if_neg room]
          exact .armed here (Bool.not_eq_true _ ▸ room)
      · cases stepped
  | record =>
      simp only [step] at stepped
      split at stepped
      next tid here =>
        cases stepped
        simp only [note, here]
        exact .recorded here
      · cases stepped
  | lockStop tid =>
      simp only [step, Option.ite_none_right_eq_some, Option.some.injEq] at stepped
      obtain ⟨free, rfl⟩ := stepped
      exact .stopping free
  | stop =>
      simp only [step] at stepped
      split at stepped
      next tid here =>
        simp only [note, here]
        split at stepped
        next member =>
          cases stepped
          exact .stopped here member
        next absent =>
          cases stepped
          exact .missed here absent
      · cases stepped
  | expire tid =>
      simp only [step, Option.ite_none_right_eq_some, Option.some.injEq] at stepped
      obtain ⟨here, rfl⟩ := stepped
      exact .expired here
  | lockCallback tid =>
      simp only [step, Option.ite_none_right_eq_some, Option.some.injEq] at stepped
      obtain ⟨⟨free, here⟩, rfl⟩ := stepped
      exact .entered free here
  | delete =>
      simp only [step] at stepped
      split at stepped
      next tid here =>
        cases stepped
        simp only [note, here]
        exact .deleted here
      · cases stepped
  | enqueue tid =>
      simp only [step, Option.ite_none_right_eq_some, Option.some.injEq] at stepped
      obtain ⟨here, rfl⟩ := stepped
      exact .enqueued here
  | lockShutdown =>
      simp only [step, Option.ite_none_right_eq_some, Option.some.injEq] at stepped
      obtain ⟨⟨free, -⟩, rfl⟩ := stepped
      exact .closing free
  | halt tid =>
      simp only [step] at stepped
      split at stepped
      next left here =>
        rw [Option.ite_none_right_eq_some, Option.some.injEq] at stepped
        obtain ⟨-, rfl⟩ := stepped
        exact .halted here
      · cases stepped
  | clear =>
      simp only [step, Option.ite_none_right_eq_some, Option.some.injEq] at stepped
      obtain ⟨here, rfl⟩ := stepped
      exact .cleared here

theorem Moved.nextTimer_le {note : Option Note} (moved : Moved s after note) :
    s.nextTimer ≤ after.nextTimer := by
  cases moved with
  | drew => exact Nat.le_succ _
  | _ => exact Nat.le_refl _

/-! ## The table -/

/-- Ids are new, and every entry of the table is of a timer that waits for its function to
take it out; only while `shutdown` stops them are there entries of stopped timers. -/
structure Sound (s : State) : Prop where
  below : ∀ tid, s.stage tid ≠ .absent → tid ≤ s.nextTimer
  waiting : ∀ tid ∈ s.starting, tid ≤ s.nextTimer ∧ s.stage tid = .absent
  distinct : s.starting.Nodup
  start : ∀ tid, s.holder = some (.start tid) →
    tid ≤ s.nextTimer ∧ s.stage tid = .absent ∧ tid ∉ s.starting
  record : ∀ tid, s.holder = some (.record tid) →
    (s.stage tid = .armed ∨ s.stage tid = .expired) ∧ tid ∉ s.table ∧
      s.table.length < maxTimersPerInstance ∧ s.timers ≠ none
  callback : ∀ tid, s.holder = some (.callback tid) → s.stage tid = .expired
  entries : ∀ tid ∈ s.table, s.stage tid = .armed ∨ s.stage tid = .expired ∨
    (s.stage tid = .stopped ∧ ∃ left, s.holder = some (.shutdown left))
  nodup : s.table.Nodup
  bound : s.table.length ≤ maxTimersPerInstance

theorem initial_sound : initial.Sound := by
  constructor <;> simp [initial, table]

@[simp] theorem table_erase (s : State) (tid : Nat) :
    table { s with timers := s.timers.map (List.erase · tid), holder := none } =
      s.table.erase tid := by
  cases timers : s.timers <;> simp [table, timers]

@[simp] theorem table_insert (s : State) (tid : Nat) (present : s.timers ≠ none) :
    table { s with timers := s.timers.map (List.insert tid), holder := none } =
      s.table.insert tid := by
  cases timers : s.timers with
  | none => exact absurd timers present
  | some timers => simp [table, timers]

theorem full_iff (s : State) :
    s.full = true ↔ s.timers = none ∨ maxTimersPerInstance ≤ s.table.length := by
  cases timers : s.timers <;> simp [full, table, timers]

theorem stage_toStage (s : State) (tid other : Nat) (stage : Stage) :
    (s.toStage tid stage).stage other = if other = tid then stage else s.stage other := by
  simp [toStage, Function.update_apply]

/-- Outside of `shutdown` every timer in the table waits. -/
theorem Sound.waits (sound : s.Sound) (unlocked : ∀ left, s.holder ≠ some (.shutdown left))
    (member : tid ∈ s.table) : s.stage tid = .armed ∨ s.stage tid = .expired := by
  rcases sound.entries tid member with armed | expired | ⟨-, left, here⟩
  · exact .inl armed
  · exact .inr expired
  · exact absurd here (unlocked left)

/-- The lock changes hands, and not to `timerStart`, with waiting timers in the table. -/
theorem Sound.rehold (sound : s.Sound) {timers : Option (List Nat)} {holder : Option Holder}
    {closing : Bool} (start : ∀ tid, holder ≠ some (.start tid))
    (record : ∀ tid, holder ≠ some (.record tid))
    (callback : ∀ tid, holder = some (.callback tid) → s.stage tid = .expired)
    (waits : ∀ tid ∈ timers.getD [], s.stage tid = .armed ∨ s.stage tid = .expired)
    (nodup : (timers.getD []).Nodup) (bound : (timers.getD []).length ≤ maxTimersPerInstance) :
    Sound { s with timers := timers, holder := holder, closing := closing } :=
  { sound with
    start := fun tid here => absurd here (start tid)
    record := fun tid here => absurd here (record tid)
    callback := callback
    entries := fun tid member => (waits tid member).imp_right .inl
    nodup := nodup
    bound := bound }

/-- The lock is taken by something other than `timerStart`. -/
theorem Sound.hold (sound : s.Sound) (free : s.holder = none) {holder : Holder} {closing : Bool}
    (start : ∀ tid, holder ≠ .start tid) (record : ∀ tid, holder ≠ .record tid)
    (callback : ∀ tid, holder = .callback tid → s.stage tid = .expired) :
    Sound { s with closing := closing, holder := some holder } := by
  apply sound.rehold (by simpa using start) (by simpa using record) (by simpa using callback) _
    sound.nodup sound.bound
  exact fun tid member => sound.waits (by simp [free]) member

/-- The lock is given back, with fewer entries in the table or none more. -/
theorem Sound.release (sound : s.Sound) {timers : Option (List Nat)}
    (unlocked : ∀ left, s.holder ≠ some (.shutdown left))
    (fewer : (timers.getD []).Sublist s.table) :
    Sound { s with timers := timers, holder := none } := by
  apply sound.rehold (by simp) (by simp) (by simp) _ (sound.nodup.sublist fewer)
    (Nat.le_trans fewer.length_le sound.bound)
  exact fun tid member => sound.waits unlocked (fewer.subset member)

/-- A timer that exists moves on. -/
theorem Sound.toStage (sound : s.Sound) {stage : Stage} (old : s.stage tid ≠ .absent)
    (record : s.holder = some (.record tid) → stage = .armed ∨ stage = .expired)
    (callback : s.holder = some (.callback tid) → stage = .expired)
    (entries : tid ∈ s.table → stage = .armed ∨ stage = .expired ∨
      (stage = .stopped ∧ ∃ left, s.holder = some (.shutdown left))) :
    (s.toStage tid stage).Sound where
  below := by
    intro other
    rw [stage_toStage]
    split
    next same =>
      intro _
      exact sound.below other (same ▸ old)
    · exact sound.below other
  waiting := by
    intro other member
    obtain ⟨below, absent⟩ := sound.waiting other member
    refine ⟨below, ?_⟩
    rw [stage_toStage, if_neg]
    · exact absent
    · rintro rfl
      exact old absent
  distinct := sound.distinct
  start := by
    intro other here
    obtain ⟨below, absent, gone⟩ := sound.start other here
    refine ⟨below, ?_, gone⟩
    rw [stage_toStage, if_neg]
    · exact absent
    · rintro rfl
      exact old absent
  record := by
    intro other here
    obtain ⟨waits, rest⟩ := sound.record other here
    refine ⟨?_, rest⟩
    rw [stage_toStage]
    split
    next same => exact record (same ▸ here)
    · exact waits
  callback := by
    intro other here
    rw [stage_toStage]
    split
    next same => exact callback (same ▸ here)
    · exact sound.callback other here
  entries := by
    intro other member
    rw [stage_toStage]
    split
    next same => exact entries (same ▸ member)
    · exact sound.entries other member
  nodup := sound.nodup
  bound := sound.bound

theorem Sound.drew (sound : s.Sound) (few : s.nextTimer + 1 < 2 ^ 64) :
    Sound
      { s with
        nextTimer := s.nextTimer + 1
        starting := (s.nextTimer + 1) % 2 ^ 64 :: s.starting } := by
  rw [Nat.mod_eq_of_lt few]
  have fresh : s.stage (s.nextTimer + 1) = .absent := by
    by_contra present
    have old := sound.below _ present
    omega
  refine { sound with below := ?_, waiting := ?_, distinct := ?_, start := ?_ }
  case refine_1 =>
    intro tid present
    exact Nat.le_succ_of_le (sound.below tid present)
  case refine_2 =>
    intro tid member
    rcases List.mem_cons.mp member with rfl | member
    · exact ⟨Nat.le_refl _, fresh⟩
    · exact (sound.waiting tid member).imp_left Nat.le_succ_of_le
  case refine_3 =>
    refine List.nodup_cons.mpr ⟨?_, sound.distinct⟩
    intro member
    have old := (sound.waiting _ member).1
    omega
  case refine_4 =>
    intro tid here
    obtain ⟨below, absent, gone⟩ := sound.start tid here
    refine ⟨Nat.le_succ_of_le below, absent, ?_⟩
    simp only [List.mem_cons, not_or]
    exact ⟨by omega, gone⟩

theorem Sound.began (sound : s.Sound) (free : s.holder = none) (member : tid ∈ s.starting) :
    Sound { s with starting := s.starting.erase tid, holder := some (.start tid) } :=
  { sound with
    waiting := fun other member => sound.waiting other (List.mem_of_mem_erase member)
    distinct := sound.distinct.erase tid
    start := by
      intro other here
      cases here
      obtain ⟨below, absent⟩ := sound.waiting tid member
      exact ⟨below, absent, sound.distinct.not_mem_erase⟩
    record := by simp
    callback := by simp
    entries := fun other member => (sound.waits (by simp [free]) member).imp_right .inl }

theorem Sound.armed (sound : s.Sound) (here : s.holder = some (.start tid))
    (room : s.full = false) :
    Sound ({ s with holder := some (.record tid) }.toStage tid .armed) := by
  obtain ⟨below, absent, gone⟩ := sound.start tid here
  have open' : ¬ (s.timers = none ∨ maxTimersPerInstance ≤ s.table.length) := by
    rw [← full_iff, room]
    exact Bool.false_ne_true
  have waits {other : Nat} (member : other ∈ s.table) := sound.waits (by simp [here]) member
  have unlisted : tid ∉ s.table := by
    intro member
    rcases waits member with armed | expired
    · simp [absent] at armed
    · simp [absent] at expired
  have kept {other : Nat} (different : other ≠ tid) :
      ({ s with holder := some (.record tid) }.toStage tid .armed).stage other = s.stage other := by
    rw [stage_toStage, if_neg different]
  constructor
  case below =>
    intro other present
    by_cases same : other = tid
    · exact same ▸ below
    · rw [kept same] at present
      exact sound.below other present
  case waiting =>
    intro other member
    rw [kept (fun same => gone (same ▸ member))]
    exact sound.waiting other member
  case distinct => exact sound.distinct
  case start => simp [State.toStage]
  case record =>
    intro other there
    cases there
    refine ⟨.inl (by simp [State.toStage]), unlisted, ?_, ?_⟩
    · exact Nat.lt_of_not_le fun full => open' (.inr full)
    · exact fun closed => open' (.inl closed)
  case callback => simp [State.toStage]
  case entries =>
    intro other member
    rw [kept (fun same => unlisted (same ▸ member))]
    exact (waits member).imp_right .inl
  case nodup => exact sound.nodup
  case bound => exact sound.bound

theorem Sound.recorded (sound : s.Sound) (here : s.holder = some (.record tid)) :
    Sound { s with timers := s.timers.map (List.insert tid), holder := none } := by
  obtain ⟨waits, unlisted, room, present⟩ := sound.record tid here
  have grown : table { s with timers := s.timers.map (List.insert tid), holder := none } =
      tid :: s.table := by
    rw [table_insert s tid present, List.insert_of_not_mem unlisted]
  rw [table] at grown
  apply sound.rehold (by simp) (by simp) (by simp)
  case waits =>
    intro other member
    rw [grown] at member
    rcases List.mem_cons.mp member with rfl | member
    · exact waits
    · exact sound.waits (by simp [here]) member
  case nodup =>
    rw [grown]
    exact List.nodup_cons.mpr ⟨unlisted, sound.nodup⟩
  case bound =>
    rw [grown]
    exact room

/-- `shutdown` stops a timer and keeps its entry. -/
theorem Sound.halted (sound : s.Sound) {rest : List Nat} :
    Sound ({ s with holder := some (.shutdown rest) }.toStage tid (s.stage tid).stop) := by
  have moved : Sound { s with holder := some (.shutdown rest) } :=
    { sound with
      start := by simp
      record := by simp
      callback := by simp
      entries := by
        intro other member
        have entry := sound.entries other member
        exact entry.imp_right fun later => later.imp_right fun stopped => ⟨stopped.1, rest, rfl⟩ }
  by_cases armed : s.stage tid = .armed
  · refine moved.toStage (by simp [armed]) (by simp) (by simp) ?_
    intro _
    exact .inr (.inr ⟨by simp [armed, Stage.stop], rest, rfl⟩)
  · have same : (s.stage tid).stop = s.stage tid := by
      cases stage : s.stage tid with
      | armed => exact absurd stage armed
      | _ => rfl
    rw [same, State.toStage, Function.update_eq_self]
    exact moved

theorem Sound.moved {note : Option Note} (sound : s.Sound) (moved : Moved s after note)
    (few : after.nextTimer < 2 ^ 64) : after.Sound := by
  have erased (tid : Nat) : ((s.timers.map (List.erase · tid)).getD []).Sublist s.table := by
    cases timers : s.timers <;> simp [table, timers, List.erase_sublist]
  cases moved with
  | drew => exact sound.drew few
  | began free member => exact sound.began free member
  | refused here | missed here =>
      exact sound.release (by simp [here]) (List.Sublist.refl _)
  | armed here room => exact sound.armed here room
  | recorded here => exact sound.recorded here
  | stopping free => exact sound.hold free (by simp) (by simp) (by simp)
  | @stopped tid here member =>
      have waits := sound.waits (by simp [here]) member
      have released := sound.release (by simp [here]) (erased tid)
      have present : s.stage tid ≠ .absent := by
        rcases waits with armed | expired
        · simp [armed]
        · simp [expired]
      apply released.toStage present (by simp) (by simp)
      intro still
      rw [table_erase] at still
      exact absurd still sound.nodup.not_mem_erase
  | expired here =>
      refine sound.toStage (by simp [here]) (fun _ => .inr rfl) (fun _ => rfl) ?_
      exact fun _ => .inr (.inl rfl)
  | entered free here =>
      refine sound.hold free (by simp) (by simp) ?_
      intro other same
      cases same
      exact here
  | @deleted tid here =>
      have running := sound.callback tid here
      have released := sound.release (by simp [here]) (erased tid)
      apply released.toStage (by simp [running]) (by simp) (by simp)
      intro still
      rw [table_erase] at still
      exact absurd still sound.nodup.not_mem_erase
  | @enqueued tid here =>
      have unlisted : tid ∉ s.table := by
        intro member
        have entry := sound.entries tid member
        simp [here] at entry
      refine sound.toStage (by simp [here]) ?_ ?_ (fun member => absurd member unlisted)
      · intro there
        have waits := (sound.record tid there).1
        simp [here] at waits
      · intro there
        have running := sound.callback tid there
        simp [here] at running
  | closing free => exact sound.hold free (by simp) (by simp) (by simp)
  | halted => exact sound.halted
  | cleared =>
      exact sound.rehold (by simp) (by simp) (by simp) (by simp) List.nodup_nil (Nat.zero_le _)

/-! ## The log -/

/-- What the log says about the state. -/
structure Told (s : State) (log : List Note) : Prop where
  drew : ∀ tid, log.count (.drew tid) = if 0 < tid ∧ tid ≤ s.nextTimer then 1 else 0
  started : ∀ tid, .started tid ∈ log → s.stage tid ≠ .absent ∧ s.holder ≠ some (.record tid)
  single : ∀ tid, log.count (.started tid) ≤ 1
  deleted : ∀ tid, .deleted tid ∈ log ↔ s.stage tid = .deleted ∨ s.stage tid = .finished
  enqueued : ∀ tid, log.count (.enqueued tid) = if s.stage tid = .finished then 1 else 0
  shutDown : .shutDown ∈ log ↔ s.timers = none
  live : ∀ tid, tid ∈ s.table ↔ Live log tid

theorem initial_told : initial.Told [] := by
  constructor
  case drew =>
    intro tid
    have none : ¬ (0 < tid ∧ tid ≤ 0) := by omega
    exact (if_neg none).symm
  all_goals simp [initial, table, Live]

/-- Timers move on short of their deletion, and the lock changes hands. -/
theorem Told.restage (told : s.Told log) (next : after.nextTimer = s.nextTimer)
    (timers : after.timers = s.timers)
    (deleted : ∀ tid, after.stage tid = .deleted ↔ s.stage tid = .deleted)
    (finished : ∀ tid, after.stage tid = .finished ↔ s.stage tid = .finished)
    (present : ∀ tid, s.stage tid ≠ .absent → after.stage tid ≠ .absent)
    (record : ∀ tid, after.holder = some (.record tid) →
      s.holder = some (.record tid) ∨ s.stage tid = .absent) : after.Told log where
  drew := by
    rw [next]
    exact told.drew
  started := by
    intro tid logged
    obtain ⟨exists', unlocked⟩ := told.started tid logged
    refine ⟨present tid exists', fun here => ?_⟩
    rcases record tid here with before | absent
    · exact unlocked before
    · exact exists' absent
  single := told.single
  deleted := by
    intro tid
    rw [deleted, finished]
    exact told.deleted tid
  enqueued := by
    intro tid
    simp only [finished]
    exact told.enqueued tid
  shutDown := by
    rw [timers]
    exact told.shutDown
  live := by
    rw [table, timers]
    exact told.live

/-- One timer moves on short of its deletion. -/
theorem Told.toStage (told : s.Told log) {stage : Stage} (fresh : s.stage tid ≠ .deleted)
    (running : s.stage tid ≠ .finished) (undeleted : stage ≠ .deleted)
    (unfinished : stage ≠ .finished) (present : stage ≠ .absent) :
    (s.toStage tid stage).Told log := by
  refine told.restage rfl rfl ?_ ?_ ?_ (fun _ here => .inl here)
  all_goals
    intro other
    rw [stage_toStage]
    split
    next same => simp_all
    · simp

theorem Told.drewOne (told : s.Told log) (few : s.nextTimer + 1 < 2 ^ 64) {starting : List Nat} :
    Told { s with nextTimer := s.nextTimer + 1, starting := starting }
      (log ++ [.drew ((s.nextTimer + 1) % 2 ^ 64)]) where
  drew := by
    intro tid
    rw [Nat.mod_eq_of_lt few, List.count_append, told.drew tid]
    by_cases new : tid = s.nextTimer + 1
    · simp [new]
    · have smaller : (0 < tid ∧ tid ≤ s.nextTimer + 1) ↔ 0 < tid ∧ tid ≤ s.nextTimer := by omega
      simp [smaller, Ne.symm new]
  started := by simpa using told.started
  single := by simpa [List.count_append] using told.single
  deleted := by simpa using told.deleted
  enqueued := by simpa [List.count_append] using told.enqueued
  shutDown := by simpa using told.shutDown
  live := by
    intro tid
    rw [live_append (by simp) (by simp) (by simp) (by simp)]
    exact told.live tid

theorem Told.refused (told : s.Told log) :
    Told { s with holder := none } (log ++ [.refused tid]) where
  drew := by simpa [List.count_append] using told.drew
  started := by
    intro other logged
    exact ⟨(told.started other (by simpa using logged)).1, by simp⟩
  single := by simpa [List.count_append] using told.single
  deleted := by simpa using told.deleted
  enqueued := by simpa [List.count_append] using told.enqueued
  shutDown := by simpa using told.shutDown
  live := by
    intro other
    rw [live_append (by simp) (by simp) (by simp) (by simp)]
    exact told.live other

theorem Told.recorded (told : s.Told log) (sound : s.Sound)
    (here : s.holder = some (.record tid)) :
    Told { s with timers := s.timers.map (List.insert tid), holder := none }
      (log ++ [.started tid]) where
  drew := by simpa [List.count_append] using told.drew
  started := by
    intro other logged
    refine ⟨?_, by simp⟩
    rcases List.mem_append.mp logged with old | new
    · exact (told.started other old).1
    · cases List.mem_singleton.mp new
      rcases (sound.record tid here).1 with armed | expired
      · simp [armed]
      · simp [expired]
  single := by
    intro other
    have old := told.single other
    rw [List.count_append]
    by_cases same : other = tid
    · have unstarted : Note.started other ∉ log :=
        fun logged => (told.started other logged).2 (same ▸ here)
      rw [List.count_eq_zero.mpr unstarted]
      simp [same]
    · simpa [Ne.symm same] using old
  deleted := by simpa using told.deleted
  enqueued := by simpa [List.count_append] using told.enqueued
  shutDown := by simpa using told.shutDown
  live := by
    obtain ⟨waits, unlisted, room, present⟩ := sound.record tid here
    intro other
    rw [table_insert s tid present, List.mem_insert_iff]
    by_cases same : other = tid
    · subst same
      rw [live_started, told.deleted, told.shutDown]
      rcases waits with armed | expired
      · simp [armed, present]
      · simp [expired, present]
    · rw [live_append (by simpa using Ne.symm same) (by simp) (by simp) (by simp), told.live]
      simp [same]

/-- `timerStop` takes an id out of the table, if it was in it. -/
theorem Told.stopped (told : s.Told log) (sound : s.Sound) {stage : Nat → Stage}
    {timers : Option (List Nat)} (closed : timers = none ↔ s.timers = none)
    (table : timers.getD [] = s.table.erase tid)
    (moved : ∀ other, stage other = s.stage other ∨
      (s.stage other = .armed ∧ stage other = .stopped)) :
    Told { s with timers := timers, stage := stage, holder := none } (log ++ [.stopped tid]) where
  drew := by simpa [List.count_append] using told.drew
  started := by
    intro other logged
    have old := (told.started other (by simpa using logged)).1
    refine ⟨?_, by simp⟩
    rcases moved other with same | ⟨-, stopped⟩
    · simpa [same] using old
    · simp [stopped]
  single := by simpa [List.count_append] using told.single
  deleted := by
    intro other
    have old := told.deleted other
    rcases moved other with same | ⟨armed, stopped⟩
    · simpa [same] using old
    · simpa [armed, stopped] using old
  enqueued := by
    intro other
    have old := told.enqueued other
    rcases moved other with same | ⟨armed, stopped⟩
    · simpa [List.count_append, same] using old
    · simpa [List.count_append, armed, stopped] using old
  shutDown := by simpa [closed] using told.shutDown
  live := by
    intro other
    change other ∈ timers.getD [] ↔ _
    rw [table]
    by_cases same : other = tid
    · subst same
      exact iff_of_false sound.nodup.not_mem_erase not_live_stopped
    · rw [live_append (by simp) (by simpa using Ne.symm same) (by simp) (by simp), ← told.live,
        List.mem_erase_of_ne same]

theorem Told.deletedOne (told : s.Told log) (sound : s.Sound)
    (here : s.holder = some (.callback tid)) :
    Told
      (State.toStage { s with timers := s.timers.map (List.erase · tid), holder := none } tid
        .deleted)
      (log ++ [.deleted tid]) where
  drew := by
    intro other
    rw [List.count_append, told.drew]
    rfl
  started := by
    intro other logged
    refine ⟨?_, by simp [State.toStage]⟩
    rw [stage_toStage]
    split
    · simp
    · exact (told.started other (by simpa using logged)).1
  single := by simpa [List.count_append] using told.single
  deleted := by
    intro other
    rw [stage_toStage, List.mem_append, told.deleted]
    by_cases same : other = tid
    · simp [same]
    · simp [same]
  enqueued := by
    intro other
    have running := sound.callback tid here
    rw [stage_toStage, List.count_append, told.enqueued]
    by_cases same : other = tid
    · simp [same, running]
    · simp [same]
  shutDown := by simpa [State.toStage] using told.shutDown
  live := by
    intro other
    change other ∈ table { s with timers := s.timers.map (List.erase · tid), holder := none } ↔ _
    rw [table_erase]
    by_cases same : other = tid
    · subst same
      exact iff_of_false sound.nodup.not_mem_erase not_live_deleted
    · rw [live_append (by simp) (by simp) (by simpa using Ne.symm same) (by simp), ← told.live,
        List.mem_erase_of_ne same]

theorem Told.enqueuedOne (told : s.Told log) (here : s.stage tid = .deleted) :
    Told (s.toStage tid .finished) (log ++ [.enqueued tid]) where
  drew := by
    intro other
    rw [List.count_append, told.drew]
    rfl
  started := by
    intro other logged
    obtain ⟨present, unlocked⟩ := told.started other (by simpa using logged)
    refine ⟨?_, unlocked⟩
    rw [stage_toStage]
    split
    · simp
    · exact present
  single := by simpa [List.count_append] using told.single
  deleted := by
    intro other
    rw [stage_toStage, List.mem_append, told.deleted]
    by_cases same : other = tid
    · simp [same, here]
    · simp [same]
  enqueued := by
    intro other
    rw [stage_toStage, List.count_append, told.enqueued]
    by_cases same : other = tid
    · simp [same, here]
    · simp [same, Ne.symm same]
  shutDown := by simpa [State.toStage] using told.shutDown
  live := by
    intro other
    rw [live_append (by simp) (by simp) (by simp) (by simp)]
    exact told.live other

theorem Told.cleared (told : s.Told log) :
    Told { s with timers := none, holder := none } (log ++ [.shutDown]) where
  drew := by simpa [List.count_append] using told.drew
  started := by
    intro other logged
    exact ⟨(told.started other (by simpa using logged)).1, by simp⟩
  single := by simpa [List.count_append] using told.single
  deleted := by simpa using told.deleted
  enqueued := by simpa [List.count_append] using told.enqueued
  shutDown := by simp
  live := by
    intro other
    exact iff_of_false (by simp [table]) not_live_shutDown

theorem Told.moved {note : Option Note} (told : s.Told log) (sound : s.Sound)
    (moved : Moved s after note) (few : after.nextTimer < 2 ^ 64) :
    after.Told (log ++ note.toList) := by
  -- Steps that say nothing leave the log as it was.
  have silent (kept : after.Told log) : after.Told (log ++ (none : Option Note).toList) := by
    simpa using kept
  cases moved with
  | drew => exact told.drewOne few
  | began | stopping | entered | closing =>
      apply silent
      refine told.restage rfl rfl (fun _ => Iff.rfl) (fun _ => Iff.rfl)
        (fun _ present => present) ?_
      simp
  | refused => exact told.refused
  | @armed tid here =>
      have absent := (sound.start tid here).2.1
      have held : Told { s with holder := some (.record tid) } log := by
        refine told.restage rfl rfl (fun _ => Iff.rfl) (fun _ => Iff.rfl)
          (fun _ present => present) ?_
        intro other same
        cases same
        exact .inr absent
      apply silent
      exact held.toStage (by simp [absent]) (by simp [absent]) (by simp) (by simp) (by simp)
  | recorded here => exact told.recorded sound here
  | @stopped tid here member =>
      refine told.stopped sound (by simp) (table_erase s tid) ?_
      intro other
      simp only [Function.update_apply]
      split
      next same =>
        rcases sound.waits (by simp [here]) member with armed | expired
        · exact .inr ⟨same ▸ armed, by rw [armed]; rfl⟩
        · exact .inl (by rw [same, expired]; rfl)
      · exact .inl rfl
  | missed here absent =>
      exact told.stopped sound Iff.rfl (List.erase_of_not_mem absent).symm (fun _ => .inl rfl)
  | expired here =>
      apply silent
      exact told.toStage (by simp [here]) (by simp [here]) (by simp) (by simp) (by simp)
  | deleted here => exact told.deletedOne sound here
  | enqueued here => exact told.enqueuedOne here
  | @halted left tid here =>
      apply silent
      refine told.restage rfl rfl ?_ ?_ ?_ (by simp [State.toStage])
      all_goals
        intro other
        rw [stage_toStage]
        split
        next same =>
          rw [same]
          cases s.stage tid <;> simp [Stage.stop]
        · simp
  | cleared => exact told.cleared

/-- A refused start found the map nil or full. -/
theorem full_of_refused (stepped : s.step action = some after)
    (refused : s.note action = some (.refused tid)) :
    s.holder = some (.start tid) ∧ s.full = true := by
  have moved := moved_of_step stepped
  rw [refused] at moved
  cases moved with
  | refused here full => exact ⟨here, full⟩

end State

/-- What holds of the table, by the log. -/
structure Accounted (s : State) (log : List Note) : Prop where
  /-- An id is in the table iff its timer is live. -/
  entries : ∀ tid, tid ∈ s.table ↔ Live log tid
  /-- A timer that has fired has no entry. -/
  fired : ∀ tid, .enqueued tid ∈ log → tid ∉ s.table
  bound : s.table.length ≤ maxTimersPerInstance
  /-- A start is refused only after the shutdown or beside a full table of live timers. -/
  refused : ∀ action after tid, s.step action = some after →
    s.note action = some (.refused tid) →
    .shutDown ∈ log ∨ (s.table.Nodup ∧ s.table.length = maxTimersPerInstance ∧
      ∀ tid ∈ s.table, Live log tid ∧ (s.stage tid = .armed ∨ s.stage tid = .expired))
  /-- A timer enqueues one event. -/
  once : ∀ tid, log.count (.enqueued tid) ≤ 1
  /-- No id is drawn or started twice. -/
  fresh : ∀ tid, log.count (.drew tid) ≤ 1 ∧ log.count (.started tid) ≤ 1

/-- Whatever the interleaving, the table holds the live timers. -/
theorem timer_table_live {s : State} {log : List Note} (reachable : timerTable.Reachable (s, log))
    (few : s.nextTimer < 2 ^ 64) : Accounted s log := by
  have start : State.initial.nextTimer < 2 ^ 64 → State.initial.Sound ∧ State.initial.Told [] :=
    fun _ => ⟨State.initial_sound, State.initial_told⟩
  have kept : ∀ (before : State) (old : List Note) (action : Action) (after : State),
      (before.nextTimer < 2 ^ 64 → before.Sound ∧ before.Told old) →
      Machine.always (before, old) action → before.step action = some after →
      after.nextTimer < 2 ^ 64 →
      after.Sound ∧ after.Told (old ++ (before.note action).toList) := by
    intro before old action after held _ stepped few
    have moved := State.moved_of_step stepped
    obtain ⟨sound, told⟩ := held (Nat.lt_of_le_of_lt moved.nextTimer_le few)
    exact ⟨sound.moved moved few, told.moved sound moved few⟩
  obtain ⟨sound, told⟩ := Machine.Reaches.invariant_logged kept reachable start few
  constructor
  case entries => exact told.live
  case fired =>
    intro tid logged member
    have finished : s.stage tid = .finished := by
      by_contra running
      have count := told.enqueued tid
      rw [if_neg running] at count
      exact List.count_eq_zero.mp count logged
    exact ((told.live tid).mp member).2.1 ((told.deleted tid).mpr (.inr finished))
  case bound => exact sound.bound
  case refused =>
    intro action after tid stepped refused
    obtain ⟨here, full⟩ := State.full_of_refused stepped refused
    rcases (State.full_iff s).mp full with closed | full
    · exact .inl (told.shutDown.mpr closed)
    · refine .inr ⟨sound.nodup, Nat.le_antisymm sound.bound full, ?_⟩
      intro other member
      exact ⟨(told.live other).mp member, sound.waits (by simp [here]) member⟩
  case once =>
    intro tid
    rw [told.enqueued]
    split <;> decide
  case fresh =>
    intro tid
    refine ⟨?_, told.single tid⟩
    rw [told.drew]
    split <;> decide

/-- A timer that expires before `timerStart` has recorded it, beside another start. -/
def expiresFirst : List Action :=
  [.draw, .lockStart 1, .check, .expire 1, .draw, .record, .lockStart 2, .check, .record,
    .lockCallback 1, .delete, .enqueue 1]

theorem timer_table_live_expiresFirst :
    ∃ s, timerTable.run timerTable.initial expiresFirst =
        some (s, [.drew 1, .drew 2, .started 1, .started 2, .deleted 1, .enqueued 1]) ∧
      s.table = [2] ∧
      Accounted s [.drew 1, .drew 2, .started 1, .started 2, .deleted 1, .enqueued 1] := by
  obtain ⟨s, ran, table, few⟩ : ∃ s, timerTable.run timerTable.initial expiresFirst =
        some (s, [.drew 1, .drew 2, .started 1, .started 2, .deleted 1, .enqueued 1]) ∧
      s.table = [2] ∧ s.nextTimer < 2 ^ 64 := ⟨_, rfl, rfl, by decide⟩
  exact ⟨s, ran, table, timer_table_live (Machine.reaches_of_run ran) few⟩

/-! ## Calls that nothing interrupts -/

/-- The table that the timers of `Timers` are, with no call under way. -/
def atRest (t : Timers.State) : State :=
  ⟨t.nextTimer, [], t.timers, t.stage, none, t.timers.isNone⟩

theorem reaches_of_step {s after : State} {action : Action}
    (stepped : s.step action = some after) : sections.Reaches Machine.always s after :=
  (Machine.Reaches.refl s).step trivial stepped

/-- The loop of `shutdown`. -/
theorem reaches_halted (left : List Nat) (s : State) (here : s.holder = some (.shutdown left)) :
    sections.Reaches Machine.always s { s with
      holder := some (.shutdown [])
      stage := fun tid => if tid ∈ left then (s.stage tid).stop else s.stage tid } := by
  induction left generalizing s with
  | nil =>
      simp only [List.not_mem_nil, if_false, ← here]
      exact .refl s
  | cons tid left ih =>
      let halted := State.toStage { s with holder := some (.shutdown left) } tid (s.stage tid).stop
      have stepped : s.step (.halt tid) = some halted := by
        simp [halted, State.step, here]
      have stages : (fun other => if other ∈ left then (halted.stage other).stop
          else halted.stage other) =
          fun other => if other ∈ tid :: left then (s.stage other).stop else s.stage other := by
        funext other
        by_cases same : other = tid
        · subst same
          cases stage : s.stage other <;> simp [halted, State.toStage, stage, Stage.stop]
        · simp [halted, State.toStage, same]
      have rest := ih halted rfl
      rw [stages] at rest
      exact (reaches_of_step stepped).trans rest

section Calls

variable (t : Timers.State)

/-- `timerStart` draws its id, gets the lock at once, and refuses or records the timer. -/
theorem reaches_timerStart :
    sections.Reaches Machine.always (atRest t) (atRest t.timerStart.2) := by
  let tid := (t.nextTimer + 1) % 2 ^ 64
  let locked : State :=
    ⟨t.nextTimer + 1, [], t.timers, t.stage, some (.start tid), t.timers.isNone⟩
  have drawn : (atRest t).step .draw =
      some { locked with starting := [tid], holder := none } := rfl
  have began : State.step { locked with starting := [tid], holder := none } (.lockStart tid) =
      some locked := by
    simp [State.step, locked]
  refine (reaches_of_step drawn).trans ((reaches_of_step began).trans ?_)
  rw [Timers.State.timerStart]
  cases present : t.timers with
  | none =>
      have refused : locked.step .check = some { locked with holder := none } := by
        simp [State.step, State.full, locked, present]
      simpa [atRest, locked, present] using reaches_of_step refused
  | some timers =>
      by_cases many : timers.length ≥ maxTimersPerInstance
      · have refused : locked.step .check = some { locked with holder := none } := by
          simp [State.step, State.full, locked, present, many]
        simpa [atRest, locked, present, many] using reaches_of_step refused
      · let armed := State.toStage { locked with holder := some (.record tid) } tid .armed
        have checked : locked.step .check = some armed := by
          simp [State.step, State.full, locked, armed, present, many]
        have recorded : armed.step .record = some { armed with
            timers := armed.timers.map (List.insert tid)
            holder := none } := rfl
        have reached := (reaches_of_step checked).trans (reaches_of_step recorded)
        simpa [atRest, locked, armed, tid, State.toStage, Timers.State.toStage, present, many]
          using reached

theorem reaches_timerStop (tid : Nat) :
    sections.Reaches Machine.always (atRest t) (atRest (t.timerStop tid)) := by
  let locked : State := { atRest t with holder := some (.stop tid) }
  have began : (atRest t).step (.lockStop tid) = some locked := rfl
  refine (reaches_of_step began).trans ?_
  have stepped : locked.step .stop = some (atRest (t.timerStop tid)) := by
    cases present : t.timers with
    | none => simp [State.step, State.table, Timers.State.timerStop, locked, atRest, present]
    | some timers =>
        by_cases member : tid ∈ timers <;>
          simp [State.step, State.table, State.toStage, Timers.State.timerStop,
            Timers.State.toStage, locked, atRest, present, member]
  exact reaches_of_step stepped

theorem reaches_shutdown :
    sections.Reaches Machine.always (atRest t) (atRest t.shutdown) := by
  cases present : t.timers with
  | none =>
      rw [Timers.State.shutdown, present]
      exact .refl _
  | some timers =>
      let locked : State := { atRest t with closing := true, holder := some (.shutdown timers) }
      have began : (atRest t).step .lockShutdown = some locked := by
        simp [State.step, State.table, locked, atRest, present]
      have halted := reaches_halted timers locked rfl
      have cleared : State.step { locked with
          holder := some (.shutdown [])
          stage := fun tid => if tid ∈ timers then (t.stage tid).stop else t.stage tid } .clear =
          some (atRest t.shutdown) := by
        simp [State.step, Timers.State.shutdown, locked, atRest, present]
      exact (reaches_of_step began).trans (halted.trans (reaches_of_step cleared))

end Calls

/-- A step of `Timers` is what the sections do when nothing comes between them: a call of
`timerStart`, `timerStop` or `shutdown`, or a part of a timer's function. -/
theorem reaches_of_timers_step {t next : Timers.State} {action : Timers.Action}
    (stepped : t.step action = some next) :
    sections.Reaches Machine.always (atRest t) (atRest next) := by
  cases action with
  | start =>
      cases stepped
      exact reaches_timerStart t
  | stop tid =>
      cases stepped
      exact reaches_timerStop t tid
  | expire tid =>
      obtain ⟨armed, made⟩ := Option.ite_none_right_eq_some.mp stepped
      cases made
      have expired : (atRest t).step (.expire tid) = some (atRest (t.toStage tid .expired)) :=
        if_pos armed
      exact reaches_of_step expired
  | delete tid =>
      obtain ⟨expired, made⟩ := Option.ite_none_right_eq_some.mp stepped
      cases made
      let locked : State := { atRest t with holder := some (.callback tid) }
      have began : (atRest t).step (.lockCallback tid) = some locked := if_pos ⟨rfl, expired⟩
      have deleted : locked.step .delete = some (atRest (Timers.State.toStage
          { t with timers := t.timers.map (List.erase · tid) } tid .deleted)) := by
        simp [State.step, State.toStage, Timers.State.toStage, locked, atRest]
      exact (reaches_of_step began).trans (reaches_of_step deleted)
  | enqueue tid sent =>
      obtain ⟨deleted, made⟩ := Option.ite_none_right_eq_some.mp stepped
      cases made
      have finished : (atRest t).step (.enqueue tid) =
          some (atRest (t.toStage tid .finished)) := if_pos deleted
      exact reaches_of_step finished
  | shutdown =>
      cases stepped
      exact reaches_shutdown t
  -- The channel is no part of the table.
  | receive =>
      rw [Timers.State.step] at stepped
      split at stepped
      · cases stepped
      · cases stepped
        exact .refl _
  | lose tid | dispatch tid =>
      obtain ⟨-, made⟩ := Option.ite_none_right_eq_some.mp stepped
      cases made
      exact .refl _

/-- Whatever `Timers` reaches, the sections reach. -/
theorem reachable_atRest {t : Timers.State}
    (reachable : (Machine.mk Timers.State.initial Timers.State.step).Reachable t) :
    sections.Reachable (atRest t) := by
  have kept : ∀ before action after, sections.Reachable (atRest before) →
      Machine.always before action → Timers.State.step before action = some after →
      sections.Reachable (atRest after) := by
    intro before action after reached _ stepped
    exact reached.trans (reaches_of_timers_step stepped)
  have carried := Machine.Reaches.invariant kept reachable (.refl State.initial)
  exact carried

end UnboundWasm.Host.TimerTable
