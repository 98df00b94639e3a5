import UnboundWasm.Guest.Dispatch

/-!
# Events that are not persistent

Both dispatchers may invoke an event that waits for a descriptor with a timeout.
`uw_io_ready` takes an event without `UB_EV_PERSIST` out of service before its callback
runs; `uw_timer_fired` only forgets the timer.  `spent` follows which events have had
their one invocation.
-/

namespace UnboundWasm.Guest

open UnboundWasm.Lib

namespace Happening

def invokes (event : Nat) : Happening → Bool
  | .called _ event' _ | .timed event' _ => event' = event
  | _ => false

/-- Follow whether an event has been invoked without `UB_EV_PERSIST` since it was last
added. -/
def spends (event : Nat) (spent : Bool) : Happening → Bool
  | .added event' => spent && event' ≠ event
  | .called _ event' persistent | .timed event' persistent =>
      spent || (event' = event && !persistent)
  | .created _ | .freed _ _ | .released _ => spent

end Happening

/-- The event has been invoked without `UB_EV_PERSIST` since it was last added. -/
def spent (event : Nat) (log : List Happening) : Bool := log.foldl (Happening.spends event) false

theorem spent_append (event : Nat) (log : List Happening) (happening : Happening) :
    spent event (log ++ [happening]) = happening.spends event (spent event log) := by
  simp [spent]

namespace Backend

variable {b after : Backend} {action : Step} {event other : Nat} {log : List Happening}

/-- An event that is not persistent fires once for every time it is added, and is not
active from then on until it is added again. -/
structure OncePerAdd (b : Backend) (log : List Happening) : Prop where
  inactive : ∀ event, spent event log = true → (b.events.get event).active = false
  unrepeated : ∀ event before happening later, log = before ++ happening :: later →
    happening.invokes event = true → spent event before = false

/-- `uw_timer_fired` finds no event without `UB_EV_PERSIST`. -/
def timely (b : Backend) : Step → Bool
  | .timerFired tid =>
      match b.timerTarget tid with
      | some event => b.persistent event
      | none => true
  | _ => true

def Timely (b : Backend) (action : Step) : Prop := b.timely action = true

instance (b : Backend) (action : Step) : Decidable (b.Timely action) :=
  inferInstanceAs (Decidable (_ = true))

/-! ## One step -/

theorem OncePerAdd.append (once : b.OncePerAdd log) {happening : Happening}
    (unspent : ∀ event, happening.invokes event = true → spent event log = false)
    (inactive : ∀ event, happening.spends event (spent event log) = true →
      (after.events.get event).active = false) : after.OncePerAdd (log ++ [happening]) := by
  constructor
  case inactive =>
    intro event
    rw [spent_append]
    exact inactive event
  case unrepeated =>
    intro event before invocation later split invokes
    rcases Machine.entry_of_append split with ⟨rfl, rfl, -⟩ | ⟨more, -, older⟩
    · exact unspent event invokes
    · exact once.unrepeated event before invocation more older invokes

/-- A step that adds and invokes nothing. -/
theorem OncePerAdd.frame (once : b.OncePerAdd log) {note : Option Happening}
    (neither : ∀ happening ∈ note, ∀ event spent,
      happening.invokes event = false ∧ happening.spends event spent = spent)
    (inactive : ∀ event, (b.events.get event).active = false →
      (after.events.get event).active = false) : after.OncePerAdd (log ++ note.toList) := by
  cases note with
  | none =>
      rw [Option.toList_none, List.append_nil]
      exact ⟨fun event done => inactive event (once.inactive event done), once.unrepeated⟩
  | some happening =>
      apply once.append
      · intro event invokes
        rw [(neither happening rfl event false).1] at invokes
        cases invokes
      · intro event done
        rw [(neither happening rfl event _).2] at done
        exact inactive event (once.inactive event done)

/-- Only `event_add` and `event_add_timer` make an event active. -/
theorem inactive_of_change {op : Op} {change : Event → Event}
    (changes : op.change = some (event, change)) (unnoted : b.noted (.op op) after = none)
    {e : Event} (inactive : e.active = false) : (change e).active = false := by
  cases op with
  | socket | close | newEvent => cases changes
  | free | add | addTimer => cases unnoted
  | del =>
      cases changes
      rfl
  | addBits | delBits | setFd | delTimer =>
      cases changes
      exact inactive

theorem inactive_free (e : Event) : e.free.active = false := by
  unfold Event.free
  split <;> rfl

theorem OncePerAdd.unspent (once : b.OncePerAdd log) (active : (b.events.get event).active = true) :
    spent event log = false := by
  by_contra done
  rw [once.inactive event (by simpa using done)] at active
  cases active

theorem OncePerAdd.fired (once : b.OncePerAdd log) {d : Delivery}
    (found : b.scanTarget d = some event) :
    (b.fire d event).OncePerAdd (log ++ [.called b.generation event (b.persistent event)]) := by
  have ready := (mem_of_scanTarget found).2
  simp only [Event.isReady, Bool.and_eq_true] at ready
  have active : (b.events.get event).active = true := ready.1.1.1.1
  have unspent := once.unspent active
  apply once.append
  · intro other invokes
    simp only [Happening.invokes, decide_eq_true_eq] at invokes
    exact invokes ▸ unspent
  · intro other done
    simp only [fire, Heap.get_modify]
    split
    next same =>
      subst same
      simpa [Happening.spends, unspent, persistent, active] using done
    next distinct =>
      simp only [Happening.spends, Bool.or_eq_true, Bool.and_eq_true, decide_eq_true_eq] at done
      rcases done with done | ⟨same, -⟩
      · exact once.inactive other done
      · exact absurd same.symm distinct

theorem OncePerAdd.timed (once : b.OncePerAdd log) {tid : Int}
    (found : b.timerTarget tid = some event) (persistent : b.persistent event = true) :
    OncePerAdd
      { b with
        events := b.events.modify event fun e => { e with timerId := 0, firing := true }
        running := .callback none event }
      (log ++ [.timed event (b.persistent event)]) := by
  have active := (mem_of_timerTarget found).2.1
  have unspent := once.unspent active
  apply once.append
  · intro other invokes
    simp only [Happening.invokes, decide_eq_true_eq] at invokes
    exact invokes ▸ unspent
  · intro other done
    simp only [Happening.spends, persistent, Bool.not_true, Bool.and_false, Bool.or_false] at done
    simp only [Heap.get_modify]
    split
    next same =>
      rw [same, unspent] at done
      cases done
    · exact once.inactive other done

theorem OncePerAdd.moved (once : b.OncePerAdd log) (timely : b.Timely action)
    (moved : Moved b action after) :
    after.OncePerAdd (log ++ (b.noted action after).toList) := by
  cases moved with
  | table untouched same generation quiet =>
      rw [quiet]
      refine once.frame (by simp) ?_
      rw [same.events]
      exact fun _ inactive => inactive
  | created fd bits =>
      refine once.frame (by simp [noted, Happening.invokes, Happening.spends]) ?_
      intro event inactive
      simp only [Heap.get_alloc]
      split
      · rfl
      · exact inactive
  | @changed op event change changes kept alive =>
      rcases noted_of_change changes kept with none | added
      · rw [none]
        refine once.frame (by simp) ?_
        intro other inactive
        simp only [Heap.get_modify]
        split
        next same => exact inactive_of_change changes (none b b) (same ▸ inactive)
        · exact inactive
      · rw [added]
        refine once.append (by simp [Happening.invokes]) ?_
        intro other done
        simp only [Happening.spends, Bool.and_eq_true, decide_eq_true_eq] at done
        simp only [Heap.get_modify]
        rw [if_neg (Ne.symm done.2)]
        exact once.inactive other done.1
  | freed alive =>
      refine once.frame (by simp [noted, Happening.invokes, Happening.spends]) ?_
      intro other inactive
      simp only [Heap.get_modify]
      split
      · exact inactive_free _
      · exact inactive
  | unknown | began | finished => exact once.frame (by simp [noted]) fun _ inactive => inactive
  | unmatched idle => exact once.frame (by simp [noted, idle]) fun _ inactive => inactive
  | fired here found => exact once.fired found
  | timed idle found =>
      refine once.timed found ?_
      simpa only [Timely, Backend.timely, found] using timely
  | returned here =>
      rw [noted_of_returned here]
      refine once.frame ?_ ?_
      · split <;> simp [Happening.invokes, Happening.spends]
      · intro other inactive
        simp only [ret, Heap.get_modify]
        split
        next same =>
          subst same
          split <;> exact inactive
        · exact inactive

/-- A timer that finds an event without `UB_EV_PERSIST` leaves it active. -/
theorem timely_of_oncePerAdd (stepped : b.step action = some after)
    (once : after.OncePerAdd (log ++ (b.happening action).toList)) : b.Timely action := by
  rw [happening_of_step stepped] at once
  cases moved_of_step stepped with
  | unmatched idle none => simp only [Timely, timely, none]
  | @timed tid event idle found =>
      simp only [Timely, timely, found]
      by_contra oneShot
      rw [Bool.not_eq_true] at oneShot
      have done : spent event (log ++ [.timed event (b.persistent event)]) = true := by
        rw [spent_append]
        simp [Happening.spends, oneShot]
      have inactive := once.inactive event done
      have active := (mem_of_timerTarget found).2.1
      simp only [Heap.get_modify_self] at inactive
      rw [active] at inactive
      cases inactive
  | _ => rfl

/-- In a run in which no timer finds an event without `UB_EV_PERSIST`, such events fire once
for every time they are added, and the first step that breaks the condition breaks this too. -/
theorem once_per_add_iff_timely
    (reaches : dispatch.Reaches (fun state action => state.1.Timely action) dispatch.initial
      (b, log)) :
    b.OncePerAdd log ∧ ∀ action after, b.step action = some after →
      (after.OncePerAdd (log ++ (b.happening action).toList) ↔ b.Timely action) := by
  have start : initial.OncePerAdd [] := by
    constructor <;> simp [spent]
  have kept : ∀ (before : Backend) (old : List Happening) (action : Step) (after : Backend),
      before.OncePerAdd old → before.Timely action → backend.step before action = some after →
      after.OncePerAdd (old ++ (before.happening action).toList) := by
    intro before old action after once timely stepped
    rw [happening_of_step stepped]
    exact once.moved timely (moved_of_step stepped)
  have once : b.OncePerAdd log := Machine.Reaches.invariant_logged kept reaches start
  refine ⟨once, ?_⟩
  intro action after stepped
  exact ⟨timely_of_oncePerAdd stepped, fun timely => kept b log action after once timely stepped⟩

end Backend

/-- A reader that is called, added again, deleted and added with a timeout. -/
def addAgain : List Step :=
  [.op .socket, .op (.newEvent fdBase evRead), .op (.add 0 none), .ioReady 1 abiRead, .scan, .ret,
    .scan, .op (.add 0 (some 7)), .ioReady 1 abiRead, .scan, .op (.del 0), .ret, .scan]

theorem once_per_add_iff_timely_addAgain :
    ∃ b, dispatch.runWhen (fun state action => state.1.Timely action) dispatch.initial addAgain =
        some (b, [.created 0, .added 0, .called 1 0 false, .added 0, .called 2 0 false]) ∧
      b.OncePerAdd [.created 0, .added 0, .called 1 0 false, .added 0, .called 2 0 false] := by
  obtain ⟨b, ran⟩ : ∃ b, dispatch.runWhen (fun state action => state.1.Timely action)
      dispatch.initial addAgain =
        some (b, [.created 0, .added 0, .called 1 0 false, .added 0, .called 2 0 false]) :=
    ⟨_, rfl⟩
  exact ⟨b, ran, (Backend.once_per_add_iff_timely (Machine.reaches_of_runWhen ran)).1⟩

/-- A reader added once, with a timeout, whose timeout comes before its readiness. -/
def timeoutThenReady : List Step :=
  [.op .socket, .op (.newEvent fdBase evRead), .op (.add 0 (some 7)), .timerFired 7, .ret,
    .ioReady 1 abiRead, .scan]

/-- It is invoked for both. -/
theorem timeoutThenReady_fires_twice :
    ∃ b, dispatch.run dispatch.initial timeoutThenReady =
        some (b, [.created 0, .added 0, .timed 0 false, .called 1 0 false]) ∧
      ¬ b.OncePerAdd [.created 0, .added 0, .timed 0 false, .called 1 0 false] := by
  obtain ⟨b, ran⟩ : ∃ b, dispatch.run dispatch.initial timeoutThenReady =
      some (b, [.created 0, .added 0, .timed 0 false, .called 1 0 false]) := ⟨_, rfl⟩
  refine ⟨b, ran, fun once => ?_⟩
  have unspent := once.unrepeated 0 [.created 0, .added 0, .timed 0 false] (.called 1 0 false) []
    rfl rfl
  revert unspent
  decide

end UnboundWasm.Guest
