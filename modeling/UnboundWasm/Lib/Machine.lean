import Mathlib.Logic.Relation

/-!
# Machines with explicit actions

A machine is a partial step function over a state and an action.  The action
carries everything the state does not determine: which thread runs next, what
the network answers, what an untrusted component passes as arguments.  A run is
a list of actions, so concrete runs are evaluated and general ones are reasoned
about by induction.

`Reaches allowed` restricts runs to steps meeting a condition on the action and
on the state before it.  The rules below are the only place where an induction
over runs is done.
-/

namespace UnboundWasm.Lib

universe u v w

/-- A deterministic step function once the action is fixed. `none` means that
the action is not enabled. -/
structure Machine (State : Type u) (Action : Type v) where
  initial : State
  step : State → Action → Option State

namespace Machine

variable {State : Type u} {Action : Type v} (machine : Machine State Action)

/-- Execute a list of actions, failing at the first one that is not enabled or
does not meet the condition. -/
def runWhen (allowed : State → Action → Prop)
    [∀ state action, Decidable (allowed state action)] :
    State → List Action → Option State
  | state, [] => some state
  | state, action :: actions =>
      if allowed state action then
        match machine.step state action with
        | none => none
        | some next => runWhen allowed next actions
      else
        none

/-- The condition met by every step. -/
def always : State → Action → Prop := fun _ _ => True

instance (state : State) (action : Action) : Decidable (always state action) :=
  inferInstanceAs (Decidable True)

/-- Execute a list of actions, failing at the first one that is not enabled. -/
def run : State → List Action → Option State := machine.runWhen always

/-- One step whose action meets a condition in the state before it. -/
def Next (allowed : State → Action → Prop) (before after : State) : Prop :=
  ∃ action, allowed before action ∧ machine.step before action = some after

/-- A run all of whose steps meet a condition. -/
def Reaches (allowed : State → Action → Prop) : State → State → Prop :=
  Relation.ReflTransGen (machine.Next allowed)

/-- States of unrestricted runs from the initial state. -/
def Reachable (state : State) : Prop :=
  machine.Reaches always machine.initial state

variable {machine}

namespace Reaches

variable {allowed : State → Action → Prop} {start state next : State}

theorem refl (state : State) : machine.Reaches allowed state state :=
  Relation.ReflTransGen.refl

/-- Extend a run by one more step. -/
theorem step (reaches : machine.Reaches allowed start state) {action : Action}
    (meets : allowed state action)
    (stepped : machine.step state action = some next) :
    machine.Reaches allowed start next :=
  Relation.ReflTransGen.tail reaches ⟨action, meets, stepped⟩

theorem trans (first : machine.Reaches allowed start state)
    (second : machine.Reaches allowed state next) :
    machine.Reaches allowed start next :=
  Relation.ReflTransGen.trans first second

/-- The invariant rule: what every allowed step preserves holds at the end of
every allowed run. -/
theorem invariant {holds : State → Prop}
    (preserved : ∀ before action after, holds before → allowed before action →
      machine.step before action = some after → holds after)
    (reaches : machine.Reaches allowed start state) (base : holds start) :
    holds state := by
  induction reaches with
  | refl => exact base
  | tail _ stepped ih =>
      obtain ⟨action, meets, stepped⟩ := stepped
      exact preserved _ action _ ih meets stepped

/-- What one move keeps, any number of moves keeps. -/
theorem kept_of_moves {Abstract : Type w} {move : Abstract → Abstract → Prop}
    {holds : Abstract → Prop}
    (kept : ∀ before after, holds before → move before after → holds after)
    {before after : Abstract} (moves : Relation.ReflTransGen move before after)
    (held : holds before) : holds after := by
  induction moves with
  | refl => exact held
  | tail _ moved ih => exact kept _ _ ih moved

/-- The simulation rule: when every allowed step is matched by moves of an
abstract system, the invariants of those moves hold at the end of every allowed
run. -/
theorem simulation {Abstract : Type w} (view : State → Abstract) (holds : Abstract → Prop)
    {move : Abstract → Abstract → Prop}
    (kept : ∀ before after, holds before → move before after → holds after)
    (matched : ∀ before action after, holds (view before) → allowed before action →
      machine.step before action = some after →
      Relation.ReflTransGen move (view before) (view after))
    (reaches : machine.Reaches allowed start state) (base : holds (view start)) :
    holds (view state) := by
  have preserved : ∀ before action after, holds (view before) → allowed before action →
      machine.step before action = some after → holds (view after) := by
    intro before action after held meets stepped
    exact kept_of_moves kept (matched before action after held meets stepped) held
  have carried := invariant preserved reaches base
  exact carried

end Reaches

/-- An executed list of actions is a run. -/
theorem reaches_of_runWhen {allowed : State → Action → Prop}
    [∀ state action, Decidable (allowed state action)]
    {start state : State} {actions : List Action}
    (ran : machine.runWhen allowed start actions = some state) :
    machine.Reaches allowed start state := by
  induction actions generalizing start with
  | nil =>
      simp only [runWhen, Option.some.injEq] at ran
      subst state
      exact Reaches.refl start
  | cons action actions ih =>
      simp only [runWhen] at ran
      split at ran
      next meets =>
        cases stepped : machine.step start action with
        | none => simp [stepped] at ran
        | some next =>
            rw [stepped] at ran
            have first : machine.Reaches allowed start next :=
              (Reaches.refl start).step meets stepped
            exact first.trans (ih ran)
      next => cases ran

theorem reaches_of_run {start state : State} {actions : List Action}
    (ran : machine.run start actions = some state) :
    machine.Reaches always start state :=
  reaches_of_runWhen ran

/-- The lockstep rule: when another machine follows every allowed step, it follows every executed
list of actions. -/
theorem exists_runWhen {Other : Type w} {other : Machine Other Action}
    {allowed : State → Action → Prop} [∀ state action, Decidable (allowed state action)]
    {otherAllowed : Other → Action → Prop} [∀ state action, Decidable (otherAllowed state action)]
    {related : State → Other → Prop}
    (followed : ∀ state otherState action next, related state otherState → allowed state action →
      machine.step state action = some next → otherAllowed otherState action ∧
        ∃ otherNext, other.step otherState action = some otherNext ∧ related next otherNext)
    {start state : State} {otherStart : Other} {actions : List Action}
    (base : related start otherStart) (ran : machine.runWhen allowed start actions = some state) :
    ∃ otherState, other.runWhen otherAllowed otherStart actions = some otherState ∧
      related state otherState := by
  induction actions generalizing start otherStart with
  | nil =>
      cases ran
      exact ⟨otherStart, rfl, base⟩
  | cons action actions ih =>
      simp only [runWhen] at ran ⊢
      split at ran
      next meets =>
        cases stepped : machine.step start action with
        | none => simp [stepped] at ran
        | some next =>
            rw [stepped] at ran
            obtain ⟨otherMeets, otherNext, otherStepped, kept⟩ :=
              followed start otherStart action next base meets stepped
            simp only [if_pos otherMeets, otherStepped]
            exact ih kept ran
      next => cases ran

/-- An invariant of every step holds in every reachable state. -/
theorem Reachable.invariant {holds : State → Prop} {state : State}
    (preserved : ∀ before action after, holds before →
      machine.step before action = some after → holds after)
    (reachable : machine.Reachable state) (base : holds machine.initial) :
    holds state :=
  Reaches.invariant
    (fun before action after held (_ : always before action) stepped =>
      preserved before action after held stepped) reachable base

/-- The measure rule: where every step lowers a measure, there is a run from every state that
ends where no step is left, and it is no longer than the measure. -/
theorem exists_run_to_end {holds : State → Prop} (measure : State → Nat)
    (lower : ∀ before action after, holds before → machine.step before action = some after →
      holds after ∧ measure after < measure before)
    {start : State} (base : holds start) :
    ∃ actions final, machine.run start actions = some final ∧ actions.length ≤ measure start ∧
      holds final ∧ ∀ action, machine.step final action = none := by
  induction size : measure start using Nat.strongRecOn generalizing start with
  | ind size ih =>
      by_cases goes : ∃ action next, machine.step start action = some next
      · obtain ⟨action, next, stepped⟩ := goes
        obtain ⟨kept, lowered⟩ := lower start action next base stepped
        obtain ⟨actions, final, ran, short, held, ended⟩ := ih _ (size ▸ lowered) kept rfl
        refine ⟨action :: actions, final, ?_, ?_, held, ended⟩
        · simp only [run, runWhen, always, if_true, stepped]
          exact ran
        · rw [List.length_cons]
          omega
      · refine ⟨[], start, rfl, Nat.zero_le _, base, ?_⟩
        intro action
        apply Option.eq_none_iff_forall_ne_some.mpr
        intro next stepped
        exact goes ⟨action, next, stepped⟩

section Forever

/-- A run without end. -/
structure Forever (machine : Machine State Action) (start : State) where
  state : Nat → State
  action : Nat → Action
  starts : state 0 = start
  steps : ∀ time, machine.step (state time) (action time) = some (state (time + 1))

variable {start : State}

theorem Forever.invariant {holds : State → Prop}
    (preserved : ∀ before action after, holds before →
      machine.step before action = some after → holds after)
    (run : machine.Forever start) (base : holds start) (time : Nat) : holds (run.state time) := by
  induction time with
  | zero =>
      rw [run.starts]
      exact base
  | succ time ih => exact preserved _ _ _ ih (run.steps time)

/-- The ranking rule: a rank that sinks again and again, and rises in certain steps only, is
raised again and again. -/
theorem Forever.raised_again (run : machine.Forever start) (rank : State → Nat)
    {raises sinks : Nat → Prop}
    (kept : ∀ time, ¬ raises time → rank (run.state (time + 1)) ≤ rank (run.state time))
    (lower : ∀ time, ¬ raises time → sinks time →
      rank (run.state (time + 1)) < rank (run.state time))
    (again : ∀ time, ∃ later ≥ time, sinks later) (time : Nat) :
    ∃ later ≥ time, raises later := by
  apply Classical.byContradiction
  intro never
  have quiet (later : Nat) (after : time ≤ later) : ¬ raises later :=
    fun raised => never ⟨later, after, raised⟩
  have falling (later steps : Nat) (after : time ≤ later) :
      rank (run.state (later + steps)) ≤ rank (run.state later) := by
    induction steps with
    | zero => exact Nat.le_refl _
    | succ steps ih => exact Nat.le_trans (kept (later + steps) (quiet _ (by omega))) ih
  -- Each of the steps that sink takes one more away.
  have sunk (amount : Nat) : ∃ later ≥ time,
      rank (run.state later) + amount ≤ rank (run.state time) := by
    induction amount with
    | zero => exact ⟨time, Nat.le_refl _, Nat.le_refl _⟩
    | succ amount ih =>
        obtain ⟨before, after, lowered⟩ := ih
        obtain ⟨turn, reached, sinks⟩ := again before
        have down := falling before (turn - before) after
        have strictly := lower turn (quiet turn (by omega)) sinks
        rw [show before + (turn - before) = turn by omega] at down
        exact ⟨turn + 1, by omega, by omega⟩
  obtain ⟨later, _, impossible⟩ := sunk (rank (run.state time) + 1)
  omega

end Forever

section Log

variable {Note : Type w} (note : State → Action → Option Note)

/-- The machine with a log of what `note` says about its steps, oldest first. -/
def logged (machine : Machine State Action) : Machine (State × List Note) Action where
  initial := (machine.initial, [])
  step := fun (state, log) action =>
    match machine.step state action with
    | none => none
    | some next => some (next, log ++ (note state action).toList)

/-- What is noted about a step from the state it leads to. -/
def seen (machine : Machine State Action) (note : State → Action → State → Option Note)
    (state : State) (action : Action) : Option Note :=
  (machine.step state action).bind (note state action)

theorem seen_of_step (note : State → Action → State → Option Note) {state next : State}
    {action : Action} (stepped : machine.step state action = some next) :
    machine.seen note state action = note state action next := by
  simp only [seen, stepped, Option.bind_some]

variable {note}

theorem step_of_logged {state next : State} {log more : List Note} {action : Action}
    (stepped : (machine.logged note).step (state, log) action = some (next, more)) :
    machine.step state action = some next ∧ more = log ++ (note state action).toList := by
  simp only [logged] at stepped
  split at stepped
  · cases stepped
  next stepped' =>
    cases stepped
    exact ⟨stepped', rfl⟩

theorem logged_step (note : State → Action → Option Note) {state next : State} {action : Action}
    (stepped : machine.step state action = some next) (log : List Note) :
    (machine.logged note).step (state, log) action =
      some (next, log ++ (note state action).toList) := by
  simp only [logged, stepped]

/-- A step of which nothing is noted. -/
theorem logged_quiet (note : State → Action → Option Note) {state next : State} {action : Action}
    (stepped : machine.step state action = some next) (quiet : note state action = none)
    (log : List Note) : (machine.logged note).step (state, log) action = some (next, log) := by
  rw [logged_step note stepped, quiet, Option.toList_none, List.append_nil]

/-- The invariant rule for a state with its log. -/
theorem Reaches.invariant_logged {allowed : State × List Note → Action → Prop}
    {start state : State} {log more : List Note} {holds : State → List Note → Prop}
    (preserved : ∀ before old action after, holds before old → allowed (before, old) action →
      machine.step before action = some after →
      holds after (old ++ (note before action).toList))
    (reaches : (machine.logged note).Reaches allowed (start, log) (state, more))
    (base : holds start log) : holds state more := by
  have kept : ∀ (before : State × List Note) (action : Action) (after : State × List Note),
      holds before.1 before.2 → allowed before action →
      (machine.logged note).step before action = some after → holds after.1 after.2 := by
    rintro ⟨before, old⟩ action ⟨after, new⟩ held meets stepped
    obtain ⟨advanced, rfl⟩ := step_of_logged stepped
    exact preserved before old action after held meets advanced
  have carried := Reaches.invariant kept reaches base
  exact carried

/-- An entry of a log that has grown by one is the last one, or it was there before. -/
theorem entry_of_append {log before later : List Note} {entry last : Note}
    (split : log ++ [last] = before ++ entry :: later) :
    (before = log ∧ entry = last ∧ later = []) ∨
      ∃ more, later = more ++ [last] ∧ log = before ++ entry :: more := by
  rcases List.eq_nil_or_concat later with rfl | ⟨more, final, rfl⟩
  · obtain ⟨rfl, same⟩ := List.append_inj' split rfl
    cases same
    exact .inl ⟨rfl, rfl, rfl⟩
  · rw [List.concat_eq_append, ← List.cons_append, ← List.append_assoc] at split
    obtain ⟨older, same⟩ := List.append_inj' split rfl
    cases same
    exact .inr ⟨more, List.concat_eq_append, older⟩

/-- The step that wrote an entry of the log, in the state and with the log it found. -/
theorem Reaches.written {allowed : State × List Note → Action → Prop} {start state : State}
    {before later : List Note} {entry : Note}
    (reaches :
      (machine.logged note).Reaches allowed (start, []) (state, before ++ entry :: later)) :
    ∃ middle action next, (machine.logged note).Reaches allowed (start, []) (middle, before) ∧
      machine.step middle action = some next ∧ note middle action = some entry := by
  generalize ended : (state, before ++ entry :: later) = final at reaches
  induction reaches generalizing state later with
  | refl => simp at ended
  | @tail middle final run stepped ih =>
      subst ended
      obtain ⟨action, _, stepped⟩ := stepped
      obtain ⟨advanced, logged⟩ := step_of_logged stepped
      cases written : note middle.1 action with
      | none =>
          rw [written, Option.toList_none, List.append_nil] at logged
          exact ih (by rw [logged])
      | some last =>
          rw [written, Option.toList_some] at logged
          rcases entry_of_append logged.symm with ⟨rfl, rfl, -⟩ | ⟨more, -, older⟩
          · exact ⟨middle.1, action, state, run, advanced, written⟩
          · exact ih (by rw [← older])

/-- Logging does not stand in the way of a run. -/
theorem exists_logged {allowed : State → Action → Prop} {start state : State}
    (reaches : machine.Reaches allowed start state) (log : List Note) :
    ∃ more, (machine.logged note).Reaches (fun state action => allowed state.1 action)
      (start, log) (state, more) := by
  induction reaches with
  | refl => exact ⟨log, Reaches.refl _⟩
  | @tail middle _ _ stepped ih =>
      obtain ⟨more, before⟩ := ih
      obtain ⟨action, meets, stepped⟩ := stepped
      exact ⟨more ++ (note middle action).toList, before.step meets (logged_step note stepped more)⟩

end Log

end Machine

end UnboundWasm.Lib
