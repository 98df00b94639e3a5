import Mathlib.Data.List.Induction
import Mathlib.Data.List.Perm.Basic
import Mathlib.Data.List.Nodup
import UnboundWasm.Lib.Machine

/-!
# Pools addressed by index

A pool hands out its members one at a time, each chosen by an index into the list of those that
are in, and takes them back.  The order of that list is the pool's own affair: what is in and
what is out make up the members, every index below the count stands for a member of its own, and
two pools with the same members can do the same things.
-/

namespace UnboundWasm.Lib

universe u v w

/-- What happens to a member. -/
inductive PoolEvent (Member : Type v) where
  | taken (member : Member)
  | returned (member : Member)
  deriving DecidableEq, Repr

/-- Take the member at an index, or put one back. -/
inductive PoolAction (Member : Type v) where
  | take (index : Nat)
  | put (member : Member)
  deriving DecidableEq, Repr

/-- The members that are out after some events. -/
def outside {Member : Type v} [DecidableEq Member] (log : List (PoolEvent Member)) : List Member :=
  log.foldl (fun out event =>
    match event with
    | .taken member => member :: out
    | .returned member => out.erase member) []

/-- The indices below a count stand for the members that are in, one each. -/
structure Selects {State : Type u} {Member : Type v} (take : Nat → Option (Member × State))
    (count : Nat) (inside : Member → Prop) : Prop where
  found : ∀ index < count, ∃ member next, take index = some (member, next) ∧ inside member
  unique : ∀ member, inside member →
    ∃! index, index < count ∧ ∃ next, take index = some (member, next)

/-- Between two times that a member is taken, it is returned. -/
def ReturnedBetween {Member : Type v} (log : List (PoolEvent Member)) : Prop :=
  ∀ before between after member,
    log = before ++ .taken member :: (between ++ .taken member :: after) →
      .returned member ∈ between

/-- A way to keep a pool of certain members. -/
structure Pool (State : Type u) {Member : Type v} [DecidableEq Member] (all : List Member) where
  valid : State → Prop
  initial : State
  available : State → List Member
  count : State → Nat
  take : State → Nat → Option (Member × State)
  put : State → Member → State
  /-- At first everything is in. -/
  full : valid initial ∧ (available initial).Perm all
  counted {state : State} : valid state → count state = (available state).length
  /-- An index stands for the member at it, which is the only one that goes. -/
  taken {state : State} {index : Nat} (ok : valid state)
    (inside : index < (available state).length) :
    ∃ next, take state index = some ((available state)[index], next) ∧ valid next ∧
      (available next).Perm ((available state).erase (available state)[index])
  /-- A member that is out is in again, and no other. -/
  returned {state : State} {member : Member} : valid state → member ∈ all →
    member ∉ available state → (available state).length < all.length →
    valid (put state member) ∧ (available (put state member)).Perm (member :: available state)

namespace Pool

variable {State : Type u} {Member : Type v} [DecidableEq Member] {all : List Member}

/-- The pool as a machine. -/
def machine (pool : Pool State all) : Machine State (PoolAction Member) where
  initial := pool.initial
  step := fun state action =>
    match action with
    | .take index => (pool.take state index).map Prod.snd
    | .put member => some (pool.put state member)

/-- What a step does to a member. -/
def event (pool : Pool State all) (state : State) : PoolAction Member → Option (PoolEvent Member)
  | .take index => (pool.take state index).map fun taken => .taken taken.1
  | .put member => some (.returned member)

/-- Indices are below the count, and only what is out is put back. -/
def Proper (pool : Pool State all) (state : State × List (PoolEvent Member)) :
    PoolAction Member → Prop
  | .take index => index < pool.count state.1
  | .put member => member ∈ outside state.2

/-- The states of proper runs, with what happened. -/
def Reached (pool : Pool State all) (state : State) (log : List (PoolEvent Member)) : Prop :=
  (pool.machine.logged pool.event).Reaches pool.Proper (pool.initial, []) (state, log)

theorem outside_taken (log : List (PoolEvent Member)) (member : Member) :
    outside (log ++ [.taken member]) = member :: outside log := by
  simp [outside]

theorem outside_returned (log : List (PoolEvent Member)) (member : Member) :
    outside (log ++ [.returned member]) = (outside log).erase member := by
  simp [outside]

/-- What is in and what is out make up the members. -/
structure Kept (pool : Pool State all) (state : State) (log : List (PoolEvent Member)) : Prop where
  valid : pool.valid state
  split : (pool.available state ++ outside log).Perm all

variable {pool : Pool State all} {state next : State} {log : List (PoolEvent Member)}

theorem Kept.initial (pool : Pool State all) : pool.Kept pool.initial [] := by
  obtain ⟨valid, everything⟩ := pool.full
  refine ⟨valid, ?_⟩
  rwa [outside, List.foldl_nil, List.append_nil]

/-- Taking a member moves it out. -/
theorem Kept.take (kept : pool.Kept state log) {index : Nat}
    (inside : index < (pool.available state).length) :
    ∃ next, pool.take state index = some ((pool.available state)[index], next) ∧
      pool.Kept next (log ++ [.taken (pool.available state)[index]]) := by
  obtain ⟨next, taken, valid, rest⟩ := pool.taken kept.valid inside
  refine ⟨next, taken, valid, ?_⟩
  rw [outside_taken]
  calc List.Perm (pool.available next ++ (pool.available state)[index] :: outside log)
        ((pool.available state)[index] :: (pool.available next ++ outside log)) :=
          List.perm_middle
    List.Perm _ ((pool.available state)[index] ::
        ((pool.available state).erase (pool.available state)[index] ++ outside log)) :=
          (rest.append_right _).cons _
    List.Perm _ (pool.available state ++ outside log) := by
          rw [← List.cons_append]
          exact (List.perm_cons_erase (List.getElem_mem inside)).symm.append_right _
    List.Perm _ all := kept.split

theorem Kept.count (kept : pool.Kept state log) :
    pool.count state + (outside log).length = all.length := by
  rw [pool.counted kept.valid, ← List.length_append, kept.split.length_eq]

/-- What is taken and not returned is out. -/
theorem mem_outside_of_taken {before between : List (PoolEvent Member)} {member : Member}
    (kept : .returned member ∉ between) :
    member ∈ outside (before ++ .taken member :: between) := by
  induction between using List.reverseRecOn with
  | nil =>
      rw [outside_taken]
      exact List.mem_cons_self
  | append_singleton between event ih =>
      rw [List.mem_append, List.mem_singleton, not_or] at kept
      rw [← List.cons_append, ← List.append_assoc]
      cases event with
      | taken other =>
          rw [outside_taken]
          exact List.mem_cons_of_mem _ (ih kept.1)
      | returned other =>
          have apart : member ≠ other := fun same => kept.2 (by rw [same])
          rw [outside_returned, List.mem_erase_of_ne apart]
          exact ih kept.1

theorem returnedBetween_concat {event : PoolEvent Member} (held : ReturnedBetween log)
    (fresh : ∀ member, event = .taken member → member ∉ outside log) :
    ReturnedBetween (log ++ [event]) := by
  intro before between after member split
  rcases List.eq_nil_or_concat after with rfl | ⟨after, last, rfl⟩
  · by_contra kept
    rw [← List.cons_append, ← List.append_assoc] at split
    obtain ⟨rfl, same⟩ := List.append_inj' split rfl
    exact fresh member (List.singleton_inj.mp same) (mem_outside_of_taken kept)
  · have regrouped : log ++ [event] =
        before ++ .taken member :: (between ++ .taken member :: after) ++ [last] := by
      rw [split]
      simp
    exact held before between after member (List.append_inj' regrouped rfl).1

section Distinct

variable (distinct : all.Nodup)
include distinct

theorem Kept.nodup (kept : pool.Kept state log) :
    (pool.available state).Nodup ∧ (outside log).Nodup ∧
      (pool.available state).Disjoint (outside log) :=
  List.nodup_append'.mp ((kept.split.nodup_iff).mpr distinct)

/-- What is in are the members that are not out. -/
theorem Kept.mem_available (kept : pool.Kept state log) {member : Member} :
    member ∈ pool.available state ↔ member ∈ all ∧ member ∉ outside log := by
  rw [← kept.split.mem_iff, List.mem_append]
  have apart := (kept.nodup distinct).2.2
  constructor
  · intro inside
    exact ⟨.inl inside, apart inside⟩
  · rintro ⟨inside | out, notOut⟩
    · exact inside
    · exact absurd out notOut

/-- Putting a member back moves it in. -/
theorem Kept.put (kept : pool.Kept state log) {member : Member} (out : member ∈ outside log) :
    pool.Kept (pool.put state member) (log ++ [.returned member]) := by
  have known : member ∈ all := kept.split.mem_iff.mp (List.mem_append_right _ out)
  have notIn : member ∉ pool.available state :=
    fun inside => (kept.nodup distinct).2.2 inside out
  have fewer : (pool.available state).length < all.length := by
    rw [← kept.split.length_eq, List.length_append]
    have some := List.length_pos_of_mem out
    omega
  obtain ⟨valid, more⟩ := pool.returned kept.valid known notIn fewer
  refine ⟨valid, ?_⟩
  rw [outside_returned]
  calc List.Perm (pool.available (pool.put state member) ++ (outside log).erase member)
        (member :: pool.available state ++ (outside log).erase member) := more.append_right _
    List.Perm _ (pool.available state ++ member :: (outside log).erase member) :=
          List.perm_middle.symm
    List.Perm _ (pool.available state ++ outside log) :=
          (List.perm_cons_erase out).symm.append_left _
    List.Perm _ all := kept.split

/-- A proper step takes out a member that is in, or puts in one that is out. -/
theorem Kept.step {action : PoolAction Member} (kept : pool.Kept state log)
    (proper : pool.Proper (state, log) action)
    (stepped : pool.machine.step state action = some next) :
    ∃ event, pool.event state action = some event ∧ pool.Kept next (log ++ [event]) ∧
      ((∃ member ∈ pool.available state, event = .taken member) ∨
        ∃ member ∈ outside log, event = .returned member) := by
  cases action with
  | take index =>
      have inside : index < (pool.available state).length := by
        rw [← pool.counted kept.valid]
        exact proper
      obtain ⟨found, taken, later⟩ := kept.take inside
      simp only [machine, taken, Option.map_some, Option.some.injEq] at stepped
      subst stepped
      refine ⟨.taken (pool.available state)[index], ?_, later, ?_⟩
      · rw [Pool.event, taken]
        rfl
      · exact .inl ⟨_, List.getElem_mem inside, rfl⟩
  | put member =>
      cases stepped
      exact ⟨.returned member, rfl, kept.put distinct proper, .inr ⟨member, proper, rfl⟩⟩

theorem kept_of_reached (reached : pool.Reached state log) : pool.Kept state log := by
  refine Machine.Reaches.invariant_logged ?_ reached (Kept.initial pool)
  intro before old action after kept proper stepped
  obtain ⟨event, noted, later, -⟩ := kept.step distinct proper stepped
  rwa [noted]

/-- Every member that is in has an index of its own. -/
theorem Kept.selects (kept : pool.Kept state log) :
    Selects (pool.take state) (pool.count state) fun member =>
      member ∈ all ∧ member ∉ outside log := by
  rw [pool.counted kept.valid]
  refine ⟨?_, ?_⟩
  · intro index below
    obtain ⟨next, taken, -⟩ := kept.take below
    exact ⟨_, next, taken, (kept.mem_available distinct).mp (List.getElem_mem below)⟩
  · intro member inside
    obtain ⟨index, below, rfl⟩ := List.getElem_of_mem ((kept.mem_available distinct).mpr inside)
    obtain ⟨next, taken, -⟩ := kept.take below
    refine ⟨index, ⟨below, next, taken⟩, ?_⟩
    rintro other ⟨otherBelow, otherNext, otherTaken⟩
    obtain ⟨found, same, -⟩ := kept.take otherBelow
    rw [same, Option.some.injEq, Prod.mk.injEq] at otherTaken
    exact ((kept.nodup distinct).1.getElem_inj_iff).mp otherTaken.1

/-- A member that is in can be taken. -/
theorem Reached.take (reached : pool.Reached state log) {member : Member}
    (inside : member ∈ pool.available state) :
    ∃ next, pool.Reached next (log ++ [.taken member]) := by
  obtain ⟨index, below, rfl⟩ := List.getElem_of_mem inside
  have kept := kept_of_reached distinct reached
  obtain ⟨next, taken, -⟩ := kept.take below
  have stepped : pool.machine.step state (.take index) = some next := by
    simp only [machine, taken, Option.map_some]
  have proper : pool.Proper (state, log) (.take index) := by
    rwa [Proper, pool.counted kept.valid]
  have further := Machine.Reaches.step reached proper (Machine.logged_step pool.event stepped log)
  rw [event, taken] at further
  exact ⟨next, further⟩

omit distinct in
theorem Reached.put (reached : pool.Reached state log) {member : Member}
    (out : member ∈ outside log) :
    pool.Reached (pool.put state member) (log ++ [.returned member]) := by
  have proper : pool.Proper (state, log) (.put member) := out
  exact Machine.Reaches.step reached proper (Machine.logged_step pool.event rfl log)

theorem returnedBetween_step (before : State) (old : List (PoolEvent Member))
    (action : PoolAction Member) (after : State)
    (both : pool.Kept before old ∧ ReturnedBetween old) (proper : pool.Proper (before, old) action)
    (stepped : pool.machine.step before action = some after) :
    pool.Kept after (old ++ (pool.event before action).toList) ∧
      ReturnedBetween (old ++ (pool.event before action).toList) := by
  obtain ⟨kept, held⟩ := both
  obtain ⟨event, noted, later, cause⟩ := kept.step distinct proper stepped
  rw [noted, Option.toList_some]
  refine ⟨later, returnedBetween_concat held ?_⟩
  rintro member rfl
  rcases cause with ⟨taken, inside, same⟩ | ⟨returned, -, same⟩
  · cases same
    exact ((kept.mem_available distinct).mp inside).2
  · cases same

/-- No member is taken twice without being returned between. -/
theorem returnedBetween_of_reached (reached : pool.Reached state log) : ReturnedBetween log := by
  have empty : ReturnedBetween ([] : List (PoolEvent Member)) := by
    intro before between after member split
    simp at split
  have both := Machine.Reaches.invariant_logged (returnedBetween_step distinct) reached
    ⟨Kept.initial pool, empty⟩
  exact both.2

/-- What one pool does in a step, another can do as well. -/
theorem alongside_step {Other : Type w} (other : Pool Other all) (before : State)
    (old : List (PoolEvent Member)) (action : PoolAction Member) (after : State)
    (both : pool.Kept before old ∧ ∃ otherState, other.Reached otherState old)
    (proper : pool.Proper (before, old) action)
    (stepped : pool.machine.step before action = some after) :
    pool.Kept after (old ++ (pool.event before action).toList) ∧
      ∃ otherState, other.Reached otherState (old ++ (pool.event before action).toList) := by
  obtain ⟨kept, otherState, otherReached⟩ := both
  obtain ⟨event, noted, later, cause⟩ := kept.step distinct proper stepped
  rw [noted, Option.toList_some]
  refine ⟨later, ?_⟩
  rcases cause with ⟨member, inside, rfl⟩ | ⟨member, out, rfl⟩
  · rw [kept.mem_available distinct,
      ← (kept_of_reached distinct otherReached).mem_available distinct] at inside
    exact otherReached.take distinct inside
  · exact ⟨_, otherReached.put out⟩

/-- Two pools of the same members can do the same things. -/
theorem exists_reached {Other : Type w} (other : Pool Other all)
    (reached : pool.Reached state log) : ∃ otherState, other.Reached otherState log := by
  have both := Machine.Reaches.invariant_logged (alongside_step distinct other) reached
    ⟨Kept.initial pool, other.initial, Machine.Reaches.refl _⟩
  exact both.2

end Distinct

end Pool

end UnboundWasm.Lib
