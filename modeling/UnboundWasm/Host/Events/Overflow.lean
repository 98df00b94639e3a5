import UnboundWasm.Host.Events.Accounting

/-!
# An overflow and the call under way

After an overflow the guest's view of its sockets cannot be trusted.  A `ResolveAll`
that takes the `done` case of its wait gives up and closes the instance.  But the wait
may as well go on with what is still buffered, and then the call can end as if nothing
had happened.
-/

namespace UnboundWasm.Host.Events

open UnboundWasm.Lib
open UnboundWasm.Host.Sockets (HostEvent)
open UnboundWasm.Host.Resolve (Entry)

/-- A `ResolveAll` that leaves its wait keeps closing the instance. -/
theorem shutting_run {parser : MessageParser} {queries : List Resolve.Query} {left t : State}
    {log more : List Note} (shutting : Resolve.Shutting left.resolve)
    (run : (accounts parser queries).Reaches Within (left, log) (t, more)) :
    Resolve.Shutting t.resolve := by
  have kept : ∀ (before : State) (old : List Note) (action : Action) (after : State),
      Resolve.Shutting before.resolve → Within (before, old) action →
      (channel parser queries).step before action = some after →
      Resolve.Shutting after.resolve := by
    intro before old action after held within stepped
    rcases resolve_of_step within stepped with unchanged | ⟨inner, inside⟩
    · rw [unchanged]
      exact held
    · exact held.step inside
  have carried := Machine.Reaches.invariant_logged kept run shutting
  exact carried

/-- The two cases of the wait that do not receive. -/
def Exits (action : Resolve.Action) : Prop := action = .done ∨ ∃ err, action = .ctxDone err

/-- Where an exit after an overflow leads. -/
theorem leaving_of_exit {parser : MessageParser} {s left : State} {p : Nat} {err : Error}
    {exit : Resolve.Action} (waiting : s.resolve.pc = .select p)
    (overflowed : s.resolve.inst.cause = some err) (exits : Exits exit)
    (stepped : s.step parser (.resolve exit) = some left) :
    (∃ reported, Resolve.Leaving s.resolve.entries reported left.resolve) ∧
      Resolve.Shutting left.resolve := by
  rcases exits with rfl | ⟨reported, rfl⟩
  · simp only [State.step, State.resolveStep] at stepped
    split at stepped
    · cases stepped
    next resolve advanced =>
      cases stepped
      refine ⟨⟨_, .of_done waiting advanced⟩, ?_⟩
      simp only [Resolve.State.step, Resolve.State.resolveStep, waiting, Resolve.State.stateErr,
        overflowed] at advanced
      split at advanced
      · cases advanced
      · cases advanced
        exact .inr ⟨err, p, rfl⟩
  · simp only [State.step, State.resolveStep] at stepped
    split at stepped
    · cases stepped
    next resolve advanced =>
      cases stepped
      refine ⟨⟨_, .of_ctxDone waiting advanced⟩, ?_⟩
      simp only [Resolve.State.step, Resolve.State.resolveStep, waiting] at advanced
      cases advanced
      exact .inr ⟨reported, p, rfl⟩

/-- When the wait at which an overflow is visible takes its `done` or its context case,
no further event is received, nothing that is unsettled gets a result, and the instance
is closed when `ResolveAll` returns. -/
theorem overflow_exit_fatal (parser : MessageParser) (queries : List Resolve.Query)
    {s left : State} {log noted : List Note} {p : Nat} {exit : Resolve.Action}
    (waiting : s.resolve.pc = .select p)
    (overflowed : s.resolve.inst.cause = some errEventQueueOverflow) (exits : Exits exit)
    (stepped : (accounts parser queries).step (s, log) (.resolve exit) = some (left, noted)) :
    ∀ t more, (accounts parser queries).Reaches Within (left, noted) (t, more) →
      receivedIn more = receivedIn log ∧
      (∀ (n : Nat) (before after : Entry), s.resolve.entries[n]? = some before →
        before.unsettled = true → t.resolve.entries[n]? = some after → after.result = none) ∧
      ∀ ret, t.resolve.pc = .returned ret → t.resolve.inst.closed = true := by
  intro t more run
  obtain ⟨advanced, rfl⟩ := Machine.step_of_logged stepped
  obtain ⟨⟨reported, leaving⟩, shutting⟩ := leaving_of_exit waiting overflowed exits advanced
  obtain ⟨out, received⟩ := leaving_run leaving run
  refine ⟨?_, fun n before after old unsettled new => out.result_eq_none old unsettled new, ?_⟩
  · rw [received, receivedIn_append, Machine.seen_of_step _ advanced, receivedIn_noted (by simp),
      List.append_nil]
  · intro ret ended
    rcases shutting_run shutting run with closed | ⟨err, q, here⟩
    · exact closed
    · rw [ended] at here
      cases here

section Survival

variable (parser : MessageParser) (queries : List Resolve.Query) (event : HostEvent) {s : State}

/-- A call of `enqueue` with room in the channel. -/
theorem exists_enqueued (room : s.events.length < Sockets.State.eventCapacity) :
    ∃ senders, (channel parser queries).Reaches Machine.always s
      { s with events := s.events ++ [event], senders := senders } := by
  let called : State := { s with senders := s.senders.alloc ⟨event, .select⟩ }
  have calls : (channel parser queries).step s (.enqueue event) = some called := rfl
  have sends : (channel parser queries).step called (.sender s.senders.size false) =
      some ({ called with events := s.events ++ [event] }.senderGoto s.senders.size .returned) := by
    simp [called, channel, State.step, State.senderStep, State.select, State.sends, room]
  have reached : (channel parser queries).Reaches Machine.always s called :=
    (Machine.Reaches.refl s).step trivial calls
  exact ⟨_, reached.step trivial sends⟩

/-- Any number of events fits into the channel up to its capacity. -/
theorem exists_filled (count : Nat) (room : s.events.length + count ≤ Sockets.State.eventCapacity) :
    ∃ senders, (channel parser queries).Reaches Machine.always s
      { s with events := s.events ++ List.replicate count event, senders := senders } := by
  induction count generalizing s with
  | zero =>
      refine ⟨s.senders, ?_⟩
      rw [List.replicate_zero, List.append_nil]
      exact Machine.Reaches.refl s
  | succ count ih =>
      obtain ⟨senders, first⟩ := exists_enqueued parser queries event (s := s) (by omega)
      have fits : (s.events ++ [event]).length + count ≤ Sockets.State.eventCapacity := by
        rw [List.length_append, List.length_singleton]
        omega
      obtain ⟨others, rest⟩ :=
        ih (s := { s with events := s.events ++ [event], senders := senders }) fits
      rw [List.append_assoc] at rest
      exact ⟨others, first.trans rest⟩

/-- One more call of `enqueue` shuts the instance down. -/
theorem exists_overflowed (full : s.events.length = Sockets.State.eventCapacity)
    (idle : s.resolve.inst.once = .idle) :
    ∃ senders, (channel parser queries).Reaches Machine.always s { s with
      resolve := { s.resolve with
        inst := { s.resolve.inst with once := .finished, cause := some errEventQueueOverflow }
        failing := false }
      senders := senders } := by
  let ref := s.senders.size
  let called : State := { s with senders := s.senders.alloc ⟨.timer 0, .select⟩ }
  let failed : State := called.senderGoto ref .fail
  let torn : State := { failed with resolve := { s.resolve with
    inst := s.resolve.inst.beginShutdown (some errEventQueueOverflow)
    failing := true } }.senderGoto ref .teardown
  have calls : (channel parser queries).step s (.enqueue (.timer 0)) = some called := rfl
  have drops : (channel parser queries).step called (.sender ref false) = some failed := by
    simp [called, failed, ref, channel, State.step, State.senderStep, State.select, State.sends,
      State.done, full, idle]
  have fails : (channel parser queries).step failed (.sender ref false) = some torn := by
    simp [called, failed, torn, ref, channel, State.step, State.senderStep, State.senderGoto,
      Resolve.State.interfere, idle]
  have tears : (channel parser queries).step torn (.sender ref false) = some ({ torn with
      resolve := { s.resolve with
        inst := { s.resolve.inst with once := .finished, cause := some errEventQueueOverflow }
        failing := false } }.senderGoto ref .returned) := by
    simp [called, failed, torn, ref, channel, State.step, State.senderStep, State.senderGoto,
      Resolve.State.interfere, Resolve.Instance.beginShutdown]
  have reached : (channel parser queries).Reaches Machine.always s torn :=
    (((Machine.Reaches.refl s).step trivial calls).step trivial drops).step trivial fails
  exact ⟨_, reached.step trivial tears⟩

end Survival

/-- Where `untilWait` leads. -/
def waiting : Resolve.State where
  inst := .new
  other := none
  sweep := none
  failing := false
  entries := [⟨⟨[97], 1⟩, none, none, [97, 46], 1⟩]
  pending := 1
  pc := .select 128
  failed := []

/-- The same with the instance shut down by an overflow. -/
def interrupted : Resolve.State :=
  { waiting with inst := { waiting.inst with
    once := .finished, cause := some errEventQueueOverflow } }

/-- The channel fills up during the wait, and one event too many arrives. -/
theorem exists_interrupted :
    ∃ rest senders, (channel emptyParser [⟨[97], 1⟩]).Reachable
      ⟨interrupted, .timer 0 :: rest, senders⟩ := by
  have arrives : (channel emptyParser [⟨[97], 1⟩]).run (.initial [⟨[97], 1⟩]) untilWait =
      some ⟨waiting, [], .empty ⟨.timer 0, .returned⟩⟩ := rfl
  obtain ⟨senders, filled⟩ := exists_filled emptyParser [⟨[97], 1⟩] (.timer 0)
    (s := ⟨waiting, [], .empty ⟨.timer 0, .returned⟩⟩) Sockets.State.eventCapacity (Nat.le_refl _)
  obtain ⟨others, overflowed⟩ := exists_overflowed emptyParser [⟨[97], 1⟩]
    (s := ⟨waiting, [] ++ List.replicate Sockets.State.eventCapacity (.timer 0), senders⟩)
    (List.length_replicate ..) rfl
  exact ⟨_, _, ((Machine.reaches_of_run arrives).trans filled).trans overflowed⟩

theorem overflow_exit_fatal_done :
    ∃ s left noted, (channel emptyParser [⟨[97], 1⟩]).Reachable s ∧
      s.resolve.inst.cause = some errEventQueueOverflow ∧
      (accounts emptyParser [⟨[97], 1⟩]).step (s, []) (.resolve .done) = some (left, noted) ∧
      ∀ t more, (accounts emptyParser [⟨[97], 1⟩]).Reaches Within (left, noted) (t, more) →
        ∀ ret, t.resolve.pc = .returned ret → t.resolve.inst.closed = true := by
  obtain ⟨rest, senders, reachable⟩ := exists_interrupted
  obtain ⟨left, noted, stepped⟩ : ∃ left noted, (accounts emptyParser [⟨[97], 1⟩]).step
      (⟨interrupted, .timer 0 :: rest, senders⟩, []) (.resolve .done) = some (left, noted) :=
    ⟨_, _, rfl⟩
  refine ⟨_, left, noted, reachable, rfl, stepped, ?_⟩
  intro t more run
  exact (overflow_exit_fatal emptyParser [⟨[97], 1⟩] rfl rfl (.inl rfl) stepped t more run).2.2

/-- The guest takes one more event, and `result_get` finds the answer. -/
def settling : List Action :=
  [.resolve (.call (.ok (0, Resolve.nxDomainMemory))),
   .resolve (.call (.ok (1, Resolve.nxDomainMemory))), .resolve .step,
   .resolve (.call (.ok (0, Resolve.nxDomainMemory))), .resolve .step,
   .resolve (.call (.ok (0, Resolve.nxDomainMemory))), .resolve .step]

/-- With the overflow visible at a wait, the wait receives one of the buffered events, it
is dispatched, the query settles with a result, and `ResolveAll` returns on an instance
that is not closed. -/
theorem overflow_survived :
    ∃ s next t ret,
      (channel emptyParser [⟨[97], 1⟩]).Reachable s ∧ (∃ p, s.resolve.pc = .select p) ∧
      s.done = true ∧ s.resolve.inst.cause = some errEventQueueOverflow ∧
      s.resolve.entries.map Entry.unsettled = [true] ∧
      (channel emptyParser [⟨[97], 1⟩]).step s .receive = some next ∧
      (∃ p event, next.resolve.pc = .dispatch p event) ∧
      (channel emptyParser [⟨[97], 1⟩]).run next settling = some t ∧
      t.resolve.pc = .returned ret ∧
      (t.resolve.entries.map fun e => e.result.isSome) = [true] ∧
      t.resolve.inst.closed = false := by
  obtain ⟨rest, senders, reachable⟩ := exists_interrupted
  exact ⟨_, _, _, _, reachable, ⟨_, rfl⟩, rfl, rfl, rfl, rfl, ⟨_, _, rfl⟩, rfl, rfl, rfl, rfl⟩

end UnboundWasm.Host.Events
