import UnboundWasm.Host.Resolve.Batch

/-!
# Failed guest calls and teardown

A guest that trapped, aborted or was interrupted is not to be called again, so a
failed call should close the instance.  `resolve_start`, `result_get`, `io_ready`
and `timer_fired` do; the errors of `alloc` are returned and those of `dealloc`
and `resolve_cancel` dropped with the instance left open.
-/

namespace UnboundWasm.Host.Resolve

open UnboundWasm.Lib

/-- What a `Close` has achieved before each of its stages. -/
def CloseStage.Reached (i : Instance) : CloseStage → Prop
  | .swap => True
  | .shutdown | .teardown => i.closed = true
  | .module => i.closed = true ∧ i.once = .finished

theorem CloseStage.Reached.later {before after : Instance} {stage : CloseStage}
    (reached : stage.Reached before) (later : before.Later after) : stage.Reached after := by
  cases stage with
  | swap => trivial
  | shutdown | teardown => exact later.closed reached
  | module => exact ⟨later.closed reached.1, later.finished reached.2⟩

theorem CloseStage.Moved.reached {i after : Instance} {stage next : CloseStage}
    (moved : stage.Moved i after (some next)) (reached : stage.Reached i) :
    next.Reached after := by
  cases moved with
  | first => rfl
  | begins => exact reached
  | passes finished => exact ⟨reached, finished⟩
  | tornDown => exact ⟨reached, rfl⟩

/-- Only the compare-and-swap sets `closed`, and nothing leads back to it. -/
theorem CloseStage.Moved.onward {i after : Instance} {stage : CloseStage}
    {next : Option CloseStage} (moved : stage.Moved i after next) :
    next ≠ some .swap ∧ (stage ≠ .swap → after.closed = i.closed) := by
  cases moved <;> simp [Instance.beginShutdown]

/-- A close ends with the instance torn down, unless it came second. -/
theorem CloseStage.Moved.ended {i after : Instance} {stage : CloseStage}
    (moved : stage.Moved i after none) (reached : stage.Reached i) :
    after.Torn ∨ (stage = .swap ∧ i.closed = true ∧ after = i) := by
  cases moved with
  | again closed => exact .inr ⟨rfl, closed, rfl⟩
  | dead => exact .inl ⟨reached.1, reached.2, rfl⟩

/-- The steps after which a failed call still closes the instance: no invoked
call fails whose error `ResolveAll` does not act on, and its `kill` does not
overtake a `Close` that another goroutine has under way. -/
def orderlyStep (s : State) : Action → Bool
  | .call (.error _) =>
      match s.pc with
      | .allocName _ | .allocResult | .callCancel _ _ | .freeName _ _ (.ok _) =>
          s.inst.modDead
      | .free p _ => p = 0 || s.inst.modDead
      | _ => true
  | .step =>
      match s.pc with
      | .closing .swap _ _ => s.other.isNone
      | _ => true
  | _ => true

def Orderly (s : State) (action : Action) : Prop := orderlyStep s action = true

instance (s : State) (action : Action) : Decidable (Orderly s action) :=
  inferInstanceAs (Decidable (_ = true))

/-- A kill is under way or comes next. -/
def Killing (pc : Pc) : Prop :=
  (∃ stage err p, pc = .closing stage err p) ∨ ∃ n p err, pc = .freeName n p (.error err)

/-- What a step of `ResolveAll` outside of a close can do to the instance and the
log of failures. -/
structure Aside (s after : State) : Prop where
  inst : after.inst = s.inst
  other : after.other = s.other
  sweep : after.sweep = s.sweep
  outside : ∀ stage err p, s.pc ≠ .closing stage err p
  begins : ∀ stage err p, after.pc = .closing stage err p → stage = .swap
  failed : (after.failed = s.failed ∧ ¬ Killing s.pc) ∨ Killing after.pc

/-- Nothing is logged unless an invoked call failed. -/
theorem State.unlogged {s : State} {reply : Call} {fn : Export} {failed : List Export}
    (logged : s.log fn reply = { s with failed := failed })
    (unfailed : ∀ err, reply = .error err → s.inst.modDead = true) : failed = s.failed := by
  have same : s.log fn reply = s := by
    unfold State.log
    split
    next err alive =>
      rw [unfailed err rfl] at alive
      cases alive
    next => rfl
  exact (congrArg State.failed (same.symm.trans logged)).symm

theorem State.unfreed {s : State} {p : Nat} {reply : Call} {failed : List Export}
    (freed : s.free p reply = { s with failed := failed })
    (unfailed : ∀ err, reply = .error err → p = 0 ∨ s.inst.modDead = true) :
    failed = s.failed := by
  rw [State.free] at freed
  split at freed
  · exact (congrArg State.failed freed).symm
  next present =>
    exact State.unlogged freed fun err failed => (unfailed err failed).resolve_left present

/-- A call whose value is used did not fail. -/
theorem unfailed_of_call {modDead : Bool} {reply : Call} {out : Int}
    (called : call modDead reply = .ok out) : ∀ err, reply = .error err → modDead = true := by
  intro err failed
  subst failed
  cases modDead with
  | true => rfl
  | false => cases called

variable {parser : MessageParser} {action : Action}

/-- A failed call of `result_get` is fatal. -/
theorem unfailed_of_poll {modDead : Bool} {reply : Call} {p : Nat} {qname : Bytes} {qtype : Nat}
    {poll : Poll} (polled : pollResult parser modDead (asInt32 reply) p qname qtype = poll)
    (survived : ∀ err, poll ≠ .fatal err) : ∀ err, reply = .error err → modDead = true := by
  intro err failed
  subst failed
  cases modDead with
  | true => rfl
  | false => exact absurd polled.symm (survived _)

variable {s after : State}

/-- A failed call of an orderly step is followed by a kill, or is not logged. -/
theorem failed_of_ran (ran : State.Ran parser s action after) (orderly : Orderly s action)
    (outside : ∀ stage err p, s.pc ≠ .closing stage err p) :
    (after.failed = s.failed ∧ ¬ Killing s.pc) ∨ Killing after.pc := by
  cases ran with
  | closing here => exact absurd here (outside _ _ _)
  | ctxDone | doneFailed | dispatchFailed => exact .inr (.inl ⟨_, _, _, rfl⟩)
  | pollEnd here | pollWait here | pollSkip here | done here | event here | eventsClosed here =>
      exact .inl ⟨rfl, by simp [Killing, here]⟩
  | enter here =>
      refine .inl ⟨?_, by simp [Killing, here]⟩
      rw [State.enter]
      split
      · split <;> rfl
      · rfl
  | startNext here =>
      refine .inl ⟨?_, by simp [Killing, here]⟩
      rw [State.startNext]
      split <;> split <;> rfl
  | nameRefused here logged | allocName here logged | resultRefused here logged
  | allocResult here logged | callCancel here logged =>
      refine .inl ⟨State.unlogged logged ?_, by simp [Killing, here]⟩
      rintro err rfl
      simpa [Orderly, orderlyStep, here] using orderly
  | @callStart n p reply _ here logged =>
      cases called : call s.inst.modDead reply with
      | error err => exact .inr (.inr ⟨n, p, err, rfl⟩)
      | ok out =>
          exact .inl ⟨State.unlogged logged (unfailed_of_call called), by simp [Killing, here]⟩
  | @freeName n p out reply failed here freed =>
      cases out with
      | error err => exact .inr (.inl ⟨_, _, _, rfl⟩)
      | ok rid =>
          have same : failed = s.failed := by
            apply State.unfreed freed
            rintro err rfl
            exact .inr (by simpa [Orderly, orderlyStep, here] using orderly)
          refine .inl ⟨?_, by simp [Killing, here]⟩
          rw [State.started]
          split <;> exact same
  | pollCall here logged =>
      generalize polled : pollResult parser _ _ _ _ _ = poll
      cases poll with
      | fatal err => exact .inr (.inl ⟨_, _, _, rfl⟩)
      | pending | ready | failed =>
          exact .inl ⟨State.unlogged logged (unfailed_of_poll polled (by simp)),
            by simp [Killing, here]⟩
  | dispatch here logged called =>
      exact .inl ⟨State.unlogged logged (unfailed_of_call called), by simp [Killing, here]⟩
  | free here freed =>
      refine .inl ⟨State.unfreed freed ?_, by simp [Killing, here]⟩
      rintro err rfl
      simpa [Orderly, orderlyStep, here] using orderly
  | cancelNext here =>
      refine .inl ⟨?_, by simp [Killing, here]⟩
      rw [State.cancelNext]
      split
      · rfl
      · split <;> rfl

/-- Every step outside of a close leaves the instance alone, and acts on a failed
call if it is orderly. -/
theorem aside_of_ran (ran : State.Ran parser s action after) (orderly : Orderly s action) :
    Aside s after ∨ ∃ stage err p, s.pc = .closing stage err p ∧ action = .step ∧
      s.Closing stage err p after := by
  rcases State.own_of_ran ran with
    ⟨⟨entries, pending, pc, failed, whole, begins⟩, outside⟩ | closing
  · left
    have acted := failed_of_ran ran orderly outside
    subst whole
    exact ⟨rfl, rfl, rfl, outside, begins, acted⟩
  · exact .inr closing

/-- While `ResolveAll` runs: a `Close` has achieved what its stage says, a closed
instance is torn down or about to be, and so is one with a failed call. -/
structure Watched (s : State) : Prop where
  other : ∀ stage, s.other = some stage → stage.Reached s.inst ∧ stage ≠ .swap
  sweep : s.sweep ≠ some .swap
  own : ∀ stage err p, s.pc = .closing stage err p → stage.Reached s.inst
  closed : s.inst.closed = true → s.inst.Torn ∨ s.other ≠ none ∨
    ∃ stage err p, s.pc = .closing stage err p ∧ stage ≠ .swap
  failed : s.failed ≠ [] → s.inst.Torn ∨ Killing s.pc

theorem Watched.initial (queries : List Query) : Watched (State.initial queries) := by
  constructor
  case other => simp [State.initial]
  case sweep => simp [State.initial]
  case own => simp [State.initial]
  case closed => simp [State.initial, Instance.new]
  case failed => simp [State.initial]

theorem Watched.aside (watched : Watched s) (aside : Aside s after) : Watched after := by
  constructor
  case other =>
    rw [aside.inst, aside.other]
    exact watched.other
  case sweep =>
    rw [aside.sweep]
    exact watched.sweep
  case own =>
    intro stage err p here
    have swap := aside.begins stage err p here
    subst swap
    trivial
  case closed =>
    rw [aside.inst, aside.other]
    intro closed
    rcases watched.closed closed with torn | other | ⟨stage, err, p, here, _⟩
    · exact .inl torn
    · exact .inr (.inl other)
    · exact absurd here (aside.outside stage err p)
  case failed =>
    rw [aside.inst]
    intro failed
    rcases aside.failed with ⟨same, calm⟩ | killing
    · rw [same] at failed
      exact .inl ((watched.failed failed).resolve_right calm)
    · exact .inr killing

/-- A step of the kill itself. One that finds the instance closed finds it torn
down, because no other close is under way. -/
theorem Watched.closing {stage : CloseStage} {err : Error} {p : Nat} (watched : Watched s)
    (here : s.pc = .closing stage err p) (alone : stage = .swap → s.other = none)
    (closing : s.Closing stage err p after) : Watched after := by
  have reached := watched.own stage err p here
  have others {inst : Instance} (later : s.inst.Later inst) :
      ∀ stage, s.other = some stage → stage.Reached inst ∧ stage ≠ .swap := by
    intro stage under
    have before := watched.other stage under
    exact ⟨before.1.later later, before.2⟩
  cases closing with
  | @goesOn inst next moved =>
      constructor
      case other => exact others moved.later
      case sweep => exact watched.sweep
      case own =>
        intro stage err p at'
        cases at'
        exact moved.reached reached
      case closed =>
        intro _
        exact .inr (.inr ⟨next, err, p, rfl, fun swap => moved.onward.1 (congrArg some swap)⟩)
      case failed =>
        intro _
        exact .inr (.inl ⟨next, err, p, rfl⟩)
  | @ends inst moved =>
      have torn : inst.Torn := by
        rcases moved.ended reached with torn | ⟨swap, closed, same⟩
        · exact torn
        · subst same
          rcases watched.closed closed with torn | other | ⟨stage, err, p, at', onward⟩
          · exact torn
          · exact absurd (alone swap) other
          · rw [here] at at'
            cases at'
            exact absurd swap onward
      constructor
      case other => exact others moved.later
      case sweep => exact watched.sweep
      case own =>
        intro stage err p at'
        cases at'
      case closed =>
        intro _
        exact .inl torn
      case failed =>
        intro _
        exact .inl torn

/-- A step that leaves `closed` and the close under way alone. -/
theorem Watched.shared {inst : Instance} {sweep : Option CloseStage} {failing : Bool}
    (watched : Watched s) (later : s.inst.Later inst) (closed : inst.closed = s.inst.closed)
    (onward : sweep ≠ some .swap) :
    Watched { s with inst := inst, sweep := sweep, failing := failing } := by
  constructor
  case other =>
    intro stage under
    have before := watched.other stage under
    exact ⟨before.1.later later, before.2⟩
  case sweep => exact onward
  case own =>
    intro stage err p here
    exact (watched.own stage err p here).later later
  case closed =>
    intro isClosed
    exact (watched.closed (closed ▸ isClosed)).imp_left later.torn
  case failed =>
    intro failed
    exact (watched.failed failed).imp_left later.torn

/-- The `Close` of another goroutine carries the obligation until the module is
dead. -/
theorem Watched.close {inst : Instance} {next : Option CloseStage} (watched : Watched s)
    (moved : (s.other.getD .swap).Moved s.inst inst next) :
    Watched { s with inst := inst, other := next } := by
  have later := moved.later
  have reached : (s.other.getD .swap).Reached s.inst := by
    cases under : s.other with
    | none => trivial
    | some stage => exact (watched.other stage under).1
  constructor
  case sweep => exact watched.sweep
  case own =>
    intro stage err p here
    exact (watched.own stage err p here).later later
  case failed =>
    intro failed
    exact (watched.failed failed).imp_left later.torn
  case other =>
    intro stage under
    dsimp only at under
    subst under
    exact ⟨moved.reached reached, fun swap => moved.onward.1 (congrArg some swap)⟩
  case closed =>
    intro closed
    cases next with
    | some stage => exact .inr (.inl (by simp))
    | none =>
        rcases moved.ended reached with torn | ⟨swap, before, unchanged⟩
        · exact .inl torn
        · have idle : s.other = none := by
            cases under : s.other with
            | none => rfl
            | some stage =>
                rw [under] at swap
                exact absurd swap (watched.other stage under).2
          subst unchanged
          rcases watched.closed before with torn | other | own
          · exact .inl torn
          · exact absurd idle other
          · exact .inr (.inr own)

theorem Watched.interfere {what : Interference} (watched : Watched s)
    (stepped : s.interfere what = some after) : Watched after := by
  have later := (State.interfere_eq stepped).1
  cases State.interfered_of_step stepped with
  | close moved => exact watched.close moved
  | sweep moved =>
      have stage : s.sweep.getD .shutdown ≠ .swap := by
        cases under : s.sweep with
        | none => simp
        | some stage =>
            intro swap
            exact watched.sweep (under.trans (congrArg some swap))
      exact watched.shared later (moved.onward.2 stage) moved.onward.1
  | fail | failed => exact watched.shared later rfl watched.sweep

theorem Watched.ran (watched : Watched s) (orderly : Orderly s action)
    (ran : State.Ran parser s action after) : Watched after := by
  rcases aside_of_ran ran orderly with aside | ⟨stage, err, p, here, rfl, next⟩
  · exact watched.aside aside
  · apply watched.closing here _ next
    intro swap
    subst swap
    simpa [Orderly, orderlyStep, here] using orderly

theorem Watched.step (watched : Watched s) (orderly : Orderly s action)
    (stepped : s.step parser action = some after) : Watched after := by
  cases action with
  | interfere what => exact watched.interfere stepped
  | step | call | ctxDone | done | event | eventsClosed =>
      exact watched.ran orderly (State.ran_of_resolveStep stepped)

/-- What `ResolveAll` returns on a closed instance: `ErrClosed` for each query. -/
def closedReturn (queries : List Query) : Returned :=
  if queries = [] then .errClosed
  else .batch (queries.map fun _ => none) (queries.map fun query => ⟨query, .errClosed⟩)

theorem enter_of_closed {queries : List Query} (closed : s.inst.closed = true)
    (entries : s.entries = queries.map Entry.new) :
    s.enter.inst = s.inst ∧ s.enter.pc = .returned (closedReturn queries) := by
  rw [State.enter, if_pos closed, closedReturn]
  cases queries with
  | nil =>
      rw [if_pos (by simpa using entries), if_pos rfl]
      exact ⟨rfl, rfl⟩
  | cons query rest =>
      rw [if_neg (by simp [entries]), if_neg (by simp)]
      constructor
      · rfl
      · rw [entries]
        simp [batchOf, joinQueryErrors, Entry.fail, Entry.unsettled, Entry.new,
          List.filterMap_map, Function.comp_def]

/-- A call of `ResolveAll` that begins on a closed instance. -/
def Refused (queries : List Query) (s : State) : Prop :=
  s.inst.closed = true ∧
    ((s.pc = .entry ∧ s.entries = queries.map Entry.new) ∨
      s.pc = .returned (closedReturn queries))

theorem enter_of_ran (ran : State.Ran parser s action after) (here : s.pc = .entry) :
    after = s.enter := by
  cases ran <;> simp_all

theorem not_returned_of_ran (ran : State.Ran parser s action after) (ret : Returned) :
    s.pc ≠ .returned ret := by
  cases ran <;> simp_all

theorem Refused.step {queries : List Query} (refused : Refused queries s)
    (stepped : s.step parser action = some after) : Refused queries after := by
  obtain ⟨closed, place⟩ := refused
  cases action with
  | interfere what =>
      obtain ⟨later, inst, other, sweep, failing, rfl⟩ := State.interfere_eq stepped
      exact ⟨later.closed closed, place⟩
  | step | call | ctxDone | done | event | eventsClosed =>
      have ran := State.ran_of_resolveStep stepped
      rcases place with ⟨here, entries⟩ | here
      · rw [enter_of_ran ran here]
        obtain ⟨inst, returned⟩ := enter_of_closed closed entries
        exact ⟨by rw [inst]; exact closed, .inr returned⟩
      · exact absurd here (not_returned_of_ran ran _)

/-- In every orderly run, a failed guest call leaves the instance torn down when
`ResolveAll` returns, and every later call reports `ErrClosed` for each query. -/
theorem failed_call_tears_down (parser : MessageParser) (queries : List Query) {s : State}
    {ret : Returned}
    (reaches : (machine parser queries).Reaches Orderly (State.initial queries) s)
    (returned : s.pc = .returned ret) (failed : s.failed ≠ []) :
    s.inst.Torn ∧ ∀ (later : List Query) (t : State) (r : Returned),
      (machine parser later).Reaches Machine.always (s.resolveAll later) t →
      t.pc = .returned r → r = closedReturn later := by
  have watched : Watched s := by
    apply Machine.Reaches.invariant _ reaches (Watched.initial queries)
    intro before action after held orderly stepped
    exact held.step orderly stepped
  have torn : s.inst.Torn := by
    apply (watched.failed failed).resolve_right
    simp [Killing, returned]
  constructor
  · exact torn
  · intro later t r run ended
    have preserved : ∀ (before : State) (action : Action) (after : State),
        Refused later before → Machine.always before action →
        (machine parser later).step before action = some after → Refused later after := by
      intro before action after held _ stepped
      exact held.step stepped
    have refused := Machine.Reaches.invariant preserved run ⟨torn.1, .inl ⟨rfl, rfl⟩⟩
    rcases refused.2 with ⟨atEntry, _⟩ | same
    · rw [ended] at atEntry
      cases atEntry
    · rw [ended] at same
      exact Pc.returned.inj same

/-- One query whose poll fails: `result_get` traps, the kill closes the instance,
and the deferred calls find it dead. -/
def trappedPoll : List Action :=
  [.step, .step, .call (.ok (64, nxDomainMemory)), .call (.ok (1, nxDomainMemory)),
    .call (.ok (0, nxDomainMemory)), .step, .call (.ok (128, nxDomainMemory)),
    .call (.error (.foreign "wasm error: unreachable")), .step, .step, .step, .step,
    .call (.error .errClosed), .step, .step]

theorem failed_call_tears_down_trappedPoll :
    ∃ s ret,
      (machine emptyParser [⟨[97], 1⟩]).runWhen Orderly (State.initial [⟨[97], 1⟩])
        trappedPoll = some s ∧
      s.pc = .returned ret ∧ s.failed = [.resultGet] ∧ s.inst.Torn := by
  obtain ⟨s, ran⟩ : ∃ s, (machine emptyParser [⟨[97], 1⟩]).runWhen Orderly
      (State.initial [⟨[97], 1⟩]) trappedPoll = some s := ⟨_, rfl⟩
  obtain ⟨ret, returned⟩ : ∃ ret, s.pc = .returned ret := by
    cases ran
    exact ⟨_, rfl⟩
  have failed : s.failed = [.resultGet] := by
    cases ran
    rfl
  have torn := failed_call_tears_down emptyParser [⟨[97], 1⟩] (Machine.reaches_of_runWhen ran)
    returned (by simp [failed])
  exact ⟨s, ret, ran, returned, failed, torn.1⟩

/-- One query whose `alloc` traps. -/
def trappedAlloc : List Action :=
  [.step, .step, .call (.error (.foreign "wasm error: unreachable")),
    .call (.ok (0, nxDomainMemory)), .step, .step]

/-- After a trap in `alloc` the instance is as open as before, and the next
call goes on to the guest and gets a result from it. -/
theorem trappedAlloc_leaves_open :
    ∃ s ret middle t results err,
      (machine emptyParser [⟨[97], 1⟩]).run (State.initial [⟨[97], 1⟩]) trappedAlloc =
        some s ∧
      s.pc = .returned ret ∧ s.failed = [.alloc] ∧ s.inst = Instance.new ∧
      (machine emptyParser mixedBatch).run (s.resolveAll mixedBatch) mixedSettling =
        some middle ∧
      (machine emptyParser mixedBatch).run middle mixedUnwinding = some t ∧
      t.pc = .returned (.batch results err) ∧
      results[1]? = some (some ⟨false, false, true, [], [], [], []⟩) :=
  ⟨_, _, _, _, _, _, rfl, rfl, rfl, rfl, rfl, rfl, rfl, rfl⟩

end UnboundWasm.Host.Resolve
