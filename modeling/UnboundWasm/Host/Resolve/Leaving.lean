import UnboundWasm.Host.Resolve.Machine

/-!
# The way out of a wait

Once `ResolveAll` has left its wait through `done` or through the context, nothing
settles any more: what is still unsettled fails with the error it left with, whatever
the other goroutines do meanwhile.  If it left with an error of its own the instance is
closed by the time it returns.
-/

namespace UnboundWasm.Host.Resolve

/-- The return value is fixed and the deferred functions run. -/
def Pc.unwinds (ret : Returned) : Pc → Prop
  | .free _ other | .cancel _ other | .callCancel _ other | .returned other => other = ret
  | .entry | .start _ | .allocName _ | .callStart _ _ | .freeName _ _ _ | .allocResult
  | .poll _ _ | .select _ | .dispatch _ _ | .closing _ _ _ => False

/-- `ResolveAll` fails what is unsettled in `entries` with `err`, after a close or
already. -/
inductive Leaving (entries : List Entry) (err : Error) (s : State) : Prop where
  | closing {stage : CloseStage} {p : Nat} (here : s.pc = .closing stage err p)
      (kept : s.entries = entries)
  | unwinding (fixed : s.pc.unwinds (batchOf (entries.map (Entry.fail err))))
      (failed : s.entries = entries.map (Entry.fail err))

namespace Leaving

variable {entries : List Entry} {err : Error} {s after : State}

theorem failUnsettled (kept : s.entries = entries) (p : Nat) :
    Leaving entries err (s.failUnsettled err p) := by
  subst kept
  exact .unwinding rfl rfl

theorem ran {parser : MessageParser} {action : Action} (leaving : Leaving entries err s)
    (ran : State.Ran parser s action after) : Leaving entries err after := by
  cases leaving with
  | closing at' kept =>
      cases ran with
      | closing here closing =>
          rw [here] at at'
          cases at'
          cases closing with
          | goesOn => exact .closing rfl kept
          | ends =>
              apply failUnsettled
              exact kept
      | enter here | startNext here | nameRefused here | allocName here | callStart here
      | freeName here | resultRefused here | allocResult here | pollEnd here | pollWait here
      | pollSkip here | pollCall here | ctxDone here | doneFailed here | done here | event here
      | eventsClosed here | dispatchFailed here | dispatch here | free here | cancelNext here
      | callCancel here =>
          rw [here] at at'
          cases at'
  | unwinding fixed failed =>
      cases ran with
      | free here | callCancel here =>
          rw [here] at fixed
          exact .unwinding fixed failed
      | cancelNext here =>
          rw [here] at fixed
          unfold State.cancelNext
          split
          · exact .unwinding fixed failed
          · split <;> exact .unwinding fixed failed
      | enter here | startNext here | nameRefused here | allocName here | callStart here
      | freeName here | resultRefused here | allocResult here | pollEnd here | pollWait here
      | pollSkip here | pollCall here | ctxDone here | doneFailed here | done here | event here
      | eventsClosed here | dispatchFailed here | dispatch here | closing here =>
          rw [here] at fixed
          exact fixed.elim

theorem step {parser : MessageParser} {action : Action} (leaving : Leaving entries err s)
    (stepped : s.step parser action = some after) : Leaving entries err after := by
  cases action with
  | interfere what =>
      obtain ⟨-, inst, other, sweep, failing, rfl⟩ := State.interfere_eq stepped
      cases leaving with
      | closing here kept => exact .closing here kept
      | unwinding fixed failed => exact .unwinding fixed failed
  | step | call | ctxDone | done | event | eventsClosed =>
      exact leaving.ran (State.ran_of_resolveStep stepped)

/-- `ResolveAll` leaves its wait through `done`, with what `stateErr` makes of the
cause. -/
theorem of_done {parser : MessageParser} {p : Nat} (here : s.pc = .select p)
    (stepped : s.step parser .done = some after) :
    Leaving s.entries (s.inst.cause.getD .errClosed) after := by
  simp only [State.step, State.resolveStep, here] at stepped
  split at stepped
  · cases stepped
  · cases stepped
    unfold State.stateErr
    split
    next err cause =>
      rw [cause]
      exact .closing rfl rfl
    next cause =>
      rw [cause]
      exact failUnsettled rfl p

/-- `ResolveAll` leaves its wait because its context is done. -/
theorem of_ctxDone {parser : MessageParser} {p : Nat} (here : s.pc = .select p)
    (stepped : s.step parser (.ctxDone err) = some after) : Leaving s.entries err after := by
  simp only [State.step, State.resolveStep, here] at stepped
  cases stepped
  exact .closing rfl rfl

/-- Nothing is received on the way out. -/
theorem not_event {parser : MessageParser} {ev : Sockets.HostEvent}
    (leaving : Leaving entries err s) : s.step parser (.event ev) = none := by
  cases stepped : s.step parser (.event ev) with
  | none => rfl
  | some after =>
      cases State.ran_of_resolveStep stepped with
      | event here =>
          cases leaving with
          | closing at' =>
              rw [here] at at'
              cases at'
          | unwinding fixed =>
              rw [here] at fixed
              exact fixed.elim

theorem returned {ret : Returned} (leaving : Leaving entries err s) (ended : s.pc = .returned ret) :
    ret = batchOf (entries.map (Entry.fail err)) := by
  cases leaving with
  | closing at' =>
      rw [ended] at at'
      cases at'
  | unwinding fixed =>
      rw [ended] at fixed
      exact fixed

/-- What was unsettled has no result. -/
theorem result_eq_none {n : Nat} {before e : Entry} (leaving : Leaving entries err s)
    (old : entries[n]? = some before) (unsettled : before.unsettled = true)
    (new : s.entries[n]? = some e) : e.result = none := by
  have missing : before.result = none := by
    simp only [Entry.unsettled, Bool.and_eq_true, Option.isNone_iff_eq_none] at unsettled
    exact unsettled.1
  cases leaving with
  | closing _ kept =>
      rw [kept, old] at new
      cases new
      exact missing
  | unwinding _ failed =>
      rw [failed, List.getElem?_map, old] at new
      cases new
      rw [Entry.fail, if_pos unsettled]
      exact missing

end Leaving

/-- A step of the system brings the instance no further from its end. -/
theorem State.later_of_step {parser : MessageParser} {s after : State} {action : Action}
    (stepped : s.step parser action = some after) : s.inst.Later after.inst := by
  cases action with
  | interfere what => exact (State.interfere_eq stepped).1
  | step | call | ctxDone | done | event | eventsClosed =>
      rcases State.own_of_ran (State.ran_of_resolveStep stepped) with
        ⟨⟨entries, pending, pc, failed, rfl, -⟩, -⟩ | ⟨stage, err, p, -, -, closing⟩
      · exact .refl s.inst
      · cases closing with
        | goesOn moved | ends moved => exact moved.later

/-- The instance is closed, or that comes next. -/
def Shutting (s : State) : Prop := s.inst.closed = true ∨ ∃ err p, s.pc = .closing .swap err p

theorem Shutting.step {parser : MessageParser} {s after : State} {action : Action}
    (shutting : Shutting s) (stepped : s.step parser action = some after) : Shutting after := by
  rcases shutting with closed | ⟨err, p, here⟩
  · exact .inl ((State.later_of_step stepped).closed closed)
  · cases action with
    | interfere what =>
        obtain ⟨-, inst, other, sweep, failing, rfl⟩ := State.interfere_eq stepped
        exact .inr ⟨err, p, here⟩
    | step =>
        left
        simp only [State.step, State.resolveStep, here] at stepped
        cases State.closing_of_closeStep stepped with
        | goesOn moved =>
            cases moved
            rfl
        | ends moved =>
            cases moved
            assumption
    | call | ctxDone | done | event | eventsClosed =>
        simp only [State.step, State.resolveStep, here] at stepped
        cases stepped

end UnboundWasm.Host.Resolve
