import UnboundWasm.Host.Resolve.Batch

/-!
# Batches on a closed instance

An instance is closed to `ResolveAll` when its `closed` flag is set, or when the
sweep of `Runtime.Close` has closed its module.  Either way no query reaches the
guest: the batch fails on entry, or at the allocation for the first name that is
well formed.
-/

namespace UnboundWasm.Host.Resolve

open UnboundWasm.Lib

/-- `ResolveAll` refuses the instance. -/
def Instance.Barred (i : Instance) : Prop := i.closed = true ∨ i.modDead = true

/-- Every query whose name is accepted failed with `ErrClosed`. -/
def Denied (queries : List Query) (ret : Returned) : Prop :=
  ∀ (n : Nat) (query : Query) (name : Bytes), queries[n]? = some query →
    normalizeName query.name = .ok name → ∃ results err,
      ret = .batch results err ∧ results[n]? = some none ∧ ⟨query, .errClosed⟩ ∈ err

namespace Entry

/-- Untouched, refused, or turned down for its name. -/
def Turned (e : Entry) : Prop :=
  e.result = none ∧
    (e.err = none ∨ e.err = some .errClosed ∨ ∃ err, normalizeName e.query.name = .error err)

theorem Turned.fail {e : Entry} (turned : e.Turned) : (e.fail .errClosed).Turned := by
  rw [Entry.fail]
  split
  · exact ⟨turned.1, .inr (.inl rfl)⟩
  · exact turned

end Entry

/-- Where a batch on a closed instance can be. -/
def Kept (s : State) : Prop :=
  match s.pc with
  | .entry => s.inst.Barred ∧ s.pending = 0
  | .start _ | .allocName _ => s.inst.modDead = true ∧ s.pending = 0
  | .free _ _ | .cancel _ _ | .callCancel _ _ | .returned _ => True
  | .callStart _ _ | .freeName _ _ _ | .allocResult | .poll _ _ | .select _ | .dispatch _ _
  | .closing _ _ _ => False

structure Outside (s : State) : Prop where
  turned : ∀ e ∈ s.entries, e.Turned
  kept : Kept s

variable {queries : List Query} {s after : State}

theorem Outside.resolveAll (barred : s.inst.Barred) : Outside (s.resolveAll queries) := by
  constructor
  · intro e member
    rw [State.resolveAll, List.mem_map] at member
    rcases member with ⟨query, _, rfl⟩
    exact ⟨rfl, .inl rfl⟩
  · exact ⟨barred, rfl⟩

theorem turned_fail (turned : ∀ e ∈ s.entries, e.Turned) :
    ∀ e ∈ s.entries.map (Entry.fail .errClosed), e.Turned := by
  intro e member
  rw [List.mem_map] at member
  rcases member with ⟨before, present, rfl⟩
  exact (turned before present).fail

theorem turned_modify {n : Nat} {change : Entry → Entry} (turned : ∀ e ∈ s.entries, e.Turned)
    (changed : ∀ e, s.entries[n]? = some e → (change e).Turned) :
    ∀ e ∈ s.entries.modify n change, e.Turned := by
  intro e member
  obtain ⟨m, found⟩ := List.mem_iff_getElem?.mp member
  rcases getElem?_of_modify found with ⟨_, before, present, rfl⟩ | ⟨_, present⟩
  · exact changed before present
  · exact turned e (List.mem_of_getElem? present)

theorem Outside.enter (turned : ∀ e ∈ s.entries, e.Turned) (barred : s.inst.Barred)
    (pending : s.pending = 0) : Outside s.enter := by
  rw [State.enter]
  split
  · split
    · exact ⟨turned, trivial⟩
    · exact ⟨turned_fail turned, trivial⟩
  next isOpen =>
    rcases barred with closed | dead
    · exact absurd closed isOpen
    · exact ⟨turned, dead, pending⟩

theorem Outside.startNext {n : Nat} (turned : ∀ e ∈ s.entries, e.Turned)
    (dead : s.inst.modDead = true) (pending : s.pending = 0) : Outside (s.startNext n) := by
  rw [State.startNext]
  split
  · rw [if_pos pending]
    exact ⟨turned, trivial⟩
  next e present =>
    have known := turned e (List.mem_of_getElem? present)
    split
    next err rejected =>
      refine ⟨turned_modify turned ?_, dead, pending⟩
      intro found same
      rw [present, Option.some.injEq] at same
      rw [← same]
      exact ⟨known.1, .inr (.inr ⟨err, rejected⟩)⟩
    next name _ =>
      refine ⟨turned_modify turned ?_, dead, pending⟩
      intro found same
      rw [present, Option.some.injEq] at same
      rw [← same]
      exact known

theorem Outside.ran {parser : MessageParser} {action : Action} (outside : Outside s)
    (ran : State.Ran parser s action after) : Outside after := by
  have turned := outside.turned
  have kept := outside.kept
  cases ran with
  | enter here =>
      rw [Kept, here] at kept
      exact Outside.enter turned kept.1 kept.2
  | startNext here =>
      rw [Kept, here] at kept
      exact Outside.startNext turned kept.1 kept.2
  | nameRefused here _ refused =>
      -- the allocation for a name finds the module closed
      rw [Kept, here] at kept
      rw [kept.1] at refused
      cases refused
      exact ⟨turned_fail turned, trivial⟩
  | allocName here _ allocated =>
      rw [Kept, here] at kept
      rw [kept.1] at allocated
      cases allocated
  | free | callCancel => exact ⟨turned, trivial⟩
  | cancelNext here =>
      rw [State.cancelNext]
      split
      · exact ⟨turned, trivial⟩
      · split <;> exact ⟨turned, trivial⟩
  | callStart here | freeName here | resultRefused here | allocResult here | pollEnd here
  | pollWait here | pollSkip here | pollCall here | ctxDone here | doneFailed here | done here
  | event here | eventsClosed here | dispatchFailed here | dispatch here | closing here =>
      rw [Kept, here] at kept
      exact kept.elim

theorem Outside.interfere {what : Interference} (outside : Outside s)
    (stepped : s.interfere what = some after) : Outside after := by
  have kept := outside.kept
  obtain ⟨later, inst, other, sweep, failing, rfl⟩ := State.interfere_eq stepped
  refine ⟨outside.turned, ?_⟩
  rw [Kept] at kept ⊢
  dsimp only
  split at kept
  case h_1 => exact ⟨kept.1.imp later.closed later.modDead, kept.2⟩
  case h_2 => exact ⟨later.modDead kept.1, kept.2⟩
  case h_3 => exact ⟨later.modDead kept.1, kept.2⟩
  all_goals exact kept

theorem Outside.step {parser : MessageParser} {action : Action} (outside : Outside s)
    (stepped : s.step parser action = some after) : Outside after := by
  cases action with
  | interfere what => exact outside.interfere stepped
  | step | call | ctxDone | done | event | eventsClosed =>
      exact outside.ran (State.ran_of_resolveStep stepped)

/-- A batch on a closed instance fails with `ErrClosed` wherever the name is not
at fault. -/
theorem denied_of_barred {parser : MessageParser} {ret : Returned} (barred : s.inst.Barred)
    (reaches : (machine parser queries).Reaches Machine.always (s.resolveAll queries) after)
    (returned : after.pc = .returned ret) : Denied queries ret := by
  have carried : Tidy queries after ∧ Outside after := by
    have preserved : ∀ (before : State) (action : Action) (next : State),
        Tidy queries before ∧ Outside before → Machine.always before action →
        before.step parser action = some next → Tidy queries next ∧ Outside next :=
      fun _ _ _ held _ stepped => ⟨held.1.step stepped, held.2.step stepped⟩
    apply Machine.Reaches.invariant preserved reaches
    exact ⟨Tidy.resolveAll s queries, Outside.resolveAll barred⟩
  obtain ⟨tidy, outside⟩ := carried
  intro n query name present accepted
  rw [← tidy.sound.queries, List.getElem?_map, Option.map_eq_some_iff] at present
  rcases present with ⟨e, found, rfl⟩
  have member := List.mem_of_getElem? found
  have progress := tidy.progress
  rw [Progress, returned] at progress
  rcases progress with ⟨_, empty, _⟩ | ⟨batch, settled⟩
  · rw [empty] at member
    cases member
  · obtain ⟨result, err⟩ := outside.turned e member
    have refused : e.err = some .errClosed := by
      rcases err with none | refused | ⟨err, rejected⟩
      · have unsettled := settled e member
        simp [Entry.unsettled, result, none] at unsettled
      · exact refused
      · rw [accepted] at rejected
        cases rejected
    refine ⟨_, _, batch, ?_, ?_⟩
    · rw [List.getElem?_map, found, Option.map_some, result]
    · rw [joinQueryErrors, List.mem_filterMap]
      exact ⟨e, member, by rw [refused]; rfl⟩

end UnboundWasm.Host.Resolve
