import UnboundWasm.Host.Resolve.Machine

/-!
# The batch contract

`pending` counts what the slices do not say directly: the queries that were
started and have neither a result nor an error.  The invariant ties it to the
slices at every place of `ResolveAll`, so that the loop ends with every position
settled, and every early return settles the rest.
-/

namespace UnboundWasm.Host.Resolve

open UnboundWasm.Lib

/-- The slices belong to the batch, and no position holds both a result and an
error. -/
structure Sound (queries : List Query) (entries : List Entry) : Prop where
  queries : entries.map Entry.query = queries
  exclusive : ∀ e ∈ entries, e.result = none ∨ e.err = none

/-- Every position holds a result or an error. -/
def Settled (entries : List Entry) : Prop := ∀ e ∈ entries, e.unsettled = false

/-- The first loop is at position `n`: the positions from there on are untouched,
and `pending` counts the unsettled ones before it. -/
structure Counted (entries : List Entry) (pending : Int) (n : Nat) : Prop where
  count : pending + (entries.length - n : Nat) = entries.countP Entry.unsettled
  fresh : ∀ m e, n ≤ m → entries[m]? = some e → e.unsettled = true

variable {queries : List Query} {entries : List Entry} {pending : Int} {n : Nat}
  {change : Entry → Entry}

variable {e : Entry} {action : Action} {parser : MessageParser}

theorem Entry.result_of_unsettled (unsettled : e.unsettled = true) :
    e.result = none ∧ e.err = none := by
  simpa [Entry.unsettled] using unsettled

theorem Sound.new (queries : List Query) : Sound queries (queries.map Entry.new) := by
  constructor
  · rw [List.map_map]
    exact List.map_id queries
  · intro e member
    rw [List.mem_map] at member
    rcases member with ⟨query, _, rfl⟩
    exact .inl rfl

/-- A position after a change is the changed one, or as it was. -/
theorem getElem?_of_modify {m : Nat} {after : Entry}
    (found : (entries.modify n change)[m]? = some after) :
    (m = n ∧ ∃ before, entries[n]? = some before ∧ change before = after) ∨
      (m ≠ n ∧ entries[m]? = some after) := by
  rw [List.getElem?_modify, Option.map_eq_map, Option.map_eq_some_iff] at found
  rcases found with ⟨before, present, changed⟩
  by_cases same : n = m
  · rw [if_pos same] at changed
    subst same
    exact .inl ⟨rfl, before, present, changed⟩
  · rw [if_neg same] at changed
    subst changed
    exact .inr ⟨Ne.symm same, present⟩

/-- A change of one position that keeps its query and its exclusiveness. -/
theorem Sound.modify (sound : Sound queries entries)
    (query : ∀ e, (change e).query = e.query)
    (exclusive : ∀ e, entries[n]? = some e →
      (change e).result = none ∨ (change e).err = none) :
    Sound queries (entries.modify n change) := by
  constructor
  · rw [← sound.queries]
    apply List.ext_getElem?
    intro m
    rw [List.getElem?_map, List.getElem?_map, List.getElem?_modify]
    cases entries[m]? with
    | none => rfl
    | some e =>
        apply congrArg some
        dsimp only
        split
        · exact query e
        · rfl
  · intro e member
    obtain ⟨m, found⟩ := List.mem_iff_getElem?.mp member
    rcases getElem?_of_modify found with ⟨_, before, present, rfl⟩ | ⟨_, present⟩
    · exact exclusive before present
    · exact sound.exclusive e (List.mem_of_getElem? present)

theorem Entry.query_fail (err : Error) (e : Entry) : (e.fail err).query = e.query := by
  rw [Entry.fail]
  split <;> rfl

theorem Entry.settled_fail (err : Error) (e : Entry) : (e.fail err).unsettled = false := by
  rw [Entry.fail]
  split
  · simp [Entry.unsettled]
  next settled => simpa using settled

/-- Failing the rest touches no position that has settled. -/
theorem Sound.fail (sound : Sound queries entries) (err : Error) :
    Sound queries (entries.map (Entry.fail err)) ∧
      Settled (entries.map (Entry.fail err)) := by
  constructor
  · constructor
    · rw [List.map_map, ← sound.queries]
      apply List.map_congr_left
      intro e _
      exact Entry.query_fail err e
    · intro e member
      rw [List.mem_map] at member
      rcases member with ⟨before, present, rfl⟩
      rw [Entry.fail]
      split
      next unsettled => exact .inl (Entry.result_of_unsettled unsettled).1
      next => exact sound.exclusive before present
  · intro e member
    rw [List.mem_map] at member
    rcases member with ⟨before, _, rfl⟩
    exact Entry.settled_fail err before

theorem countP_modify (present : entries[n]? = some e) (unsettled : e.unsettled = true)
    (change : Entry → Entry) : (entries.modify n change).countP Entry.unsettled + 1 =
      entries.countP Entry.unsettled + if (change e).unsettled then 1 else 0 := by
  obtain ⟨inside, found⟩ := List.getElem?_eq_some_iff.mp present
  obtain ⟨front, before, back, whole, length, modified⟩ :=
    List.exists_of_modify change inside
  have same : before = e := by
    rw [whole, ← length] at present
    simpa using present
  rw [modified, whole, same]
  simp only [List.countP_append, List.countP_cons, unsettled, if_true]
  omega

/-- The first loop leaves a position behind. -/
theorem Counted.advance (counted : Counted entries pending n) (present : entries[n]? = some e)
    (change : Entry → Entry) : Counted (entries.modify n change)
      (pending + if (change e).unsettled then 1 else 0) (n + 1) := by
  have inside := (List.getElem?_eq_some_iff.mp present).1
  have counting := countP_modify present (counted.fresh n e le_rfl present) change
  have count := counted.count
  constructor
  · rw [List.length_modify]
    split at counting
    next => rw [if_pos (by assumption)]; omega
    next => rw [if_neg (by assumption)]; omega
  · intro m after later found
    rcases getElem?_of_modify found with ⟨same, _⟩ | ⟨_, there⟩
    · omega
    · exact counted.fresh m after (by omega) there

/-- The first loop changes a position and stays at it. -/
theorem Counted.stay (counted : Counted entries pending n) (present : entries[n]? = some e)
    (keeps : ∀ e, (change e).unsettled = e.unsettled) :
    Counted (entries.modify n change) pending n := by
  have unsettled := counted.fresh n e le_rfl present
  have counting := countP_modify present unsettled change
  rw [keeps e, if_pos unsettled] at counting
  constructor
  · rw [List.length_modify, counted.count]
    omega
  · intro m after later found
    rcases getElem?_of_modify found with ⟨_, before, there, rfl⟩ | ⟨_, there⟩
    · rw [keeps before]
      exact counted.fresh n before le_rfl there
    · exact counted.fresh m after later there

theorem Counted.at_end (counted : Counted entries pending n) (ended : entries[n]? = none) :
    pending = entries.countP Entry.unsettled := by
  have outside := List.getElem?_eq_none_iff.mp ended
  have count := counted.count
  rw [Nat.sub_eq_zero_of_le outside] at count
  simpa using count

theorem settled_of_count (zero : (0 : Int) = entries.countP Entry.unsettled) :
    Settled entries := by
  intro e member
  have none := List.countP_eq_zero.mp (Int.ofNat.inj zero).symm e member
  simpa using none

/-! ## The invariant -/

/-- What the counter and the slices say at each place. -/
def Progress (s : State) : Prop :=
  match s.pc with
  | .entry => Counted s.entries s.pending 0
  | .start n => Counted s.entries s.pending n
  | .allocName n | .callStart n _ | .freeName n _ _ =>
      Counted s.entries s.pending n ∧ n < s.entries.length
  | .allocResult | .poll _ _ | .select _ | .dispatch _ _ =>
      s.pending = s.entries.countP Entry.unsettled
  | .closing _ _ _ => True
  | .free _ ret | .cancel _ ret | .callCancel _ ret =>
      ret = batchOf s.entries ∧ Settled s.entries
  | .returned ret =>
      (ret = .errClosed ∧ s.entries = [] ∧ s.inst.closed = true) ∨
        (ret = batchOf s.entries ∧ Settled s.entries)

structure Tidy (queries : List Query) (s : State) : Prop where
  sound : Sound queries s.entries
  progress : Progress s

theorem Tidy.resolveAll (s : State) (queries : List Query) :
    Tidy queries (s.resolveAll queries) := by
  constructor
  · exact Sound.new queries
  · constructor
    · simp only [State.resolveAll, Nat.sub_zero, Int.zero_add]
      rw [List.countP_eq_length.mpr]
      intro e member
      rw [List.mem_map] at member
      rcases member with ⟨query, _, rfl⟩
      rfl
    · intro m e _ found
      rw [State.resolveAll, List.getElem?_map, Option.map_eq_some_iff] at found
      rcases found with ⟨query, _, rfl⟩
      rfl

variable {s after : State}

theorem Tidy.failUnsettled (sound : Sound queries s.entries) (err : Error) (p : Nat) :
    Tidy queries (s.failUnsettled err p) :=
  ⟨(sound.fail err).1, rfl, (sound.fail err).2⟩

theorem Tidy.finish (sound : Sound queries s.entries) (settled : Settled s.entries) (p : Nat) :
    Tidy queries (s.finish p) :=
  ⟨sound, rfl, settled⟩

theorem Tidy.closing (sound : Sound queries s.entries) (stage : CloseStage) (err : Error)
    (p : Nat) : Tidy queries (s.goto (.closing stage err p)) :=
  ⟨sound, trivial⟩

theorem Tidy.enter (sound : Sound queries s.entries) (counted : Counted s.entries s.pending 0) :
    Tidy queries s.enter := by
  rw [State.enter]
  split
  next closed =>
    split
    next empty => exact ⟨sound, .inl ⟨rfl, empty, closed⟩⟩
    next =>
      have failed := sound.fail .errClosed
      exact ⟨failed.1, .inr ⟨rfl, failed.2⟩⟩
  next => exact ⟨sound, counted⟩

/-- An unsettled position takes an error. -/
theorem Sound.setErr (sound : Sound queries s.entries)
    (fresh : ∀ e, s.entries[n]? = some e → e.unsettled = true) (err : Error) :
    Sound queries (s.onEntry n fun e => { e with err := some err }).entries := by
  apply sound.modify
  · intro e
    rfl
  · intro e present
    exact .inl (Entry.result_of_unsettled (fresh e present)).1

/-- A query fails before it is in flight. -/
theorem Tidy.reject (sound : Sound queries s.entries) (counted : Counted s.entries s.pending n)
    (present : s.entries[n]? = some e) (err : Error) :
    Tidy queries ((s.onEntry n fun e => { e with err := some err }).goto (.start (n + 1))) := by
  constructor
  · exact sound.setErr (fun e found => counted.fresh n e le_rfl found) err
  · have advanced := counted.advance present fun e => { e with err := some err }
    simp only [Entry.unsettled, Option.isNone_some, Bool.and_false, Bool.false_eq_true,
      if_false, Int.add_zero] at advanced
    exact advanced

theorem Tidy.startNext (sound : Sound queries s.entries)
    (counted : Counted s.entries s.pending n) : Tidy queries (s.startNext n) := by
  rw [State.startNext]
  split
  next ended =>
    have count := counted.at_end ended
    split
    next zero =>
      apply Tidy.finish sound
      rw [zero] at count
      exact settled_of_count count
    next => exact ⟨sound, count⟩
  next e present =>
    split
    next err _ => exact Tidy.reject sound counted present err
    next name _ =>
      constructor
      · apply sound.modify
        · intro e
          rfl
        · intro e found
          exact .inl (Entry.result_of_unsettled (counted.fresh n e le_rfl found)).1
      · constructor
        · apply counted.stay present
          intro e
          rfl
        · simpa [State.onEntry, State.goto] using (List.getElem?_eq_some_iff.mp present).1

theorem Tidy.started (sound : Sound queries s.entries)
    (counted : Counted s.entries s.pending n) (inside : n < s.entries.length)
    (out : Except Error Int) : Tidy queries (s.started n out) := by
  have present := List.getElem?_eq_getElem inside
  cases out with
  | error err => exact Tidy.closing sound _ _ _
  | ok rid =>
      rw [State.started]
      split
      next => exact Tidy.reject sound counted present _
      next =>
        constructor
        · apply sound.modify
          · intro e
            rfl
          · intro e found
            exact .inl (Entry.result_of_unsettled (counted.fresh n e le_rfl found)).1
        · have advanced := counted.advance present fun e => { e with rid := rid }
          have unsettled := counted.fresh n _ le_rfl present
          have same : ({ s.entries[n] with rid := rid } : Entry).unsettled = true := unsettled
          rw [if_pos same] at advanced
          exact advanced

/-- The counter follows a position that settles. -/
theorem count_settled (count : pending = entries.countP Entry.unsettled)
    (present : entries[n]? = some e) (unsettled : e.unsettled = true)
    (settles : (change e).unsettled = false) :
    pending - 1 = (entries.modify n change).countP Entry.unsettled := by
  have counting := countP_modify present unsettled change
  rw [if_neg (by simp [settles])] at counting
  omega

theorem Tidy.polled (sound : Sound queries s.entries)
    (count : s.pending = s.entries.countP Entry.unsettled) (present : s.entries[n]? = some e)
    (unsettled : e.unsettled = true) (p : Nat) (poll : Poll) :
    Tidy queries (s.polled n p poll) := by
  have only : ∀ other, s.entries[n]? = some other → other.unsettled = true := by
    intro other found
    rw [present, Option.some.injEq] at found
    exact found ▸ unsettled
  cases poll with
  | fatal err => exact Tidy.closing sound _ _ _
  | pending => exact ⟨sound, count⟩
  | failed err =>
      constructor
      · exact sound.setErr only err
      · apply count_settled count present unsettled
        simp [Entry.unsettled]
  | ready res =>
      constructor
      · apply sound.modify
        · intro e
          rfl
        · intro other found
          exact .inr (Entry.result_of_unsettled (only other found)).2
      · apply count_settled count present unsettled
        simp [Entry.unsettled]

theorem unsettled_of_not_skipped (polled : ¬ State.skipped e = true) : e.unsettled = true := by
  simp only [State.skipped, Bool.or_eq_true, not_or] at polled
  simpa using polled.2

/-- Every step of `ResolveAll` keeps the counter and the slices together. -/
theorem Tidy.ran (tidy : Tidy queries s) (ran : State.Ran parser s action after) :
    Tidy queries after := by
  have sound := tidy.sound
  have progress := tidy.progress
  cases ran with
  | enter here =>
      rw [Progress, here] at progress
      exact Tidy.enter sound progress
  | startNext here =>
      rw [Progress, here] at progress
      exact Tidy.startNext sound progress
  | nameRefused | resultRefused | done | eventsClosed =>
      apply Tidy.failUnsettled
      exact sound
  | allocName here | callStart here | allocResult here | pollWait here | pollSkip here
  | event here | dispatch here | free here | callCancel here =>
      rw [Progress, here] at progress
      exact ⟨sound, progress⟩
  | freeName here =>
      rw [Progress, here] at progress
      apply Tidy.started
      · exact sound
      · exact progress.1
      · exact progress.2
  | pollEnd here settled =>
      rw [Progress, here] at progress
      exact Tidy.finish sound (settled_of_count (settled ▸ progress)) _
  | pollCall here _ present due =>
      rw [Progress, here] at progress
      apply Tidy.polled
      · exact sound
      · exact progress
      · exact present
      · exact unsettled_of_not_skipped due
  | ctxDone | doneFailed | dispatchFailed => exact ⟨sound, trivial⟩
  | closing here closing =>
      cases closing with
      | goesOn => exact ⟨sound, trivial⟩
      | ends =>
          apply Tidy.failUnsettled
          exact sound
  | cancelNext here =>
      rw [Progress, here] at progress
      rw [State.cancelNext]
      split
      · exact ⟨sound, .inr progress⟩
      · split
        · exact ⟨sound, progress⟩
        · exact ⟨sound, progress⟩

theorem Tidy.interfere {what : Interference} (tidy : Tidy queries s)
    (stepped : s.interfere what = some after) : Tidy queries after := by
  have progress := tidy.progress
  obtain ⟨later, inst, other, sweep, failing, rfl⟩ := State.interfere_eq stepped
  constructor
  · exact tidy.sound
  · rw [Progress] at progress ⊢
    dsimp only
    split at progress
    case h_14 =>
      rcases progress with ⟨closedReturn, empty, closed⟩ | settled
      · exact .inl ⟨closedReturn, empty, later.closed closed⟩
      · exact .inr settled
    all_goals exact progress

theorem Tidy.step (tidy : Tidy queries s) (stepped : s.step parser action = some after) :
    Tidy queries after := by
  cases action with
  | interfere what => exact tidy.interfere stepped
  | step | call | ctxDone | done | event | eventsClosed =>
      exact tidy.ran (State.ran_of_resolveStep stepped)

/-! ## Results are kept -/

/-- A position holds this result. -/
def Holds (n : Nat) (res : Result) (entries : List Entry) : Prop :=
  ∃ e, entries[n]? = some e ∧ e.result = some res

variable {m : Nat} {res : Result}

theorem Holds.modify (holds : Holds m res entries)
    (keeps : ∀ e, entries[n]? = some e → e.result = some res →
      (change e).result = some res) :
    Holds m res (entries.modify n change) := by
  obtain ⟨e, present, result⟩ := holds
  rw [Holds, List.getElem?_modify, present]
  by_cases same : n = m
  · subst same
    exact ⟨change e, by simp, keeps e present result⟩
  · exact ⟨e, by simp [same], result⟩

theorem Holds.fail (holds : Holds m res entries) (err : Error) :
    Holds m res (entries.map (Entry.fail err)) := by
  obtain ⟨e, present, result⟩ := holds
  refine ⟨e.fail err, by rw [List.getElem?_map, present]; rfl, ?_⟩
  rw [Entry.fail]
  split
  next unsettled =>
    rw [(Entry.result_of_unsettled unsettled).1] at result
    cases result
  next => exact result

/-- No step of `ResolveAll` takes a result back. -/
theorem Holds.ran (holds : Holds m res s.entries) (ran : State.Ran parser s action after) :
    Holds m res after.entries := by
  cases ran with
  | enter here =>
      rw [State.enter]
      split
      · split
        · exact holds
        · exact holds.fail _
      · exact holds
  | startNext here =>
      rw [State.startNext]
      split
      · split
        · exact holds
        · exact holds
      · split
        · exact holds.modify fun _ _ result => result
        · exact holds.modify fun _ _ result => result
  | nameRefused | resultRefused | done | eventsClosed => exact holds.fail _
  | allocName | callStart | allocResult | pollEnd | pollWait | pollSkip | ctxDone | doneFailed
  | event | dispatchFailed | dispatch | free | callCancel => exact holds
  | @freeName n p out =>
      cases out with
      | error err => exact holds
      | ok rid =>
          rw [State.started]
          split
          · exact holds.modify fun _ _ result => result
          · exact holds.modify fun _ _ result => result
  | pollCall here _ present due =>
      generalize pollResult parser _ _ _ _ _ = poll
      cases poll with
      | fatal err => exact holds
      | pending => exact holds
      | failed err => exact holds.modify fun _ _ result => result
      | ready other =>
          apply holds.modify
          intro before found result
          have unsettled := unsettled_of_not_skipped due
          rw [present, Option.some.injEq] at found
          rw [← found, (Entry.result_of_unsettled unsettled).1] at result
          cases result
  | closing here closing =>
      cases closing with
      | goesOn => exact holds
      | ends => exact holds.fail _
  | cancelNext here =>
      rw [State.cancelNext]
      split
      · exact holds
      · split
        · exact holds
        · exact holds

theorem Holds.step (holds : Holds m res s.entries) (stepped : s.step parser action = some after) :
    Holds m res after.entries := by
  cases action with
  | interfere what =>
      obtain ⟨_, inst, other, sweep, failing, rfl⟩ := State.interfere_eq stepped
      exact holds
  | step | call | ctxDone | done | event | eventsClosed =>
      exact holds.ran (State.ran_of_resolveStep stepped)

/-! ## The contract -/

/-- What a returned batch promises. `errs` says which positions failed and why. -/
structure Contract (queries : List Query) (results : List (Option Result))
    (err : List QueryError) : Prop where
  length : results.length = queries.length
  joined : ∃ errs : List (Option Error), errs.length = queries.length ∧
    err = (queries.zip errs).filterMap (fun pair => pair.2.map (QueryError.mk pair.1)) ∧
    ∀ n < queries.length, results[n]? = some none ↔ ∃ cause, errs[n]? = some (some cause)
  success : err = [] ↔ ∀ n < queries.length, ∃ res, results[n]? = some (some res)

theorem Sound.failed_iff (sound : Sound queries entries) (settled : Settled entries)
    (member : e ∈ entries) : e.result = none ↔ ∃ cause, e.err = some cause := by
  have exclusive := sound.exclusive e member
  have done := settled e member
  cases result : e.result with
  | none =>
      cases err : e.err with
      | none => simp [Entry.unsettled, result, err] at done
      | some cause => simp
  | some res =>
      rw [result] at exclusive
      rcases exclusive with absurd | none
      · cases absurd
      · simp [none]

theorem Contract.of_settled (sound : Sound queries entries) (settled : Settled entries) :
    Contract queries (entries.map Entry.result) (joinQueryErrors entries) := by
  have length : entries.length = queries.length := by
    rw [← sound.queries, List.length_map]
  constructor
  case length => rw [List.length_map, length]
  case joined =>
    refine ⟨entries.map Entry.err, by rw [List.length_map, length], ?_, ?_⟩
    · rw [← sound.queries, List.zip_map', List.filterMap_map]
      rfl
    · intro n inside
      have present := List.getElem?_eq_getElem (length ▸ inside)
      have failed := sound.failed_iff settled (List.mem_of_getElem? present)
      rw [List.getElem?_map, List.getElem?_map, present]
      simpa using failed
  case success =>
    rw [joinQueryErrors, List.filterMap_eq_nil_iff]
    constructor
    · intro noErrors n inside
      have present := List.getElem?_eq_getElem (length ▸ inside)
      have member := List.mem_of_getElem? present
      have noError := noErrors _ member
      rw [Option.map_eq_none_iff] at noError
      have failed := sound.failed_iff settled member
      rw [List.getElem?_map, present]
      cases result : entries[n].result with
      | none =>
          obtain ⟨cause, err⟩ := failed.mp result
          rw [noError] at err
          cases err
      | some res => exact ⟨res, by simp [result]⟩
    · intro everywhere e member
      obtain ⟨n, found⟩ := List.mem_iff_getElem?.mp member
      have inside := (List.getElem?_eq_some_iff.mp found).1
      obtain ⟨res, result⟩ := everywhere n (length ▸ inside)
      rw [List.getElem?_map, found] at result
      rcases sound.exclusive e member with absurd | none
      · simp [absurd] at result
      · rw [none]
        rfl

/-- Whenever `ResolveAll` returns, whatever the guest and the other goroutines
did, it has kept the batch contract, and results that were there at any earlier
point are among those it returns. -/
theorem batch_contract (parser : MessageParser) (queries : List Query) {middle s : State}
    {ret : Returned} (before : (machine parser queries).Reachable middle)
    (rest : (machine parser queries).Reaches Machine.always middle s)
    (returned : s.pc = .returned ret) :
    (ret = .errClosed ∧ queries = [] ∧ s.inst.closed = true) ∨
      ∃ results err, ret = .batch results err ∧ Contract queries results err ∧
        ∀ n res, Holds n res middle.entries → results[n]? = some (some res) := by
  have tidy : Tidy queries s := by
    apply Machine.Reachable.invariant _ (before.trans rest)
      (Tidy.resolveAll (.initial queries) queries)
    intro state action next held stepped
    exact held.step stepped
  have kept : ∀ n res, Holds n res middle.entries → Holds n res s.entries := by
    intro n res holds
    have preserved : ∀ (state : State) (action : Action) (next : State),
        Holds n res state.entries → Machine.always state action →
        (machine parser queries).step state action = some next → Holds n res next.entries := by
      intro state action next held _ stepped
      exact held.step stepped
    have carried := Machine.Reaches.invariant preserved rest holds
    exact carried
  have progress := tidy.progress
  rw [Progress, returned] at progress
  rcases progress with ⟨closedReturn, empty, closed⟩ | ⟨batch, settled⟩
  · left
    refine ⟨closedReturn, ?_, closed⟩
    rw [← tidy.sound.queries, empty]
    rfl
  · right
    refine ⟨_, _, batch, Contract.of_settled tidy.sound settled, ?_⟩
    intro n res holds
    obtain ⟨e, present, result⟩ := kept n res holds
    rw [List.getElem?_map, present, Option.map_some, result]

/-- A rejected name and a name that does not exist. -/
def mixedBatch : List Query := [⟨[], 1⟩, ⟨[97], 1⟩]

/-- A result structure at 128 that reports NXDOMAIN. -/
def nxDomainMemory : Memory := ⟨256, fun address => if address = 132 then 3 else 0⟩

/-- Up to the poll that settles the second query. -/
def mixedSettling : List Action :=
  [.step, .step, .step, .call (.ok (64, nxDomainMemory)), .call (.ok (1, nxDomainMemory)),
    .call (.ok (0, nxDomainMemory)), .step, .call (.ok (128, nxDomainMemory)), .step,
    .call (.ok (1, nxDomainMemory))]

/-- The deferred calls. -/
def mixedUnwinding : List Action :=
  [.step, .call (.ok (0, nxDomainMemory)), .step, .step, .call (.ok (0, nxDomainMemory)), .step]

theorem batch_contract_mixed :
    ∃ middle s results err,
      (machine emptyParser mixedBatch).run (State.initial mixedBatch) mixedSettling =
        some middle ∧
      (machine emptyParser mixedBatch).run middle mixedUnwinding = some s ∧
      s.pc = .returned (.batch results err) ∧ Contract mixedBatch results err ∧
      results[1]? = some (some ⟨false, false, true, [], [], [], []⟩) := by
  obtain ⟨middle, settling⟩ : ∃ middle, (machine emptyParser mixedBatch).run
      (State.initial mixedBatch) mixedSettling = some middle := ⟨_, rfl⟩
  obtain ⟨s, unwinding⟩ : ∃ s, (machine emptyParser mixedBatch).run middle mixedUnwinding =
      some s := by
    cases settling
    exact ⟨_, rfl⟩
  have holds : Holds 1 ⟨false, false, true, [], [], [], []⟩ middle.entries := by
    cases settling
    exact ⟨_, rfl, rfl⟩
  obtain ⟨results, err, returned⟩ : ∃ results err, s.pc = .returned (.batch results err) := by
    cases settling
    cases unwinding
    exact ⟨_, _, rfl⟩
  have contract := batch_contract emptyParser mixedBatch (Machine.reaches_of_run settling)
    (Machine.reaches_of_run unwinding) returned
  rcases contract with ⟨closedReturn, _⟩ | ⟨same, sameErr, batch, kept, results1⟩
  · cases closedReturn
  · cases batch
    exact ⟨middle, s, results, err, settling, unwinding, returned, kept, results1 1 _ holds⟩

end UnboundWasm.Host.Resolve
