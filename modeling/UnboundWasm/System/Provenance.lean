import UnboundWasm.System.Answers
import UnboundWasm.System.Released

/-!
# Where answers come from

What is known of a position of a batch while its query goes from the block its name is written
to, through the slot it is started in, to the buffer its outcome is read from.
-/

namespace UnboundWasm.System.Answers

open UnboundWasm.Lib UnboundWasm.Host UnboundWasm.Host.Resolve UnboundWasm.Guest
open UnboundWasm.System.Batches (reply record)

/-! ## Between the two ends of `resolve_start` -/

/-- Nothing is started any more. -/
def late : Pc → Bool
  | .closing _ _ _ | .free _ _ | .cancel _ _ | .callCancel _ _ | .returned _ | .entry => true
  | _ => false

/-- A `resolve_start` has failed, and the instance is being closed for it. -/
def Doomed (s : Resolve.State) : Prop :=
  (∃ n p err, s.pc = .freeName n p (.error err)) ∨ (Shutting s ∧ late s.pc = true)

section

variable {parser : MessageParser} {s after : Resolve.State} {action : Resolve.Action}

theorem late_of_ran (ran : Resolve.State.Ran parser s action after) (shutting : Shutting s)
    (isLate : late s.pc = true) : late after.pc = true := by
  cases ran with
  | enter here =>
      have closed : s.inst.closed = true := by
        rcases shutting with closed | ⟨err, p, closing⟩
        · exact closed
        · simp [here] at closing
      rw [Resolve.State.enter, if_pos closed]
      split <;> rfl
  | closing here closing => cases closing <;> rfl
  | free | callCancel => rfl
  | cancelNext =>
      unfold Resolve.State.cancelNext
      split
      · rfl
      · split <;> rfl
  | startNext here | nameRefused here | allocName here | callStart here | freeName here
  | resultRefused here | allocResult here | pollEnd here | pollWait here | pollSkip here
  | pollCall here | ctxDone here | doneFailed here | done here | event here | eventsClosed here
  | dispatchFailed here | dispatch here => simp [here, late] at isLate

theorem Doomed.step (doomed : Doomed s) (stepped : s.step parser action = some after) :
    Doomed after := by
  rcases doomed with ⟨n, p, err, here⟩ | ⟨shutting, isLate⟩
  · cases action with
    | interfere what =>
        obtain ⟨-, inst, other, sweep, failing, rfl⟩ := Resolve.State.interfere_eq stepped
        exact .inl ⟨n, p, err, here⟩
    | call answer =>
        right
        simp only [Resolve.State.step, Resolve.State.resolveStep, here] at stepped
        cases stepped
        exact ⟨.inr ⟨_, _, rfl⟩, rfl⟩
    | step | ctxDone | done | event | eventsClosed =>
        simp [Resolve.State.step, Resolve.State.resolveStep, here] at stepped
  · right
    refine ⟨shutting.step stepped, ?_⟩
    cases action with
    | interfere what =>
        obtain ⟨-, inst, other, sweep, failing, rfl⟩ := Resolve.State.interfere_eq stepped
        exact isLate
    | step | call | ctxDone | done | event | eventsClosed =>
        exact late_of_ran (Resolve.State.ran_of_resolveStep stepped) shutting isLate

/-- A `resolve_start` that is not answered is the end of the instance. -/
theorem doomed_of_step (stepped : s.step parser action = some after)
    (own : answered s action = false) (begun : (∃ n p, s.pc = .callStart n p) ∨ Doomed s) :
    (∃ n p, after.pc = .callStart n p) ∨ Doomed after := by
  rcases begun with ⟨n, p, here⟩ | doomed
  · cases action with
    | interfere what =>
        obtain ⟨-, inst, other, sweep, failing, rfl⟩ := Resolve.State.interfere_eq stepped
        exact .inl ⟨n, p, here⟩
    | call answer =>
        obtain ⟨err, trapped⟩ := trapped_of_unanswered own (by simp [here, asks])
        simp only [Resolve.State.step, Resolve.State.resolveStep, here, trapped] at stepped
        cases stepped
        exact .inr (.inl ⟨n, p, err, rfl⟩)
    | step | ctxDone | done | event | eventsClosed =>
        simp [Resolve.State.step, Resolve.State.resolveStep, here] at stepped
  · exact .inr (doomed.step stepped)

end

/-! ## The world of the guest -/

/-- What is known of the world at any time. -/
structure Sane (w : World) : Prop where
  kept : w.guest.Kept w.notes
  remembering : w.guest.Remembering w.notes
  inRange : w.guest.InRange
  known : ∀ n query, w.position n = some query →
    query < w.guest.queries ∧ ∃ rid, .started rid query ∈ w.notes
  distinct : ∀ m n query, w.position m = some query → w.position n = some query → m = n

/-- The slot of an id is in use for the query of a position, which asks for its name. -/
structure Bound (w : World) (n : Nat) (e : Entry) (rid : Int) : Prop where
  valid : 0 < rid ∧ rid ≤ maxResults
  used : (w.guest.results (rid - 1)).used = true
  query : ∃ query, w.position n = some query ∧ w.guest.holder w.notes (rid - 1) = some query ∧
    w.questions query = some ⟨e.name, e.query.type⟩

/-- What a poll of a position came to is what libunbound reported for its name and type. -/
def Justified (parser : MessageParser) (w : World) (n : Nat) (query : Query) (poll : Poll) :
    Prop :=
  ∃ name number outcome packetBlock whyBlock, normalizeName query.name = .ok name ∧
    w.position n = some number ∧ w.questions number = some ⟨name, query.type⟩ ∧
    .completed number outcome ∈ w.notes ∧
    Mapped parser outcome packetBlock whyBlock name query.type poll

/-- What is known of a position stays known. -/
structure World.Extends (w after : World) (n : Nat) : Prop where
  position : ∀ query, w.position n = some query → after.position n = some query
  questions : ∀ query, query < w.guest.queries → after.questions query = w.questions query
  notes : w.notes ⊆ after.notes

section

variable {parser : MessageParser} {w after : World} {action : SlotAction} {n : Nat}

theorem World.eq_of_act (acted : w.act action = some after) :
    w.guest.step action = some after.guest ∧
      after = { w with
        guest := after.guest
        notes := w.notes ++ (w.guest.note action).toList } := by
  obtain ⟨guest, stepped, rfl⟩ := Option.map_eq_some_iff.mp acted
  exact ⟨stepped, rfl⟩

theorem World.extends_act (acted : w.act action = some after) : w.Extends after n := by
  obtain ⟨-, same⟩ := World.eq_of_act acted
  rw [same]
  exact ⟨fun _ known => known, fun _ _ => rfl, List.subset_append_left _ _⟩

theorem Justified.extend {query : Query} {poll : Poll} (justified : Justified parser w n query poll)
    (sane : Sane w) (grows : w.Extends after n) : Justified parser after n query poll := by
  obtain ⟨name, number, outcome, packetBlock, whyBlock, accepted, mine, asked, completed, mapped⟩ :=
    justified
  refine ⟨name, number, outcome, packetBlock, whyBlock, accepted, grows.position number mine, ?_,
    grows.notes completed, mapped⟩
  rw [grows.questions number (sane.known n number mine).1]
  exact asked

theorem Justified.settles {query : Query} {poll : Poll}
    (justified : Justified parser w n query poll) :
    (∃ err, poll = .failed err) ∨ ∃ res, poll = .ready res := by
  obtain ⟨_, _, _, _, _, -, -, -, -, mapped⟩ := justified
  exact mapped.settles

theorem Sane.act (sane : Sane w) (acted : w.act action = some after)
    (heaped : w.guest.Heaped action) : Sane after := by
  obtain ⟨stepped, same⟩ := World.eq_of_act acted
  have queries := Slots.queries_step stepped
  rw [same]
  constructor
  case kept => exact sane.kept.step stepped
  case remembering => exact sane.kept.remembers_step stepped heaped sane.remembering
  case inRange => exact sane.inRange.step stepped
  case known =>
    intro n query mine
    obtain ⟨small, rid, started⟩ := sane.known n query mine
    exact ⟨Nat.lt_of_lt_of_le small queries, rid, List.mem_append_left _ started⟩
  case distinct => exact sane.distinct

theorem Bound.act {e : Entry} {rid : Int} (bound : Bound w n e rid)
    (acted : w.act action = some after) (uncancelled : ∀ rid, action ≠ .resolveCancel rid) :
    Bound after n e rid := by
  obtain ⟨stepped, same⟩ := World.eq_of_act acted
  obtain ⟨query, mine, held, asked⟩ := bound.query
  have still := Slots.used_step stepped bound.used held uncancelled
  rw [same]
  constructor
  case valid => exact bound.valid
  case used => exact still
  case query => exact ⟨query, mine, (Slots.holder_step stepped bound.used still).trans held, asked⟩

/-- Another question does not concern it. -/
theorem Bound.ask {e : Entry} {rid : Int} (bound : Bound w n e rid) {number : Nat}
    (question : Option Question) (other : ∀ query, w.position n = some query → query ≠ number) :
    Bound { w with questions := Function.update w.questions number question } n e rid := by
  obtain ⟨query, mine, held, asked⟩ := bound.query
  have kept : Function.update w.questions number question query =
      some ⟨e.name, e.query.type⟩ := by
    rw [Function.update_of_ne (other query mine)]
    exact asked
  exact ⟨bound.valid, bound.used, query, mine, held, kept⟩

/-- Nor does another position. -/
theorem Bound.place {e : Entry} {rid : Int} {m : Nat} (bound : Bound w m e rid) (other : m ≠ n)
    (number : Option Nat) :
    Bound { w with position := Function.update w.position n number } m e rid := by
  obtain ⟨query, mine, held, asked⟩ := bound.query
  refine ⟨bound.valid, bound.used, query, ?_, held, asked⟩
  exact (Function.update_of_ne other number w.position).trans mine

/-- A query that was started for no position yet is given to one. -/
theorem Sane.place {number : Nat} (sane : Sane w) (small : number < w.guest.queries)
    (started : ∃ rid, .started rid number ∈ w.notes)
    (fresh : ∀ m, w.position m ≠ some number) :
    Sane { w with position := Function.update w.position n (some number) } := by
  have cases' : ∀ m query, Function.update w.position n (some number) m = some query →
      (m = n ∧ query = number) ∨ (m ≠ n ∧ w.position m = some query) := by
    intro m query mine
    by_cases same : m = n
    · rw [same, Function.update_self, Option.some.injEq] at mine
      exact .inl ⟨same, mine.symm⟩
    · rw [Function.update_of_ne same] at mine
      exact .inr ⟨same, mine⟩
  constructor
  case kept => exact sane.kept
  case remembering => exact sane.remembering
  case inRange => exact sane.inRange
  case known =>
    intro m query mine
    rcases cases' m query mine with ⟨-, rfl⟩ | ⟨-, mine⟩
    · exact ⟨small, started⟩
    · exact sane.known m query mine
  case distinct =>
    intro m m' query mine other
    rcases cases' m query mine with ⟨rfl, rfl⟩ | ⟨-, mine⟩ <;>
      rcases cases' m' _ other with ⟨same, isNumber⟩ | ⟨-, other⟩
    · exact same.symm
    · exact absurd other (fresh m')
    · rw [isNumber] at mine
      exact absurd mine (fresh m)
    · exact sane.distinct m m' query mine other

/-- The query of a `resolve_start` has no position before it returns. -/
theorem Sane.unplaced {starting : Starting} {id : Int} (sane : Sane w)
    (here : w.guest.starting = some starting) (accepted : starting.result = .ok id) :
    ∀ m, w.position m ≠ some starting.query := by
  intro m mine
  obtain ⟨-, rid, started⟩ := sane.known m starting.query mine
  have unstarted := (sane.kept.numbered.unstarted starting id here accepted).2
  have absent := List.countP_eq_zero.mp unstarted _ started
  simp [SlotNote.starts] at absent

end

/-! ## The batch -/

/-- The first loop has not come to a position. -/
def Untouched (entries : List Entry) (n : Nat) : Prop :=
  ∀ m e, n ≤ m → entries[m]? = some e → e.rid = 0 ∧ e.result = none ∧ e.err = none

/-- The name of a position has been accepted. -/
def Named (entries : List Entry) (n : Nat) (e : Entry) : Prop :=
  entries[n]? = some e ∧ normalizeName e.query.name = .ok e.name

/-- The name of a position is in its block, and from there libunbound has it. -/
structure Asking (w : World) (e : Entry) (p : Nat) : Prop where
  written : w.guest.starting = none → w.guest.memory.read p e.name.length = some e.name
  asked : ∀ starting id, w.guest.starting = some starting → starting.result = .ok id →
    w.questions starting.query = some ⟨e.name, e.query.type⟩

/-- What is known at each stage. -/
def Here (w : World) (entries : List Entry) : Stage → Prop
  | .loading n => Untouched entries n
  | .naming n => Untouched entries n ∧ ∃ e, Named entries n e
  | .asking n p => Untouched entries n ∧ ∃ e, Named entries n e ∧ Asking w e p
  | .asked n (.ok rid) =>
      Untouched entries n ∧ ∃ e, Named entries n e ∧ (0 < rid → Bound w n e rid)
  | .asked _ (.error _) | .waiting | .ended => True
  | .polling p => p + resultSize ≤ w.guest.memory.size ∧ w.guest.Clear p resultSize

/-- A position that was started is bound to its query. -/
def Placed (w : World) (n : Nat) (e : Entry) : Prop :=
  e.rid = 0 ∨ (Bound w n e e.rid ∧ normalizeName e.query.name = .ok e.name)

/-- A position has settled as its query has. -/
structure Settled (parser : MessageParser) (w : World) (n : Nat) (e : Entry) : Prop where
  result : ∀ res, e.result = some res → Justified parser w n e.query (.ready res)
  err : ∀ err, e.err = some err → reported err = true →
    Justified parser w n e.query (.failed err)

section

variable {parser : MessageParser} {w : World} {here there : Stage} {entries after : List Entry}
  {n : Nat} {change : Entry → Entry}

theorem untouched_new (queries : List Query) : Untouched (queries.map Entry.new) 0 := by
  intro m e _ present
  rw [List.getElem?_map, Option.map_eq_some_iff] at present
  obtain ⟨query, -, rfl⟩ := present
  exact ⟨rfl, rfl, rfl⟩

theorem placed_new (queries : List Query) :
    ∀ n e, (queries.map Entry.new)[n]? = some e → Placed w n e :=
  fun n e present => .inl (untouched_new queries n e (Nat.zero_le n) present).1

/-- A position that is untouched has not settled. -/
theorem Untouched.settled {m : Nat} {e : Entry} (untouched : Untouched entries n) (later : n ≤ m)
    (present : entries[m]? = some e) : Settled parser w m e := by
  obtain ⟨-, noResult, noErr⟩ := untouched m e later present
  exact ⟨by simp [noResult], by simp [noErr]⟩

theorem settled_new (queries : List Query) :
    ∀ n e, (queries.map Entry.new)[n]? = some e → Settled parser w n e :=
  fun n _ present => (untouched_new queries).settled (Nat.zero_le n) present

theorem Untouched.advance (untouched : Untouched entries n) :
    Untouched (entries.modify n change) (n + 1) := by
  intro m e later found
  rcases getElem?_of_modify found with ⟨rfl, _⟩ | ⟨_, found⟩
  · omega
  · exact untouched m e (Nat.le_of_succ_le later) found

theorem Untouched.stay (untouched : Untouched entries n)
    (kept : ∀ e, (change e).rid = e.rid ∧ (change e).result = e.result ∧ (change e).err = e.err) :
    Untouched (entries.modify n change) n := by
  intro m e later found
  rcases getElem?_of_modify found with ⟨rfl, before, present, rfl⟩ | ⟨_, found⟩
  · rw [(kept before).1, (kept before).2.1, (kept before).2.2]
    exact untouched m before later present
  · exact untouched m e later found

theorem Hosted.ended_stays (hosted : Hosted .ended entries there after) : there = .ended := by
  cases hosted <;> rfl

theorem Here.hosted (known : Here w entries here) (hosted : Hosted here entries there after) :
    Here w after there := by
  cases hosted with
  | stay => exact known
  | reject => exact Untouched.advance known
  | @name n e name _ present accepted =>
      refine ⟨Untouched.stay known fun _ => ⟨rfl, rfl, rfl⟩, { e with name := name }, ?_, accepted⟩
      rw [List.getElem?_modify_eq, present]
      rfl
  | recorded n rid => exact Untouched.advance known.1
  | trapped | loaded | ended | fail => trivial

theorem reported_normalizeName {name : Bytes} {err : Error}
    (rejected : normalizeName name = .error err) : reported err = false := by
  unfold normalizeName at rejected
  split at rejected
  · cases rejected
    rfl
  split at rejected
  · cases rejected
    rfl
  split at rejected <;> cases rejected
  rfl

/-- The host moves a position to another id only once its query is known. -/
theorem placed_hosted (known : Here w entries here)
    (placed : ∀ n e, entries[n]? = some e → Placed w n e)
    (hosted : Hosted here entries there after) :
    there = .ended ∨ ∀ n e, after[n]? = some e → Placed w n e := by
  cases hosted with
  | ended | fail => exact .inl rfl
  | stay | trapped | loaded => exact .inr placed
  | @reject n e err =>
      right
      intro m e' found
      rcases getElem?_of_modify found with ⟨rfl, before, present, rfl⟩ | ⟨_, found⟩
      · exact .inl (known m before (Nat.le_refl m) present).1
      · exact placed m e' found
  | @name n e name =>
      right
      intro m e' found
      rcases getElem?_of_modify found with ⟨rfl, before, present, rfl⟩ | ⟨_, found⟩
      · exact .inl (known m before (Nat.le_refl m) present).1
      · exact placed m e' found
  | recorded n rid =>
      right
      intro m e' found
      rcases getElem?_of_modify found with ⟨rfl, before, present, rfl⟩ | ⟨_, found⟩
      · obtain ⟨untouched, e, ⟨same, accepted⟩, bound⟩ := known
        rw [present] at same
        cases same
        have unstarted := (untouched m before (Nat.le_refl m) present).1
        unfold record
        split
        · exact .inl unstarted
        · by_cases positive : 0 < rid
          · exact .inr ⟨{ bound positive with }, accepted⟩
          · exact .inl (by dsimp only; omega)
      · exact placed m e' found

theorem Placed.congr {e e' : Entry} (placed : Placed w n e) (rid : e'.rid = e.rid)
    (name : e'.name = e.name) (query : e'.query = e.query) : Placed w n e' := by
  rcases placed with unstarted | ⟨bound, accepted⟩
  · exact .inl (rid.trans unstarted)
  · right
    rw [name, query, rid]
    refine ⟨⟨bound.valid, bound.used, ?_⟩, accepted⟩
    rw [name, query]
    exact bound.query

theorem Settled.of_err {e : Entry} {err : Error} (settled : Settled parser w n e)
    (plain : reported err = false) : Settled parser w n { e with err := some err } where
  result := settled.result
  err := by
    rintro other ⟨⟩ isReported
    rw [plain] at isReported
    cases isReported

/-- What the host reports on its own account tells of no query. -/
theorem settled_hosted (settled : ∀ n e, entries[n]? = some e → Settled parser w n e)
    (hosted : Hosted here entries there after) :
    ∀ n e, after[n]? = some e → Settled parser w n e := by
  intro m e' found
  cases hosted with
  | stay | trapped | loaded | ended => exact settled m e' found
  | @reject n e err _ present rejected =>
      rcases getElem?_of_modify found with ⟨rfl, before, present, rfl⟩ | ⟨_, found⟩
      · exact (settled m before present).of_err (reported_normalizeName rejected)
      · exact settled m e' found
  | @name n e name =>
      rcases getElem?_of_modify found with ⟨rfl, before, present, rfl⟩ | ⟨_, found⟩
      · exact { settled m before present with }
      · exact settled m e' found
  | recorded n rid =>
      rcases getElem?_of_modify found with ⟨rfl, before, present, rfl⟩ | ⟨_, found⟩
      · unfold record
        split
        · exact (settled m before present).of_err rfl
        · exact { settled m before present with }
      · exact settled m e' found
  | @fail _ err _ plain =>
      rw [List.getElem?_map, Option.map_eq_some_iff] at found
      obtain ⟨before, present, rfl⟩ := found
      unfold Entry.fail
      split
      · exact (settled m before present).of_err plain
      · exact settled m before present

end

/-! ## Allocations -/

theorem pc_of_asking {pc : Pc} {n p : Nat} (at' : stage pc = .asking n p) :
    pc = .callStart n p := by
  cases pc <;> simp_all [stage]

variable {data : Bytes} {parser : MessageParser}

theorem keeps_stored {g : Slots} {memory : Memory} {p : UInt32} (keeps : g.Keeps memory)
    (clear : g.Clear p.toNat data.length) : g.Keeps (stored memory p data) := by
  unfold stored
  split
  · exact keeps
  · cases written : memory.write p.toNat data with
    | none => exact keeps
    | some after =>
        constructor
        case grows =>
          rw [Option.getD_some, Memory.size_of_write written]
          exact keeps.grows
        case blocks =>
          intro slot ready block mine
          rw [Option.getD_some,
            Memory.read_write_of_disjoint written (clear slot ready block mine)]
          exact keeps.blocks slot ready block mine

/-- A block that the host has written to. -/
def Allocated (memory : Memory) (p : UInt32) (data : Bytes) : Prop :=
  p ≠ 0 ∧ (data ≠ [] → memory.write p.toNat data ≠ none)

theorem allocated_of_allocWrite {memory : Memory} {p : UInt32} {q : Nat}
    (allocated : allocWrite false (.ok (p.toNat, memory)) data = .ok q) :
    q = p.toNat ∧ Allocated memory p data := by
  have small := p.toNat_lt
  simp only [allocWrite, Host.guest, Bool.false_eq_true, if_false,
    Nat.mod_eq_of_lt small] at allocated
  split at allocated
  · cases allocated
  next present =>
    split at allocated
    · cases allocated
    next fits =>
      cases allocated
      refine ⟨rfl, ?_, fun filled missing => fits ⟨filled, missing⟩⟩
      rintro rfl
      exact present rfl

/-- What was written to a block that is not empty is there. -/
theorem Allocated.read {memory : Memory} {p : UInt32} (allocated : Allocated memory p data)
    (filled : data ≠ []) : (stored memory p data).read p.toNat data.length = some data := by
  obtain ⟨after, written⟩ := Option.ne_none_iff_exists'.mp (allocated.2 filled)
  rw [stored, if_neg allocated.1, written, Option.getD_some]
  exact Memory.read_write written

/-- What a call of `alloc` that returns comes to. -/
inductive Alloc (s : Resolve.State) (p : UInt32) (memory : Memory) (data : Bytes)
    (after : Resolve.State) : Prop where
  | failed {failed : List Export} {err : Error}
      (refused : allocWrite false (.ok (p.toNat, memory)) data = .error err)
      (there : after = Resolve.State.failUnsettled { s with failed := failed } err 0)
  | name {n : Nat} (here : s.pc = .allocName n) (wanted : data = s.nameAt n)
      (allocated : Allocated memory p data) (same : after.entries = s.entries)
      (there : after.pc = .callStart n p.toNat)
  | result (here : s.pc = .allocResult) (wanted : data = List.replicate resultSize 0)
      (allocated : Allocated memory p data) (same : after.entries = s.entries)
      (there : after.pc = .poll 0 p.toNat)

theorem alloc_of_step {s after : Resolve.State} {p : UInt32} {memory : Memory}
    (alive : s.inst.modDead = false) (asked : wanted s = some data)
    (stepped : s.step parser (.call (.ok (p.toNat, memory))) = some after) :
    Alloc s p memory data after := by
  obtain ⟨failed, logged⟩ := s.log_eq .alloc (.ok (p.toNat, memory))
  unfold wanted at asked
  split at asked
  next n here =>
    cases asked
    simp only [Resolve.State.step, Resolve.State.resolveStep, here, logged,
      Option.some.injEq] at stepped
    subst stepped
    unfold Resolve.State.afterAllocName
    split
    next refused => exact .failed (alive ▸ refused) rfl
    next q found =>
      obtain ⟨rfl, allocated⟩ := allocated_of_allocWrite (alive ▸ found)
      exact .name here rfl allocated rfl rfl
  next here =>
    cases asked
    simp only [Resolve.State.step, Resolve.State.resolveStep, here, logged,
      Option.some.injEq] at stepped
    subst stepped
    unfold Resolve.State.afterAllocResult
    split
    next refused => exact .failed (alive ▸ refused) rfl
    next q found =>
      obtain ⟨rfl, allocated⟩ := allocated_of_allocWrite (alive ▸ found)
      exact .result here rfl allocated rfl rfl
  · cases asked

/-- `resolve_start` returns to the host. -/
theorem State.started_of_answer {s after : State} {n p : Nat} {value : Int} {world : World}
    (here : s.resolve.pc = .callStart n p) (low : -2 ^ 31 ≤ value) (high : value < 2 ^ 31)
    (answered : s.answer parser value world = some after) :
    after.resolve.pc = .freeName n p (.ok value) ∧
      after.resolve.entries = s.resolve.entries := by
  obtain ⟨alive, rfl, stepped⟩ := State.eq_of_answer answered
  obtain ⟨failed, logged⟩ := s.resolve.log_eq .resolveStart
    (reply value after.world.guest.memory)
  simp only [Resolve.State.step, Resolve.State.resolveStep, here, logged, alive,
    Batches.Fair.call_reply low high, Option.some.injEq] at stepped
  rw [← stepped]
  exact ⟨rfl, rfl⟩

/-- So does `result_get`. -/
theorem State.polled_of_answer {s after : State} {n p : Nat} {e : Entry} {value : Int}
    {memory : Memory} {world : World} (here : s.resolve.pc = .poll n p)
    (present : s.resolve.entries[n]? = some e)
    (got : guestResultGet s.world.guest.memory s.world.guest.results e.rid p =
      some (value, memory)) (moved : s.world.act (.resultGet e.rid p) = some world)
    (answered : s.answer parser value world = some after) :
    e.rid ≠ 0 ∧ e.unsettled = true ∧ ∃ before : Resolve.State,
      after.resolve = before.polled n p
        (pollResult parser false (asInt32 (reply value memory)) p e.name e.query.type) ∧
      before.entries = s.resolve.entries := by
  obtain ⟨alive, rfl, answer⟩ := State.eq_of_answer answered
  obtain ⟨stepped, -⟩ := World.eq_of_act moved
  rw [Slots.memory_of_resultGet stepped got] at answer
  obtain ⟨failed, logged⟩ := s.resolve.log_eq .resultGet (reply value memory)
  simp only [Resolve.State.step, Resolve.State.resolveStep, here, Resolve.State.pollCall,
    present, logged, alive] at answer
  split at answer
  · cases answer
  next unskipped =>
    obtain ⟨started, unsettled⟩ : ¬ e.rid = 0 ∧ e.unsettled = true := by
      simpa [Resolve.State.skipped] using unskipped
    exact ⟨started, unsettled, _, (Option.some.inj answer).symm, rfl⟩

end UnboundWasm.System.Answers
