import UnboundWasm.Host.Resolve.Batch
import UnboundWasm.System.Batches

/-!
# Slots are released

Every query of a batch meets its fate at its `resolve_start`: it is started unless it is
rejected or 64 queries before it were.  The slots in use are at any time those the batch
has still to release, and once it has returned there are none.
-/

namespace UnboundWasm.System.Batches

open UnboundWasm.Lib UnboundWasm.Host UnboundWasm.Host.Resolve UnboundWasm.Guest

/-- The ids of the queries that were started. -/
def rids (entries : List Entry) : List Int := (entries.map Entry.rid).filter (0 < ·)

/-- 64 queries before this position were started. -/
def full (entries : List Entry) (n : Nat) : Bool := maxResults ≤ (rids (entries.take n)).length

/-- A query is started unless `normalizeName` or libunbound rejects it, or the slots
were all in use. -/
def Fate (asked : Nat → Option Start) (entries : List Entry) (n : Nat) (e : Entry) : Prop :=
  match normalizeName e.query.name with
  | .error err => e.rid = 0 ∧ e.err = some err
  | .ok _ => ∃ start, asked n = some start ∧
      match startErr (full entries n) start with
      | some err => e.rid = 0 ∧ e.err = some (startFailure err)
      | none => 0 < e.rid

/-- The first loop is at this position. -/
structure Upto (asked : Nat → Option Start) (entries : List Entry) (n : Nat) : Prop where
  told : ∀ m e, m < n → entries[m]? = some e → Fate asked entries m e
  fresh : ∀ m e, n ≤ m → entries[m]? = some e → e.rid = 0 ∧ e.err = none

/-- The return value of `resolve_start`, by the errno it fails with. -/
def Answers (rid : Int) : Option Int → Prop
  | some err => rid = -err
  | none => 0 < rid

/-- What is known of the queries at each phase. -/
def Told (asked : Nat → Option Start) : Phase → List Entry → Prop
  | .loading n, entries => Upto asked entries n
  | .named n, entries => Upto asked entries n ∧
      ∃ e name, entries[n]? = some e ∧ normalizeName e.query.name = .ok name
  | .loaded n rid, entries => Upto asked entries n ∧
      ∃ e name start, entries[n]? = some e ∧ normalizeName e.query.name = .ok name ∧
        asked n = some start ∧ Answers rid (startErr (full entries n) start)
  | .broken, _ => False
  | .running, entries | .releasing _, entries | .released, entries =>
      ∀ n e, entries[n]? = some e → Fate asked entries n e

section

variable {asked : Nat → Option Start} {entries after : List Entry} {n : Nat} {e : Entry}
  {change : Entry → Entry}

theorem full_modify {m : Nat} (before : m ≤ n) :
    full (entries.modify n change) m = full entries m := by
  have kept : (entries.modify n change).take m = entries.take m := by
    rw [List.take_modify]
    apply List.modify_eq_self
    exact Nat.le_trans (List.length_take_le m entries) before
  rw [full, full, kept]

theorem Fate.congr {e' : Entry} (fate : Fate asked entries n e)
    (same : full after n = full entries n) (query : e'.query = e.query) (rid : e'.rid = e.rid)
    (err : e.err ≠ none → e'.err = e.err) : Fate asked after n e' := by
  unfold Fate at fate ⊢
  rw [query, rid, same]
  split
  next rejected =>
    rw [rejected] at fate
    exact ⟨fate.1, (err (by simp [fate.2])).trans fate.2⟩
  next accepted =>
    rw [accepted] at fate
    obtain ⟨start, known, outcome⟩ := fate
    refine ⟨start, known, ?_⟩
    split at outcome
    · exact ⟨outcome.1, (err (by simp [outcome.2])).trans outcome.2⟩
    · exact outcome

/-- The first loop leaves a position behind. -/
theorem Upto.advance (upto : Upto asked entries n) (present : entries[n]? = some e)
    (fate : Fate asked entries n (change e)) : Upto asked (entries.modify n change) (n + 1) := by
  constructor
  case told =>
    intro m e' before found
    have same : full (entries.modify n change) m = full entries m :=
      full_modify (Nat.le_of_lt_succ before)
    rcases getElem?_of_modify found with ⟨rfl, old, present', rfl⟩ | ⟨different, found⟩
    · rw [present] at present'
      cases present'
      exact fate.congr same rfl rfl fun _ => rfl
    · have earlier := upto.told m e' (by omega) found
      exact earlier.congr same rfl rfl fun _ => rfl
  case fresh =>
    intro m e' later found
    rcases getElem?_of_modify found with ⟨rfl, _⟩ | ⟨_, found⟩
    · omega
    · exact upto.fresh m e' (Nat.le_of_succ_le later) found

/-- What `resolve_start` meets with is noted for the position the first loop is at. -/
theorem Upto.ask (upto : Upto asked entries n) (start : Start) :
    Upto (Function.update asked n (some start)) entries n := by
  refine ⟨?_, upto.fresh⟩
  intro m e before present
  have fate := upto.told m e before present
  unfold Fate at fate ⊢
  rw [Function.update_of_ne (Nat.ne_of_lt before)]
  exact fate

/-- The first loop changes the position it is at and stays there. -/
theorem Upto.stay (upto : Upto asked entries n)
    (kept : ∀ e, (change e).rid = e.rid ∧ (change e).err = e.err) :
    Upto asked (entries.modify n change) n := by
  constructor
  case told =>
    intro m e' before found
    rcases getElem?_of_modify found with ⟨rfl, _⟩ | ⟨_, found⟩
    · exact absurd before (Nat.lt_irrefl m)
    · have earlier := upto.told m e' before found
      exact earlier.congr (full_modify (Nat.le_of_lt before)) rfl rfl fun _ => rfl
  case fresh =>
    intro m e' later found
    rcases getElem?_of_modify found with ⟨rfl, old, present, rfl⟩ | ⟨_, found⟩
    · rw [(kept old).1, (kept old).2]
      exact upto.fresh m old later present
    · exact upto.fresh m e' later found

theorem Settles.rids_eq (settles : Settles entries after) :
    after.map Entry.rid = entries.map Entry.rid := by
  induction settles with
  | nil => rfl
  | cons kept _ ih => rw [List.map_cons, List.map_cons, kept.2.1, ih]

theorem Settles.full_eq (settles : Settles entries after) (n : Nat) :
    full after n = full entries n := by
  rw [full, full, rids, rids, List.map_take, List.map_take, settles.rids_eq]

theorem Settles.before {e' : Entry} (settles : Settles entries after)
    (found : after[n]? = some e') :
    ∃ e, entries[n]? = some e ∧ e'.query = e.query ∧ e'.rid = e.rid ∧
      (e.unsettled = false → e'.err = e.err) := by
  induction settles generalizing n with
  | nil => simp at found
  | @cons first first' entries after kept _ ih =>
      cases n with
      | zero =>
          cases found
          exact ⟨first, rfl, kept⟩
      | succ n => exact ih found

/-- A query that `resolve_start` was called for meets its fate. -/
theorem fate_record {rid : Int} {name : Bytes} {start : Start}
    (fresh : e.rid = 0 ∧ e.err = none) (accepted : normalizeName e.query.name = .ok name)
    (known : asked n = some start) (answers : Answers rid (startErr (full entries n) start)) :
    Fate asked entries n (record rid e) := by
  have query : (record rid e).query = e.query := by
    unfold record
    split <;> rfl
  unfold Fate
  rw [query, accepted]
  refine ⟨start, known, ?_⟩
  cases failed : startErr (full entries n) start with
  | none =>
      rw [failed] at answers
      have positive : 0 < rid := answers
      rw [record, if_neg (by omega)]
      exact positive
  | some err =>
      rw [failed] at answers
      have bounds := startErr_bounds failed
      have negative : rid = -err := answers
      rw [record, if_pos (by omega), negative, neg_neg]
      exact ⟨fresh.1, rfl⟩

/-- The steps of the host that call no slot function keep what is known. -/
theorem Told.advance {here there : Phase} (told : Told asked here entries)
    (advance : Advance here entries there after) : Told asked there after := by
  cases advance with
  | stay => exact told
  | @reject n e err _ present rejected =>
      have fate : Fate asked entries n { e with err := some err } := by
        rw [Fate, rejected]
        exact ⟨(told.fresh n e (Nat.le_refl n) present).1, rfl⟩
      exact Upto.advance told present fate
  | @name n e name _ present accepted =>
      refine ⟨Upto.stay told fun _ => ⟨rfl, rfl⟩, { e with name := name }, name, ?_, accepted⟩
      rw [List.getElem?_modify_eq, present]
      rfl
  | recorded n rid =>
      obtain ⟨upto, e, name, start, present, accepted, known, answers⟩ := told
      have fate : Fate asked entries n (record rid e) :=
        fate_record (upto.fresh n e (Nat.le_refl n) present) accepted known answers
      exact upto.advance present fate
  | loaded ended =>
      intro m e present
      apply told.told m e _ present
      rw [List.getElem?_eq_none_iff] at ended
      exact Nat.lt_of_lt_of_le (List.getElem?_eq_some_iff.mp present).1 ended
  | settle settles =>
      intro m e' found
      obtain ⟨e, present, query, rid, err⟩ := settles.before found
      apply (told m e present).congr (settles.full_eq m) query rid
      intro failed
      apply err
      simp [Entry.unsettled, Option.isSome_iff_ne_none, failed]
  | release | skip | done => exact told

end

/-! ## The slots in use are those of the batch -/

/-- The ids the batch has still to release. -/
def outstanding : Phase → List Entry → List Int
  | .loaded _ rid, entries => if 0 < rid then rid :: rids entries else rids entries
  | .loading _, entries | .named _, entries | .broken, entries | .running, entries => rids entries
  | .releasing n, entries => rids (entries.drop n)
  | .released, _ => []

/-- The slots in use are those the batch has still to release. -/
structure Balanced (g : Slots) (here : Phase) (entries : List Entry) : Prop where
  idle : g.starting = none
  used : ∀ slot, (g.results slot).used = true ↔ slot + 1 ∈ outstanding here entries
  nodup : (outstanding here entries).Nodup
  range : ∀ rid ∈ outstanding here entries, 0 < rid ∧ rid ≤ maxResults

section

variable {asked : Nat → Option Start} {entries after : List Entry} {n : Nat} {e : Entry}
  {here there : Phase} {g g' : Slots}

@[simp] theorem rids_cons (e : Entry) (entries : List Entry) :
    rids (e :: entries) = if 0 < e.rid then e.rid :: rids entries else rids entries := by
  simp [rids, List.filter_cons]

@[simp] theorem rids_append (front back : List Entry) :
    rids (front ++ back) = rids front ++ rids back := by
  simp [rids]

theorem rids_modify {change : Entry → Entry} (present : entries[n]? = some e)
    (unstarted : e.rid = 0) :
    (rids (entries.modify n change)).Perm
      (if 0 < (change e).rid then (change e).rid :: rids entries else rids entries) := by
  obtain ⟨inside, found⟩ := List.getElem?_eq_some_iff.mp present
  obtain ⟨front, old, back, whole, length, modified⟩ := List.exists_of_modify change inside
  have same : old = e := by
    rw [whole, ← length] at present
    simpa using present
  subst same
  rw [modified, whole, rids_append, rids_append, rids_cons, rids_cons, unstarted]
  simp only [lt_irrefl, if_false]
  split
  · exact List.perm_middle
  · exact .refl _

theorem rids_drop (present : entries[n]? = some e) :
    rids (entries.drop n) =
      if 0 < e.rid then e.rid :: rids (entries.drop (n + 1)) else rids (entries.drop (n + 1)) := by
  obtain ⟨inside, rfl⟩ := List.getElem?_eq_some_iff.mp present
  rw [List.drop_eq_getElem_cons inside, rids_cons]

/-- Without a call of a slot function the batch has the same slots to release. -/
theorem Advance.outstanding_perm (advance : Advance here entries there after)
    (told : Told asked here entries) :
    (outstanding there after).Perm (outstanding here entries) := by
  cases advance with
  | stay => exact .refl _
  | @reject n e err _ present =>
      have unstarted := (told.fresh n e (Nat.le_refl n) present).1
      have kept : (rids (entries.modify n fun e => { e with err := some err })).Perm _ :=
        rids_modify present unstarted
      simpa [outstanding, unstarted] using kept
  | @name n e name _ present =>
      have unstarted := (told.fresh n e (Nat.le_refl n) present).1
      have kept : (rids (entries.modify n fun e => { e with name := name })).Perm _ :=
        rids_modify present unstarted
      simpa [outstanding, unstarted] using kept
  | recorded n rid =>
      obtain ⟨upto, e, _, _, present, _⟩ := told
      have unstarted := (upto.fresh n e (Nat.le_refl n) present).1
      have stored : (record rid e).rid = if rid < 0 then 0 else rid := by
        unfold record
        split
        · exact unstarted
        · rfl
      have kept : (rids (entries.modify n (record rid))).Perm _ := rids_modify present unstarted
      rw [stored] at kept
      by_cases negative : rid < 0
      · simpa [outstanding, negative, not_lt_of_gt negative] using kept
      · simpa [outstanding, negative] using kept
  | loaded => exact .refl _
  | settle settles =>
      simp only [outstanding, rids, settles.rids_eq]
      exact .refl _
  | release => exact .refl _
  | skip present none =>
      rw [outstanding, outstanding, rids_drop present, if_neg (by omega)]
  | @done n _ ended =>
      rw [List.getElem?_eq_none_iff] at ended
      rw [outstanding, outstanding, List.drop_eq_nil_of_le ended]
      rfl

theorem Balanced.congr (balanced : Balanced g here entries) (alike : Alike g g')
    (perm : (outstanding there after).Perm (outstanding here entries)) :
    Balanced g' there after := by
  constructor
  case idle => exact alike.starting.trans balanced.idle
  case used =>
    intro slot
    rw [alike.used, perm.mem_iff]
    exact balanced.used slot
  case nodup => exact perm.nodup_iff.mpr balanced.nodup
  case range => exact fun rid present => balanced.range rid (perm.mem_iff.mp present)

/-- The ids of all slots. -/
def ids : List Int := (List.range maxResults.toNat).map fun i : Nat => (i : Int) + 1

theorem mem_ids (rid : Int) : rid ∈ ids ↔ 0 < rid ∧ rid ≤ maxResults := by
  simp only [ids, List.mem_map, List.mem_range, maxResults]
  constructor
  · rintro ⟨i, small, rfl⟩
    omega
  · intro bounds
    exact ⟨(rid - 1).toNat, by omega, by omega⟩

theorem ids_nodup : ids.Nodup :=
  List.Nodup.map (fun _ _ same => by simpa using same) List.nodup_range

/-- There is no free slot when there are as many slots to release as there are. -/
theorem Balanced.freeSlot_isNone (balanced : Balanced g here entries) :
    (freeSlot g.results).isNone = decide (maxResults ≤ (outstanding here entries).length) := by
  have length : (ids.length : Int) = maxResults := by decide
  cases found : freeSlot g.results with
  | none =>
      have covered : ids ⊆ outstanding here entries := by
        intro rid present
        obtain ⟨i, small, rfl⟩ := List.mem_map.mp present
        apply (balanced.used i).mp
        simpa using List.find?_eq_none.mp found i small
      have bound := (ids_nodup.subperm covered).length_le
      simp only [Option.isNone_none, Bool.true_eq, decide_eq_true_eq]
      omega
  | some slot =>
      have unused : (slot : Int) + 1 ∉ outstanding here entries := by
        intro present
        have used := (balanced.used slot).mpr present
        rw [Slots.unused_of_freeSlot found] at used
        cases used
      have present : (slot : Int) + 1 ∈ ids :=
        List.mem_map.mpr ⟨slot, List.mem_of_find?_eq_some found, rfl⟩
      -- A free slot is one more than there are to release.
      have covered : ((slot : Int) + 1) :: outstanding here entries ⊆ ids := by
        apply List.cons_subset.mpr
        exact ⟨present, fun rid inside => (mem_ids rid).mpr (balanced.range rid inside)⟩
      have bound := ((List.nodup_cons.mpr ⟨unused, balanced.nodup⟩).subperm covered).length_le
      simp only [Option.isNone_some, Bool.false_eq, decide_eq_false_iff_not]
      rw [List.length_cons] at bound
      omega

/-- At a position of the first loop the slots to release are those of the positions
before it. -/
theorem Upto.rids_take (upto : Upto asked entries n) : rids (entries.take n) = rids entries := by
  have rest : rids (entries.drop n) = [] := by
    rw [rids, List.filter_eq_nil_iff]
    intro rid present
    obtain ⟨e, inside, rfl⟩ := List.mem_map.mp present
    obtain ⟨m, found⟩ := List.mem_iff_getElem?.mp inside
    rw [List.getElem?_drop] at found
    simp [(upto.fresh (n + m) e (Nat.le_add_right n m) found).1]
  conv_rhs => rw [← List.take_append_drop n entries, rids_append, rest, List.append_nil]

/-- `resolve_start` takes a slot for a query exactly if it does not fail. -/
theorem Balanced.start {start : Start} {value : Int} (balanced : Balanced g (.named n) entries)
    (upto : Upto asked entries n) (started : Started g start value g') :
    Balanced g' (.loaded n value) entries ∧ Answers value (startErr (full entries n) start) := by
  have isFull : (freeSlot g.results).isNone = full entries n := by
    rw [full, upto.rids_take]
    exact balanced.freeSlot_isNone
  cases started with
  | failed why alike =>
      rw [isFull] at why
      have bounds := startErr_bounds why
      rw [why]
      refine ⟨balanced.congr alike ?_, rfl⟩
      rw [outstanding, if_neg (by omega)]
      exact .refl _
  | @accepted slot _ free why idle used =>
      have unused : (slot : Int) + 1 ∉ rids entries := by
        intro present
        have taken := (balanced.used slot).mpr present
        rw [Slots.unused_of_freeSlot free] at taken
        cases taken
      rw [free] at isFull
      rw [← isFull, Option.isNone_some, why]
      have more : outstanding (.loaded n (slot + 1)) entries = ((slot : Int) + 1) :: rids entries :=
        if_pos (by omega)
      refine ⟨?_, show (0 : Int) < slot + 1 by omega⟩
      constructor
      case idle => exact idle
      case used =>
        intro other
        rw [more, List.mem_cons, used, add_left_inj]
        exact or_congr_right (balanced.used other)
      case nodup =>
        rw [more]
        exact List.nodup_cons.mpr ⟨unused, balanced.nodup⟩
      case range =>
        intro rid present
        rw [more] at present
        rcases List.mem_cons.mp present with rfl | old
        · apply (mem_ids _).mp
          exact List.mem_map.mpr ⟨slot, List.mem_of_find?_eq_some free, rfl⟩
        · exact balanced.range rid old

/-- `resolve_cancel` releases the slot of a position. -/
theorem Balanced.cancel (balanced : Balanced g (.releasing n) entries)
    (present : entries[n]? = some e) :
    Balanced (g.resolveCancel e.rid) (.releasing (n + 1)) entries := by
  have split := rids_drop present
  by_cases started : 0 < e.rid
  · rw [if_pos started] at split
    have first : e.rid ∈ outstanding (.releasing n) entries := by
      rw [outstanding, split]
      exact List.mem_cons_self
    have bounds := balanced.range e.rid first
    have used := (balanced.used (e.rid - 1)).mpr (by rw [sub_add_cancel]; exact first)
    have nodup := balanced.nodup
    rw [outstanding, split, List.nodup_cons] at nodup
    have after : g.resolveCancel e.rid = { g.set (e.rid - 1) clearResult with
        live := (g.resolveCancel e.rid).live } := by
      simp only [Slots.resolveCancel, if_neg (not_or.mpr ⟨not_le_of_gt bounds.1,
        not_lt_of_ge bounds.2⟩), used, if_true]
    rw [after]
    constructor
    case idle => exact balanced.idle
    case used =>
      intro other
      by_cases same : other = e.rid - 1
      · subst same
        simpa [Slots.set, clearResult, outstanding] using nodup.1
      · have before := balanced.used other
        rw [outstanding, split, List.mem_cons] at before
        have elsewhere : other + 1 ≠ e.rid := by omega
        simpa [Slots.set, same, outstanding, elsewhere] using before
    case nodup => exact nodup.2
    case range =>
      intro rid inside
      apply balanced.range
      rw [outstanding, split]
      exact List.mem_cons_of_mem _ inside
  · rw [if_neg started] at split
    have same : g.resolveCancel e.rid = g := by
      rw [Slots.resolveCancel, if_pos (.inl (by omega))]
    rw [same]
    apply balanced.congr (.refl g)
    rw [outstanding, outstanding, split]

end

/-- While the instance is open, every query meets its fate and the slots in use are those
of the batch. -/
def Fair (s : State) : Prop :=
  Open s.resolve.inst →
    Told s.asked (phase s.resolve.pc) s.resolve.entries ∧
      Balanced s.guest (phase s.resolve.pc) s.resolve.entries

theorem rids_new (queries : List Query) : rids (queries.map Entry.new) = [] := by
  rw [rids, List.filter_eq_nil_iff]
  intro rid present
  simp only [List.map_map, List.mem_map, Function.comp_apply] at present
  obtain ⟨query, _, rfl⟩ := present
  simp [Entry.new]

theorem told_new (queries : List Query) :
    Told (fun _ => none) (.loading 0) (queries.map Entry.new) := by
  constructor
  case told => exact fun _ _ impossible => absurd impossible (Nat.not_lt_zero _)
  case fresh =>
    intro m e _ present
    obtain ⟨query, _, rfl⟩ := List.mem_map.mp (List.mem_of_getElem? present)
    exact ⟨rfl, rfl⟩

theorem Fair.initial (parser : MessageParser) (memory : Memory) (queries : List Query) :
    Fair (batches parser memory queries).initial := by
  intro _
  refine ⟨told_new queries, rfl, ?_, ?_, ?_⟩
  all_goals simp only [batches, Resolve.State.initial, phase, outstanding, rids_new]
  · simp [Slots.initial, clearResult]
  · exact List.nodup_nil
  · exact fun _ impossible => by cases impossible

namespace Fair

variable {parser : MessageParser} {s after : State}

/-- A step of the host that is no call of `resolve_start` or `resolve_cancel`. -/
theorem advance {action : Resolve.Action} {resolve : Resolve.State} {guest : Slots} (fair : Fair s)
    (stepped : s.resolve.step parser action = some resolve)
    (permitted : permits s.resolve action = true ∨ ∃ n p, s.resolve.pc = .poll n p)
    (alike : Alike s.guest guest) : Fair { s with resolve := resolve, guest := guest } := by
  intro isOpen
  have before := isOpen.before (Resolve.State.later_of_step stepped)
  obtain ⟨told, balanced⟩ := fair before
  have unbroken : phase s.resolve.pc ≠ .broken := by
    intro broken
    rw [broken] at told
    exact told
  have moved : Advance (phase s.resolve.pc) s.resolve.entries (phase resolve.pc)
      resolve.entries := by
    cases action with
    | interfere what =>
        obtain ⟨-, inst, other, sweep, failing, rfl⟩ := Resolve.State.interfere_eq stepped
        exact .stay _ _
    | step | call | ctxDone | done | event | eventsClosed =>
        exact advance_of_ran (Resolve.State.ran_of_resolveStep stepped) before unbroken permitted
  exact ⟨told.advance moved, balanced.congr alike (moved.outstanding_perm told)⟩

theorem call_reply {value : Int} (low : -2 ^ 31 ≤ value) (high : value < 2 ^ 31)
    (memory : Memory) : call false (reply value memory) = .ok value := by
  have decoded : toInt32 ((value % 2 ^ 32).toNat : Int) = value := by
    simp only [toInt32, Int.bmod]
    omega
  simp only [call, reply, asInt32, guest, decoded]
  rfl

/-- What `resolve_start` returns is within 32 bits. -/
theorem value_bounds {g g' : Slots} {start : Start} {value : Int}
    (started : Started g start value g') : -2 ^ 31 ≤ value ∧ value < 2 ^ 31 := by
  cases started with
  | failed why =>
      have bounds := startErr_bounds why
      rw [enospc] at bounds
      omega
  | @accepted slot _ free =>
      have small := List.mem_range.mp (List.mem_of_find?_eq_some free)
      rw [maxResults] at small
      omega

/-- The host calls `resolve_start`. -/
theorem start {n p : Nat} {start : Start} {during : List Completion} {value : Int} {guest : Slots}
    {resolve : Resolve.State} (fair : Fair s) (here : s.resolve.pc = .callStart n p)
    (alive : s.resolve.inst.modDead = false)
    (called : s.guest.start start during = some (value, guest))
    (answered : s.resolve.step parser (.call (reply value guest.memory)) = some resolve) :
    Fair ⟨resolve, guest, Function.update s.asked n (some start)⟩ := by
  intro isOpen
  obtain ⟨⟨upto, e, name, present, accepted⟩, balanced⟩ := by
    have before := fair (isOpen.before (Resolve.State.later_of_step answered))
    rw [here] at before
    exact before
  have started := started_of_start balanced.idle called
  obtain ⟨balanced', answers⟩ := balanced.start upto started
  obtain ⟨low, high⟩ := value_bounds started
  obtain ⟨failed, logged⟩ := s.resolve.log_eq .resolveStart (reply value guest.memory)
  simp only [Resolve.State.step, Resolve.State.resolveStep, here, logged, alive,
    call_reply low high] at answered
  cases answered
  refine ⟨⟨upto.ask start, e, name, start, present, accepted, ?_, answers⟩, balanced'⟩
  exact Function.update_self ..

/-- The host calls `resolve_cancel`. -/
theorem cancel {n : Nat} {ret : Returned} {e : Entry} {guest : Slots} {resolve : Resolve.State}
    (fair : Fair s) (here : s.resolve.pc = .callCancel n ret)
    (present : s.resolve.entries[n]? = some e)
    (cancelled : s.guest.step (.resolveCancel e.rid) = some guest)
    (answered : s.resolve.step parser (.call (reply 0 guest.memory)) = some resolve) :
    Fair { s with resolve := resolve, guest := guest } := by
  intro isOpen
  obtain ⟨told, balanced⟩ := by
    have before := fair (isOpen.before (Resolve.State.later_of_step answered))
    rw [here] at before
    exact before
  simp only [Slots.step, balanced.idle, Option.some.injEq] at cancelled
  subst cancelled
  obtain ⟨failed, logged⟩ := s.resolve.log_eq .resolveCancel
    (reply 0 (s.guest.resolveCancel e.rid).memory)
  simp only [Resolve.State.step, Resolve.State.resolveStep, here, logged] at answered
  cases answered
  exact ⟨told, balanced.cancel present⟩

theorem step {action : Action} (fair : Fair s) (stepped : s.step parser action = some after) :
    Fair after := by
  cases State.moved_of_step stepped with
  | resolve permitted answered => exact fair.advance answered (.inl permitted) (.refl s.guest)
  | callback called =>
      intro isOpen
      obtain ⟨told, balanced⟩ := fair isOpen
      rw [Slots.step.eq_def, balanced.idle] at called
      exact ⟨told, balanced.congr (alike_of_callback called) (.refl _)⟩
  | write written =>
      intro isOpen
      obtain ⟨told, balanced⟩ := fair isOpen
      cases Slots.moved_of_step written with
      | write => exact ⟨told, balanced.congr ⟨rfl, fun _ => rfl⟩ (.refl _)⟩
  | start here alive called answered => exact fair.start here alive called answered
  | get here gotten answered =>
      apply fair.advance answered (.inr ⟨_, _, here⟩)
      cases Slots.moved_of_step gotten with
      | resultGet => exact ⟨rfl, fun _ => rfl⟩
  | cancel here present cancelled answered => exact fair.cancel here present cancelled answered
  | next queries here =>
      intro isOpen
      have before := (fair isOpen).2
      rw [here] at before
      refine ⟨told_new queries, before.congr (.refl _) ?_⟩
      change (rids (queries.map Entry.new)).Perm []
      rw [rids_new]

theorem of_reachable {memory : Memory} {queries : List Query}
    (reachable : (batches parser memory queries).Reachable s) : Fair s :=
  Machine.Reachable.invariant (fun _ _ _ fair stepped => fair.step stepped) reachable
    (Fair.initial parser memory queries)

end Fair

/-! ## The slots of the batches are slots of the guest -/

section

variable {memory : Memory} {g after : Slots}

theorem reaches_of_callbacks {during : List Completion}
    (called : during.foldlM Slots.callback g = some after) :
    (slots memory).Reaches Machine.always g after := by
  induction during generalizing g with
  | nil =>
      cases called
      exact .refl _
  | cons completion during ih =>
      obtain ⟨middle, first, rest⟩ := Option.bind_eq_some_iff.mp called
      have stepped : g.step (.callback completion) = some middle := by
        rw [Slots.step.eq_def]
        cases g.starting <;> exact first
      have one : (slots memory).Reaches Machine.always g middle :=
        (Machine.Reaches.refl g).step trivial stepped
      exact one.trans (ih rest)

theorem reaches_of_start {start : Start} {during : List Completion} {value : Int}
    (called : g.start start during = some (value, after)) :
    (slots memory).Reaches Machine.always g after := by
  unfold Slots.start at called
  split at called
  · obtain ⟨middle, stepped, same⟩ := Option.map_eq_some_iff.mp called
    cases same
    exact (Machine.Reaches.refl g).step trivial stepped
  · split at called
    · cases called
    next inside ran =>
      obtain ⟨starting, here, same⟩ := Option.map_eq_some_iff.mp called
      cases same
      obtain ⟨middle, begun, callbacks⟩ := Option.bind_eq_some_iff.mp ran
      have returned : inside.step .startReturn = some (inside.startReturn starting) := by
        rw [Slots.step.eq_def, here]
      have begin : (slots memory).Reaches Machine.always g middle :=
        (Machine.Reaches.refl g).step trivial begun
      exact (begin.trans (reaches_of_callbacks callbacks)).step trivial returned

/-- A step of host and guest is a run of the guest alone. -/
theorem reaches_of_step {parser : MessageParser} {s s' : State} {action : Action}
    (stepped : s.step parser action = some s') :
    (slots memory).Reaches Machine.always s.guest s'.guest := by
  have single {guestAction : SlotAction} {guest : Slots}
      (moved : s.guest.step guestAction = some guest) :
      (slots memory).Reaches Machine.always s.guest guest :=
    (Machine.Reaches.refl s.guest).step trivial moved
  cases State.moved_of_step stepped with
  | resolve | next => exact .refl _
  | callback moved => exact single moved
  | write moved => exact single moved
  | start _ _ called => exact reaches_of_start called
  | get _ moved => exact single moved
  | cancel _ _ moved => exact single moved

end

end UnboundWasm.System.Batches
