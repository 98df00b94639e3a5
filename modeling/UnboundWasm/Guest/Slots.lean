import Mathlib.Logic.Function.Basic
import UnboundWasm.Lib.Machine
import UnboundWasm.Guest.Result

/-!
# Result slots

`resolve_start`, `result_get` and `resolve_cancel` of `guest.c`, with libunbound
behind them.  A query is given the address of its slot, which is taken again once
`resolve_cancel` has cleared it.

Of libunbound it is assumed that an accepted query invokes its callback at most once,
perhaps before `ub_resolve_event` returns, and not after `ub_cancel` with its id; and
that the ids of live queries are distinct and not 0.  Queries are numbered in the
order they are accepted; a log records which slot was returned for which query, what
the callbacks reported, and what `result_get` wrote when it reported a result.
-/

namespace UnboundWasm.Guest

open UnboundWasm.Lib UnboundWasm.Host

/-- `EINVAL`, `EIO`, `ENOMEM` and `ENOSPC` of the guest's C library. -/
def einval : Int := 28
def eio : Int := 29
def enomem : Int := 48
def enospc : Int := 51

/-- The errors of libunbound that `ub_errno` tells apart. -/
inductive UbError where
  | ubNomem | ubSyntax | other
  deriving DecidableEq, Repr

/-- `ub_errno`. -/
def ubErrno : UbError → Int
  | .ubNomem => enomem
  | .ubSyntax => einval
  | .other => eio

/-- A query of libunbound that is neither finished nor cancelled. -/
structure Live where
  query : Nat
  id : Int
  slot : Int
  deriving DecidableEq, Repr

/-- What `resolve_start` meets with: the error of `ensure_ctx`, which is one `ub_errno`
returns, whether `copy_input` got its memory, and what `ub_resolve_event` returns. -/
structure Start where
  ctxErr : Option UbError
  copied : Bool
  result : Except UbError Int

/-- A callback, with the blocks `malloc` returns to it. -/
structure Completion where
  query : Nat
  outcome : Outcome
  packetBlock : Option Nat
  whyBlock : Option Nat

/-- A `resolve_start` that is inside `ub_resolve_event`. `query` is the number of the
query if it is accepted. -/
structure Starting where
  slot : Int
  query : Nat
  result : Except UbError Int

/-- The statics of `guest.c` with the queries of libunbound. -/
structure Slots where
  results : Int → Slot
  memory : Memory
  ctx : Bool
  live : List Live
  queries : Nat
  starting : Option Starting

/-- `resolveStart` goes up to the return of `ub_resolve_event`, `startReturn` from
there. `write` is everything else the guest and the host do to the memory. -/
inductive SlotAction where
  | resolveStart (start : Start)
  | startReturn
  | callback (completion : Completion)
  | resultGet (rid : Int) (out : Nat)
  | resolveCancel (rid : Int)
  | write (memory : Memory)

/-- `resolve_start` returned a slot for a query, a callback reported an outcome, and
`result_get` returned 1 with this structure at `out`. -/
inductive SlotNote where
  | started (rid : Int) (query : Nat)
  | completed (query : Nat) (outcome : Outcome)
  | got (rid : Int) (written : Bytes)

/-- The first slot that is not used. -/
def freeSlot (results : Int → Slot) : Option Nat :=
  (List.range maxResults.toNat).find? fun i => !(results i).used

namespace Slots

def initial (memory : Memory) : Slots := ⟨fun _ => clearResult, memory, false, [], 0, none⟩

def set (g : Slots) (slot : Int) (value : Slot) : Slots :=
  { g with results := Function.update g.results slot value }

/-- What `resolve_start` returns without calling `ub_resolve_event`. -/
def refusal (g : Slots) (start : Start) : Option Int :=
  match start.ctxErr with
  | some err => some (-ubErrno err)
  | none =>
      if start.copied then
        match freeSlot g.results with
        | none => some (-enospc)
        | some _ => none
      else some (-enomem)

/-- `resolve_start` up to the return of `ub_resolve_event`. -/
def resolveStart (g : Slots) (start : Start) : Option Slots :=
  let g := { g with ctx := g.ctx || start.ctxErr.isNone }
  match g.refusal start, freeSlot g.results with
  | some _, _ => some g
  | none, none => none
  | none, some slot =>
      let g := g.set slot { g.results slot with used := true }
      match start.result with
      | .error err => some { g with starting := some ⟨slot, g.queries, .error err⟩ }
      | .ok id =>
          if id ≠ 0 ∧ ∀ live ∈ g.live, live.id ≠ id then
            some { g with
              live := ⟨g.queries, id, slot⟩ :: g.live
              queries := g.queries + 1
              starting := some ⟨slot, g.queries, .ok id⟩ }
          else none

/-- The rest of `resolve_start`. -/
def startReturn (g : Slots) (starting : Starting) : Slots :=
  match starting.result with
  | .error _ => { g.set starting.slot clearResult with starting := none }
  | .ok id =>
      { g.set starting.slot { g.results starting.slot with ubid := id } with starting := none }

/-- libunbound invokes `result_cb`, and is done with the query. -/
def callback (g : Slots) (completion : Completion) : Option Slots :=
  match g.live.find? (·.query = completion.query) with
  | none => none
  | some live =>
      match resultCb g.memory (g.results live.slot) completion.outcome completion.packetBlock
          completion.whyBlock with
      | none => none
      | some (memory, slot) =>
          some { g.set live.slot slot with
            memory := memory
            live := g.live.filter fun other => other.query ≠ completion.query }

/-- `guest_resolve_cancel`. -/
def resolveCancel (g : Slots) (rid : Int) : Slots :=
  if rid ≤ 0 ∨ rid > maxResults then g
  else
    let s := g.results (rid - 1)
    if s.used then
      { g.set (rid - 1) clearResult with
        live := if g.ctx ∧ s.ubid ≠ 0 then g.live.filter fun live => live.id ≠ s.ubid else g.live }
    else g

/-- One step of the guest. While `resolve_start` is in libunbound there are only
callbacks. -/
def step (g : Slots) (action : SlotAction) : Option Slots :=
  match g.starting, action with
  | none, .resolveStart start => g.resolveStart start
  | some starting, .startReturn => some (g.startReturn starting)
  | _, .callback completion => g.callback completion
  | none, .resultGet rid out =>
      match guestResultGet g.memory g.results rid out with
      | none => none
      | some (_, memory) => some { g with memory := memory }
  | none, .resolveCancel rid => some (g.resolveCancel rid)
  | _, .write memory => some { g with memory := memory }
  | _, _ => none

def note (g : Slots) (action : SlotAction) : Option SlotNote :=
  match g.starting, action with
  | some ⟨slot, query, .ok _⟩, .startReturn => some (.started (slot + 1) query)
  | _, .callback completion => some (.completed completion.query completion.outcome)
  | none, .resultGet rid out =>
      match guestResultGet g.memory g.results rid out with
      | some (1, memory) => some (.got rid ((memory.read out resultSize).getD []))
      | _ => none
  | _, _ => none

end Slots

/-- What `resolve_start` returns once `ub_resolve_event` has. -/
def Starting.value (starting : Starting) : Int :=
  match starting.result with
  | .error err => -ubErrno err
  | .ok _ => starting.slot + 1

/-- `guest_resolve_start` as one call, with the callbacks that come before
`ub_resolve_event` returns. -/
def Slots.start (g : Slots) (start : Start) (during : List Completion) : Option (Int × Slots) :=
  match g.refusal start with
  | some value => (g.step (.resolveStart start)).map fun after => (value, after)
  | none =>
      match (g.step (.resolveStart start)).bind (during.foldlM Slots.callback) with
      | none => none
      | some inside =>
          inside.starting.map fun starting => (starting.value, inside.startReturn starting)

/-- What a step can be. -/
inductive Slots.Moved (g : Slots) : SlotAction → Slots → Prop where
  | refused {start : Start} {value : Int} (idle : g.starting = none)
      (refused : g.refusal start = some value) :
      Moved g (.resolveStart start) { g with ctx := g.ctx || start.ctxErr.isNone }
  | rejected {start : Start} {slot : Nat} {err : UbError} (idle : g.starting = none)
      (proceeds : g.refusal start = none) (free : freeSlot g.results = some slot)
      (failed : start.result = .error err) :
      Moved g (.resolveStart start) { g.set slot { g.results slot with used := true } with
        ctx := true
        starting := some ⟨slot, g.queries, .error err⟩ }
  | accepted {start : Start} {slot : Nat} {id : Int} (idle : g.starting = none)
      (proceeds : g.refusal start = none) (free : freeSlot g.results = some slot)
      (ok : start.result = .ok id) (nonzero : id ≠ 0) :
      Moved g (.resolveStart start) { g.set slot { g.results slot with used := true } with
        ctx := true
        live := ⟨g.queries, id, slot⟩ :: g.live
        queries := g.queries + 1
        starting := some ⟨slot, g.queries, .ok id⟩ }
  | returned {starting : Starting} (here : g.starting = some starting) :
      Moved g .startReturn (g.startReturn starting)
  | callback {completion : Completion} {live : Live} {memory : Memory} {slot : Slot}
      (present : live ∈ g.live) (same : live.query = completion.query)
      (written : resultCb g.memory (g.results live.slot) completion.outcome
        completion.packetBlock completion.whyBlock = some (memory, slot)) :
      Moved g (.callback completion) { g.set live.slot slot with
        memory := memory
        live := g.live.filter fun other => other.query ≠ completion.query }
  | resultGet {rid : Int} {out : Nat} {memory : Memory} (idle : g.starting = none) :
      Moved g (.resultGet rid out) { g with memory := memory }
  | resolveCancel (rid : Int) (idle : g.starting = none) :
      Moved g (.resolveCancel rid) (g.resolveCancel rid)
  | write (memory : Memory) : Moved g (.write memory) { g with memory := memory }

theorem Slots.moved_of_resolveStart {g after : Slots} {start : Start} (idle : g.starting = none)
    (stepped : g.resolveStart start = some after) : Moved g (.resolveStart start) after := by
  unfold resolveStart at stepped
  dsimp only at stepped
  split at stepped
  next refused =>
    cases stepped
    exact .refused idle refused
  · cases stepped
  next slot accepted free =>
    have ready : start.ctxErr = none := by
      cases missing : start.ctxErr with
      | none => rfl
      | some err => simp [refusal, missing] at accepted
    simp only [ready, Option.isNone_none, Bool.or_true] at stepped
    split at stepped
    next failed =>
      cases stepped
      exact .rejected idle accepted free failed
    next ok =>
      split at stepped
      next fresh =>
        cases stepped
        exact .accepted idle accepted free ok fresh.1
      · cases stepped

theorem Slots.moved_of_step {g after : Slots} {action : SlotAction}
    (stepped : g.step action = some after) : Moved g action after := by
  unfold step at stepped
  split at stepped
  next idle => exact moved_of_resolveStart idle stepped
  next here =>
    cases stepped
    exact .returned here
  · unfold callback at stepped
    split at stepped
    · cases stepped
    next live found =>
      split at stepped
      · cases stepped
      next memory slot written =>
        cases stepped
        exact .callback (List.mem_of_find?_eq_some found) (by simpa using List.find?_some found)
          written
  next idle =>
    split at stepped
    · cases stepped
    · cases stepped
      exact .resultGet idle
  next idle =>
    cases stepped
    exact .resolveCancel _ idle
  · cases stepped
    exact .write _
  · cases stepped

/-- The slots of an instance that starts with this memory. -/
def slots (memory : Memory) : Machine Slots SlotAction := ⟨.initial memory, Slots.step⟩

/-- The slots with the log of their use. -/
def slotHistory (memory : Memory) : Machine (Slots × List SlotNote) SlotAction :=
  (slots memory).logged Slots.note

end UnboundWasm.Guest
