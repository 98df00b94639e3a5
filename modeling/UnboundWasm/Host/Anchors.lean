import Mathlib.Data.List.Forall2
import UnboundWasm.Lib.Malloc
import UnboundWasm.Guest.Configuration

/-!
# Trust anchors

How the bytes of `Config.TrustAnchors` come to `ub_ctx_add_ta`: `NewRuntime` puts the
built-in anchors in the place of an empty slice, `initialize` passes the text to the guest
by pointer and length, and the guest copies it and reads the copy as a C string.  A clone
goes on from the memory of the warmed template, so its run is a run of the template's
guest.
-/

namespace UnboundWasm.Host

open UnboundWasm.Lib UnboundWasm.Guest

/-- `defaultTrustAnchors`. -/
def defaultTrustAnchors : Bytes :=
  ". 172800 IN DS 20326 8 2 E06D44B80B8F1D39A95C0B0D7C65D08458E880409BBC683457104237C7F8EC8D
. 172800 IN DS 38696 8 2 683D2D0ACB8C9B712A1948B27F741219298D0A450D612C483AF444A4C0FB2B16
".toUTF8.toList

/-- The anchors of a `Runtime`. -/
def trustAnchors (slice : Bytes) : Bytes :=
  if slice.length = 0 then defaultTrustAnchors else slice

/-- The loop of `initialize` over `allocWrite`: the pointers, and the memory after it. -/
def place (malloc : Malloc) : Memory → List Bytes → Option (List Nat × Memory)
  | memory, [] => some ([], memory)
  | memory, b :: rest =>
      match malloc.alloc memory (if b.length = 0 then 1 else b.length) with
      | none => none
      | some (p, memory) =>
          if p = 0 then none
          else
            match (if b.length > 0 then memory.write p b else some memory) with
            | none => none
            | some memory =>
                match place malloc memory rest with
                | none => none
                | some (ptrs, memory) => some (p :: ptrs, memory)

/-- `initialize`, for what `init` finds at the pointers it is given. -/
def initializeGuest (malloc : Malloc) (memory : Memory) (cfg anchors hints : Bytes) :
    Option (Input → Bytes) :=
  match place malloc memory [cfg, anchors, hints] with
  | some ([cfgPtr, anchorsPtr, hintsPtr], memory) =>
      match memory.read cfgPtr cfg.length, memory.read anchorsPtr anchors.length,
          memory.read hintsPtr hints.length with
      | some cfg, some anchors, some hints =>
          some fun
            | .config => cfg
            | .anchors => anchors
            | .hints => hints
      | _, _, _ => none
  | _ => none

/-! ## The transfer -/

section Transfer

variable {malloc : Malloc} {memory after : Memory}

/-- An empty value gets a block as well, and nothing is written to it. -/
theorem written_of_place {b : Bytes} {p : Nat} {between : Memory}
    (allocated : malloc.alloc memory (if b.length = 0 then 1 else b.length) = some (p, between))
    (written : (if b.length > 0 then between.write p b else some between) = some after) :
    b.length ≤ (if b.length = 0 then 1 else b.length) ∧ between.write p b = some after := by
  split at written
  next nonempty => exact ⟨by split <;> omega, written⟩
  next empty =>
    obtain rfl : b = [] := List.eq_nil_of_length_eq_zero (by omega)
    cases written
    have inside := malloc.inside (malloc.fresh allocated)
    exact ⟨by simp, Memory.write_nil (by omega)⟩

theorem place_holds {values : List Bytes} {ptrs : List Nat}
    (placed : place malloc memory values = some (ptrs, after)) :
    List.Forall₂ (malloc.Holds after) ptrs values ∧
      ∀ other stored, malloc.Holds memory other stored → malloc.Holds after other stored := by
  induction values generalizing memory ptrs with
  | nil =>
      cases placed
      exact ⟨.nil, fun _ _ held => held⟩
  | cons b rest ih =>
      unfold place at placed
      split at placed
      · cases placed
      next p between allocated =>
        split at placed
        · cases placed
        · split at placed
          · cases placed
          next stored written =>
            obtain ⟨fits, written⟩ := written_of_place allocated written
            split at placed
            · cases placed
            next others final more =>
              cases placed
              obtain ⟨held, kept⟩ := ih more
              refine ⟨.cons (kept p b (Malloc.holds_of_write allocated fits written)) held, ?_⟩
              intro other data holds
              exact kept other data (holds.kept allocated fits written)

/-- `init` finds the three values. -/
theorem input_of_initializeGuest {cfg anchors hints : Bytes} {input : Input → Bytes}
    (initialized : initializeGuest malloc memory cfg anchors hints = some input) :
    input .config = cfg ∧ input .anchors = anchors ∧ input .hints = hints := by
  unfold initializeGuest at initialized
  split at initialized
  next cfgPtr anchorsPtr hintsPtr final placed =>
    obtain ⟨held, -⟩ := place_holds placed
    cases held with
    | cons first held =>
        cases held with
        | cons second held =>
            cases held with
            | cons third held =>
                rw [first.read, second.read, third.read] at initialized
                cases initialized
                exact ⟨rfl, rfl, rfl⟩
  · cases initialized

end Transfer

/-- Some line is neither blank nor a comment, and from the first line that holds a NUL on
every line is. -/
def Legible (text : Bytes) : Prop :=
  (∃ line ∈ textLines text, (lineText line.bytes).isSome = true) ∧ Uncut text

instance (text : Bytes) : Decidable (Legible text) := inferInstanceAs (Decidable (_ ∧ _))

theorem passedLines_eq_nil_iff {text : Bytes} :
    passedLines text = [] ↔ ∀ line ∈ textLines text, lineText line.bytes = none := by
  rw [passedLines, List.filterMap_eq_nil_iff]

/-! ## Whole runs -/

/-- The line a call gives to `ub_ctx_add_ta`. -/
def anchorOf : Option ConfigCall → Option Bytes
  | some (.addTa anchor) => some anchor
  | _ => none

/-- The lines a log shows given to `ub_ctx_add_ta`. -/
def addedAnchors (log : List Report) : List Bytes :=
  (log.flatMap fun report => report.calls).filterMap fun made => anchorOf (some made.call)

theorem anchorOf_configCall (kind : Input) (line : Bytes) :
    anchorOf (configCall kind line) = if kind = .anchors then some line else none := by
  cases kind with
  | anchors | hints => rfl
  | config =>
      simp only [configCall]
      split <;> rfl

theorem anchors_of_fullCalls (kind : Input) (text : Bytes) :
    (fullCalls kind text).filterMap (fun entry => anchorOf entry.2.1) =
      if kind = .anchors then passedLines text else [] := by
  rw [fullCalls, List.filterMap_map]
  simp only [Function.comp_def, anchorOf_configCall]
  split
  · exact List.filterMap_some
  · exact List.filterMap_none _

/-- A configuration that was applied in full has given the lines of the saved anchors. -/
theorem addedAnchors_of_applied {input : Input → Bytes} {log : List Report}
    (applied : AppliedInFull (strings input) log) :
    addedAnchors log = passedLines (cString (copyInput (input .anchors))) := by
  have shown : addedAnchors log = (madeCalls log).filterMap fun entry => anchorOf entry.2.1 := by
    rw [addedAnchors, madeCalls, List.filterMap_map]
    rfl
  rw [shown, applied, allCalls, List.filterMap_flatMap]
  simp only [anchors_of_fullCalls, List.flatMap_cons, List.flatMap_nil]
  simp [strings]

theorem legible_defaultTrustAnchors : Legible defaultTrustAnchors := by
  decide +kernel

/-- Once a query has been started, every line of the selected anchors has been given to
libunbound, and there was one, iff the slice is empty or legible. -/
theorem trust_anchors_passed_iff {malloc : Malloc} {memory : Memory} {slice cfg hints : Bytes}
    {input : Input → Bytes}
    (initialized : initializeGuest malloc memory cfg (trustAnchors slice) hints = some input)
    {s : Setup} {before later : List Report} {report : Report}
    (reachable : (setup input).Reachable (s, before ++ report :: later))
    (started : 0 < report.value) :
    (addedAnchors (before ++ [report]) ≠ [] ∧
      addedAnchors (before ++ [report]) = passedLines (trustAnchors slice)) ↔
      slice = [] ∨ Legible slice := by
  have configured := configured_of_reachable reachable
  have resolved := configured.started report (by simp) started
  have applied := (configured.holds.resolved before report later rfl resolved).1
  obtain ⟨-, anchors, -⟩ := input_of_initializeGuest initialized
  have selected : Legible (trustAnchors slice) ↔ slice = [] ∨ Legible slice := by
    cases slice with
    | nil => exact iff_of_true legible_defaultTrustAnchors (.inl rfl)
    | cons byte slice => simp [trustAnchors]
  rw [← selected, addedAnchors_of_applied applied, anchors, Legible, ← passedLines_cString_iff]
  constructor
  · rintro ⟨nonempty, same⟩
    refine ⟨?_, same⟩
    rw [same] at nonempty
    by_contra none
    apply nonempty
    rw [passedLines_eq_nil_iff]
    intro line member
    by_contra passed
    exact none ⟨line, member, Option.isSome_iff_ne_none.mpr passed⟩
  · rintro ⟨⟨line, member, passed⟩, same⟩
    refine ⟨?_, same⟩
    rw [same]
    intro empty
    rw [passedLines_eq_nil_iff.mp empty line member] at passed
    cases passed

/-- Two anchors around a comment with a NUL at its end. -/
def commentedAnchors : Bytes := [32, 97, newline, 98, newline, hashSign, 0]

theorem trust_anchors_passed_iff_commented :
    ∃ input s report,
      initializeGuest growing ⟨16, fun _ => 0⟩ [] (trustAnchors commentedAnchors) [] = some input ∧
      (setup input).run (setup input).initial [.resolveStart (answering none) firstQuery] =
        some (s, [report]) ∧ report.value = 1 ∧
      addedAnchors [report] = [[97], [98]] ∧
      ((addedAnchors [report] ≠ [] ∧
        addedAnchors [report] = passedLines (trustAnchors commentedAnchors)) ↔
        commentedAnchors = [] ∨ Legible commentedAnchors) := by
  obtain ⟨input, initialized, s, report, ran, value, added⟩ : ∃ input,
      initializeGuest growing ⟨16, fun _ => 0⟩ [] (trustAnchors commentedAnchors) [] = some input ∧
      ∃ s report,
        (setup input).run (setup input).initial [.resolveStart (answering none) firstQuery] =
          some (s, [report]) ∧ report.value = 1 ∧ addedAnchors [report] = [[97], [98]] :=
    ⟨_, rfl, _, _, rfl, rfl, rfl⟩
  have reachable : (setup input).Reachable (s, [] ++ report :: []) := Machine.reaches_of_run ran
  exact ⟨input, s, report, initialized, ran, value, added,
    trust_anchors_passed_iff initialized reachable (by omega)⟩

/-- The anchors given, and what `resolve_start` returned, for a first query. -/
def anchorsGiven (slice : Bytes) : Option (List Bytes × List Int) :=
  (initializeGuest growing ⟨16, fun _ => 0⟩ [] (trustAnchors slice) []).bind fun input =>
    ((setup input).run (setup input).initial [.resolveStart (answering none) firstQuery]).map
      fun final => (addedAnchors final.2, final.2.map Report.value)

/-- A slice that is not empty and has no anchor leaves nothing to validate against, and a NUL
cuts off its line and the rest. -/
theorem anchors_vacuous_or_truncated :
    anchorsGiven [newline] = some ([], [1]) ∧
      anchorsGiven [97, newline, 98, 0, newline, 99] = some ([[97], [98]], [1]) ∧
      passedLines (trustAnchors [97, newline, 98, 0, newline, 99]) = [[97], [98, 0], [99]] :=
  ⟨rfl, rfl, rfl⟩

end UnboundWasm.Host
