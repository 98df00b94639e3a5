import UnboundWasm.Guest.Configuration

/-!
# Applying a text in place

`apply_lines` as the C code runs it: one buffer that it scans with `strchr` and `strlen` and
cuts with NULs, a pointer to the line and one to the next.  `applyLines` of the setup works on
the list of lines; the two agree on every buffer that holds a string.  A read that leaves the
buffer, and a loop that is not done in time, have no result.
-/

namespace UnboundWasm.Guest

open UnboundWasm.Lib UnboundWasm.Host

/-- `strchr`: how far away a byte is, or nothing for a null pointer. -/
def strchr (wanted : UInt8) : Bytes → Option (Option Nat)
  | [] => none
  | byte :: rest =>
      if byte = wanted then some (some 0)
      else if byte = 0 then some none
      else (strchr wanted rest).map (Option.map (· + 1))

/-- `strlen` of a string in the buffer. -/
def stringLength : Bytes → Option Nat
  | [] => none
  | byte :: rest => if byte = 0 then some 0 else (stringLength rest).map (· + 1)

/-- How far the loop over the blanks of a line goes. -/
def skipBlanks : Bytes → Option Nat
  | [] => none
  | byte :: rest => if isBlank byte then (skipBlanks rest).map (· + 1) else some 0

/-- The loop that overwrites the blanks before `end`. -/
def trimEnd (buffer : Bytes) (line : Nat) : Nat → Bytes
  | 0 => buffer
  | last + 1 =>
      if last + 1 > line ∧ isBlank (buffer.getD last 0) then trimEnd (buffer.set last 0) line last
      else buffer

/-- What is to be done for a line. -/
inductive LineAction where
  | skip
  | refuse
  | make (call : ConfigCall)
  deriving DecidableEq, Repr

/-- The call for a line that has been trimmed, with the strings found in the buffer. -/
def lineCall (input : Input) (buffer : Bytes) (line : Nat) : Option (Bytes × LineAction) :=
  match input with
  | .anchors => some (buffer, .make (.addTa (cString (buffer.drop line))))
  | .hints => some (buffer, .make (.setStub (cString (buffer.drop line))))
  | .config =>
      match strchr equalsSign (buffer.drop line) with
      | none => none
      | some none => some (buffer, .refuse)
      | some (some sep) =>
          let buffer := buffer.set (line + sep) 0
          some (buffer, .make (.setOption (cString (buffer.drop line))
            (cString (buffer.drop (line + sep + 1)))))

/-- The body of the loop, after the newline has been overwritten. -/
def lineAction (input : Input) (buffer : Bytes) (line : Nat) : Option (Bytes × LineAction) :=
  match skipBlanks (buffer.drop line) with
  | none => none
  | some blanks =>
      match buffer[line + blanks]? with
      | none => none
      | some byte =>
          if byte ≠ 0 ∧ byte ≠ hashSign then
            match stringLength (buffer.drop (line + blanks)) with
            | none => none
            | some length =>
                lineCall input (trimEnd buffer (line + blanks) (line + blanks + length))
                  (line + blanks)
          else some (buffer, .skip)

/-- The buffer after `apply_lines`, the calls it made, and what it returned. -/
structure AppliedInPlace where
  buffer : Bytes
  calls : List Made
  value : Int

/-- The end of a round: the call is made, and the loop goes on or returns. -/
def applyAction (input : Input) (answers : Nat → Option UbError)
    (goOn : Bytes → Nat → Option AppliedInPlace) (made : Nat) :
    Bytes × LineAction → Option AppliedInPlace
  | (buffer, .skip) => goOn buffer made
  | (buffer, .refuse) => some ⟨buffer, [], einval⟩
  | (buffer, .make call) =>
      match answers made with
      | some err => some ⟨buffer, [⟨input, call, some err⟩], ubErrno err⟩
      | none =>
          (goOn buffer (made + 1)).map fun applied =>
            { applied with calls := ⟨input, call, none⟩ :: applied.calls }

/-- The loop of `apply_lines`, for a number of rounds. -/
def applyLoop (input : Input) (answers : Nat → Option UbError) :
    Nat → Bytes → Option Nat → Nat → Option AppliedInPlace
  | 0, _, _, _ => none
  | _ + 1, buffer, none, _ => some ⟨buffer, [], 0⟩
  | rounds + 1, buffer, some line, made =>
      match buffer[line]? with
      | none => none
      | some byte =>
          if byte = 0 then some ⟨buffer, [], 0⟩
          else
            match strchr newline (buffer.drop line) with
            | none => none
            | some none =>
                (lineAction input buffer line).bind
                  (applyAction input answers
                    (fun buffer made => applyLoop input answers rounds buffer none made) made)
            | some (some offset) =>
                (lineAction input (buffer.set (line + offset) 0) line).bind
                  (applyAction input answers
                    (fun buffer made =>
                      applyLoop input answers rounds buffer (some (line + offset + 1)) made) made)

/-- `apply_lines`.  There are fewer lines than bytes. -/
def applyLinesInPlace (input : Input) (answers : Nat → Option UbError) (buffer : Bytes)
    (made : Nat) : Option AppliedInPlace :=
  applyLoop input answers (buffer.length + 1) buffer (some 0) made

/-- A line without the blanks at its ends. -/
def trimmed (line : Bytes) : Bytes := (line.dropWhile isBlank).rdropWhile isBlank

/-- The lines of a text that count: trimmed, not empty, no comments. -/
def inputLines (text : Bytes) : List Bytes :=
  ((text.splitOn newline).map trimmed).filter fun line => line ≠ [] ∧ line.head? ≠ some hashSign

/-- One call for each line, up to the first that has none or that fails, and the error. -/
def performed (input : Input) (answers : Nat → Option UbError) : List Bytes → Nat → List Made × Int
  | [], _ => ([], 0)
  | line :: rest, made =>
      match configCall input line with
      | none => ([], einval)
      | some call =>
          match answers made with
          | some err => ([⟨input, call, some err⟩], ubErrno err)
          | none =>
              let (calls, value) := performed input answers rest (made + 1)
              (⟨input, call, none⟩ :: calls, value)

/-! ## The string functions -/

section Scan

variable {bytes : Bytes} (clean : 0 ∉ bytes) (behind : Bytes)
include clean

theorem strchr_append {wanted : UInt8} (nonzero : wanted ≠ 0) :
    strchr wanted (bytes ++ 0 :: behind) =
      some (if wanted ∈ bytes then some (bytes.takeWhile (· ≠ wanted)).length else none) := by
  induction bytes with
  | nil => simp [strchr, nonzero.symm]
  | cons byte rest ih =>
      obtain ⟨first, others⟩ := not_or.mp (mt List.mem_cons.mpr clean)
      rw [List.cons_append, strchr, ih others]
      by_cases same : byte = wanted
      · simp [same]
      · rw [if_neg same, if_neg (Ne.symm first)]
        by_cases inside : wanted ∈ rest
        · simp [inside, same]
        · simp [inside, Ne.symm same]

theorem stringLength_append : stringLength (bytes ++ 0 :: behind) = some bytes.length := by
  induction bytes with
  | nil => simp [stringLength]
  | cons byte rest ih =>
      obtain ⟨first, others⟩ := not_or.mp (mt List.mem_cons.mpr clean)
      rw [List.cons_append, stringLength, ih others, if_neg (Ne.symm first)]
      rfl

theorem cString_append : cString (bytes ++ 0 :: behind) = bytes := by
  have kept : ∀ byte ∈ bytes, decide (byte ≠ 0) = true := by
    intro byte member
    rw [decide_eq_true_eq]
    rintro rfl
    exact clean member
  rw [cString, List.takeWhile_append_of_pos kept]
  simp

end Scan

/-- A string is cut at the first of certain bytes. -/
theorem cut_at {wanted : UInt8} {start : Bytes} (outside : wanted ∉ start) (rest : Bytes) :
    (start ++ wanted :: rest).takeWhile (· ≠ wanted) = start ∧
      (start ++ wanted :: rest).dropWhile (· ≠ wanted) = wanted :: rest := by
  have kept : ∀ byte ∈ start, decide (byte ≠ wanted) = true := by
    intro byte member
    rw [decide_eq_true_eq]
    rintro rfl
    exact outside member
  rw [List.takeWhile_append_of_pos kept, List.dropWhile_append_of_pos kept]
  simp

theorem skipBlanks_append (bytes behind : Bytes) :
    skipBlanks (bytes ++ 0 :: behind) = some (bytes.takeWhile isBlank).length := by
  induction bytes with
  | nil => simp [skipBlanks, isBlank]
  | cons byte rest ih =>
      rw [List.cons_append, skipBlanks, ih]
      by_cases blank : isBlank byte = true
      · simp [blank]
      · simp [blank]

/-- The blanks at the end of a part of the buffer are overwritten, and nothing else. -/
theorem trimEnd_append (before body behind : Bytes) :
    trimEnd (before ++ (body ++ behind)) before.length (before.length + body.length) =
      before ++ (body.rdropWhile isBlank ++
        (List.replicate (body.length - (body.rdropWhile isBlank).length) 0 ++ behind)) := by
  induction body using List.reverseRecOn generalizing behind with
  | nil =>
      cases before with
      | nil => simp [trimEnd]
      | cons first rest => simp [trimEnd]
  | append_singleton body last ih =>
      have split : before ++ (body ++ [last] ++ behind) = (before ++ body) ++ last :: behind := by
        simp
      have place : before.length + (body ++ [last]).length = (before ++ body).length + 1 := by
        simp [Nat.add_assoc]
      rw [place, split, trimEnd]
      by_cases blank : isBlank last = true
      · have sooner := List.length_append ▸ ih (0 :: behind)
        have kept := (List.rdropWhile_prefix isBlank body).length_le
        have inside : (before ++ body).length + 1 > before.length ∧
            isBlank ((before ++ body ++ last :: behind).getD (before ++ body).length 0) := by
          refine ⟨?_, by simp [blank]⟩
          rw [List.length_append]
          omega
        rw [if_pos inside, List.set_append_right _ _ (Nat.le_refl _), Nat.sub_self,
          List.set_cons_zero, List.append_assoc, sooner, List.rdropWhile_concat_pos _ _ _ blank,
          List.length_append, List.length_singleton, Nat.sub_add_comm kept, List.replicate_succ',
          List.append_assoc, List.singleton_append]
      · rw [if_neg (by simp [blank]), List.rdropWhile_concat_neg _ _ _ blank]
        simp

/-! ## One line -/

/-- What is to be done for a line that is passed on. -/
def textAction (input : Input) (text : Bytes) : LineAction :=
  match configCall input text with
  | none => .refuse
  | some call => .make call

/-- What is to be done for the bytes of a line. -/
def actionOf (input : Input) (bytes : Bytes) : LineAction :=
  match lineText bytes with
  | none => .skip
  | some text => textAction input text

/-- What is left of a line that is passed on: an option loses its `=`. -/
def cutText (input : Input) (text : Bytes) : Bytes :=
  match configCall input text with
  | some (.setOption opt value) => opt ++ 0 :: value
  | _ => text

theorem lineCall_append (input : Input) (before behind : Bytes) {text : Bytes} (clean : 0 ∉ text) :
    lineCall input (before ++ (text ++ 0 :: behind)) before.length =
      some (before ++ (cutText input text ++ 0 :: behind), textAction input text) := by
  cases input with
  | anchors =>
      simp only [lineCall, List.drop_left, cString_append clean, cutText, textAction, configCall]
  | hints =>
      simp only [lineCall, List.drop_left, cString_append clean, cutText, textAction, configCall]
  | config =>
      rw [lineCall, List.drop_left, strchr_append clean behind (by decide)]
      by_cases inside : equalsSign ∈ text
      · obtain ⟨opt, value, rfl, outside⟩ := List.eq_append_cons_of_mem inside
        obtain ⟨front, back⟩ := cut_at outside value
        have cleanOpt : 0 ∉ opt := fun member => clean (List.mem_append_left _ member)
        have cleanValue : 0 ∉ value := fun member =>
          clean (List.mem_append_right _ (List.mem_cons_of_mem _ member))
        have marked : (before ++ (opt ++ equalsSign :: value ++ 0 :: behind)).set
            (before.length + opt.length) 0 = before ++ (opt ++ 0 :: (value ++ 0 :: behind)) := by
          simp
        have behindSep : (before ++ (opt ++ 0 :: (value ++ 0 :: behind))).drop
            (before.length + opt.length + 1) = value ++ 0 :: behind := by
          rw [Nat.add_assoc, List.drop_length_add_append, List.drop_length_add_append,
            List.drop_one, List.tail_cons]
        simp only [if_pos inside, front, marked, List.drop_left, behindSep,
          cString_append cleanOpt, cString_append cleanValue, cutText, textAction, configCall, back,
          List.drop_one, List.tail_cons]
        simp only [List.append_assoc, List.cons_append]
      · simp [inside, cutText, textAction, configCall]

theorem cut_of_skipped {input : Input} {bytes : Bytes} (skipped : lineText bytes = none) :
    Line.cut input ⟨bytes, false⟩ = bytes := by
  simp [Line.cut, skipped, List.takeWhile_append_dropWhile]

theorem cut_of_passed {input : Input} {bytes text : Bytes} (passed : lineText bytes = some text) :
    Line.cut input ⟨bytes, false⟩ =
      bytes.takeWhile isBlank ++ (cutText input text ++
        List.replicate ((bytes.dropWhile isBlank).length - text.length) 0) := by
  simp only [Line.cut, passed, cutText]
  cases turned : configCall input text with
  | none => simp
  | some call => cases call <;> simp

theorem length_cutText (input : Input) (text : Bytes) :
    (cutText input text).length = text.length := by
  rw [cutText]
  cases input with
  | anchors => rfl
  | hints => rfl
  | config =>
      by_cases inside : equalsSign ∈ text
      · obtain ⟨opt, value, rfl, outside⟩ := List.eq_append_cons_of_mem inside
        obtain ⟨front, back⟩ := cut_at outside value
        simp only [configCall, if_pos inside, front, back]
        simp
      · simp [configCall, inside]

/-- A line is cut in place. -/
theorem length_cut (input : Input) (bytes : Bytes) :
    (Line.cut input ⟨bytes, false⟩).length = bytes.length := by
  cases passed : lineText bytes with
  | none => rw [cut_of_skipped passed]
  | some text =>
      have shorter : text.length ≤ (bytes.dropWhile isBlank).length := by
        simp only [lineText] at passed
        split at passed
        · cases passed
        · cases passed
          exact (List.rdropWhile_prefix _ _).length_le
      have whole :=
        congrArg List.length (List.takeWhile_append_dropWhile (p := isBlank) (l := bytes))
      rw [List.length_append] at whole
      rw [cut_of_passed passed, List.length_append, List.length_append, length_cutText,
        List.length_replicate]
      omega

/-- The body of the loop cuts the line and does what the line asks for. -/
theorem lineAction_append (input : Input) (before more : Bytes) {bytes : Bytes}
    (clean : 0 ∉ bytes) :
    lineAction input (before ++ (bytes ++ 0 :: more)) before.length =
      some (before ++ (Line.cut input ⟨bytes, false⟩ ++ 0 :: more), actionOf input bytes) := by
  have whole : bytes.takeWhile isBlank ++ bytes.dropWhile isBlank = bytes :=
    List.takeWhile_append_dropWhile
  have buffer : before ++ (bytes ++ 0 :: more) =
      (before ++ bytes.takeWhile isBlank) ++ (bytes.dropWhile isBlank ++ 0 :: more) := by
    rw [List.append_assoc, ← List.append_assoc (bytes.takeWhile isBlank), whole]
  have cleanBody : 0 ∉ bytes.dropWhile isBlank :=
    fun member => clean ((List.dropWhile_sublist _).subset member)
  have skip (skipped : lineText bytes = none) :
      some (before ++ (bytes ++ 0 :: more), LineAction.skip) =
        some (before ++ (Line.cut input ⟨bytes, false⟩ ++ 0 :: more), actionOf input bytes) := by
    rw [cut_of_skipped skipped, actionOf, skipped]
  rw [lineAction, List.drop_left, skipBlanks_append]
  dsimp only
  rw [← List.length_append, buffer, List.getElem?_append_right (Nat.le_refl _), Nat.sub_self,
    List.drop_left]
  cases body : bytes.dropWhile isBlank with
  | nil =>
      rw [body] at buffer
      rw [← buffer]
      exact skip (by simp [lineText, body])
  | cons first rest =>
      rw [body] at buffer cleanBody
      by_cases comment : first = hashSign
      · rw [← buffer]
        simp only [List.cons_append, List.getElem?_cons_zero, comment, ne_eq, not_true_eq_false,
          and_false, if_false]
        exact skip (by simp [lineText, body, comment])
      · have passed : lineText bytes = some ((first :: rest).rdropWhile isBlank) := by
          simp [lineText, body, comment]
        have nonzero : first ≠ 0 := by
          rintro rfl
          exact cleanBody List.mem_cons_self
        have cleanText := nul_notMem_lineText clean passed
        have zeros : ∀ count, List.replicate count (0 : UInt8) ++ 0 :: more =
            0 :: (List.replicate count 0 ++ more) := by
          intro count
          rw [← List.singleton_append, ← List.append_assoc, ← List.replicate_succ',
            List.replicate_succ, List.cons_append]
        simp only [List.cons_append, List.getElem?_cons_zero, ne_eq, nonzero, not_false_eq_true,
          comment, and_self, if_true]
        rw [← List.cons_append, stringLength_append cleanBody]
        dsimp only
        rw [trimEnd_append, zeros, lineCall_append _ _ _ cleanText, cut_of_passed passed, body,
          actionOf, passed]
        simp only [List.append_assoc, zeros]

/-! ## All lines -/

theorem textLines_ended {bytes : Bytes} (outside : newline ∉ bytes) (rest : Bytes) :
    textLines (bytes ++ newline :: rest) = ⟨bytes, true⟩ :: textLines rest := by
  induction bytes with
  | nil => simp [textLines]
  | cons byte bytes ih =>
      obtain ⟨first, others⟩ := not_or.mp (mt List.mem_cons.mpr outside)
      rw [List.cons_append, textLines, if_neg (Ne.symm first), ih others]

theorem textLines_last {bytes : Bytes} (outside : newline ∉ bytes) (nonempty : bytes ≠ []) :
    textLines bytes = [⟨bytes, false⟩] := by
  induction bytes with
  | nil => exact absurd rfl nonempty
  | cons byte bytes ih =>
      obtain ⟨first, others⟩ := not_or.mp (mt List.mem_cons.mpr outside)
      rw [textLines, if_neg (Ne.symm first)]
      cases bytes with
      | nil => rfl
      | cons second rest => rw [ih others (List.cons_ne_nil _ _)]

/-- The lines make up the text. -/
theorem flatMap_textLines (text : Bytes) : (textLines text).flatMap Line.text = text := by
  induction text with
  | nil => rfl
  | cons byte rest ih =>
      rw [textLines]
      split
      next same => simp [ih, same, Line.text]
      next =>
        cases lines : textLines rest with
        | nil =>
            rw [lines] at ih
            simp [← ih, Line.text]
        | cons line more =>
            rw [lines] at ih
            simp [← ih, Line.text]

/-- What is returned for a failure. -/
def errorValue : Option UbError → Int
  | none => 0
  | some err => ubErrno err

/-- A text that has been applied, in the buffer it is a part of. -/
def Applied.within (before behind : Bytes) (applied : Applied) : AppliedInPlace :=
  ⟨before ++ (applied.text ++ 0 :: behind), applied.calls, errorValue applied.failure⟩

/-- A line put before what has been applied. -/
def Applied.after (cut : Bytes) (applied : Applied) : Applied :=
  { applied with text := cut ++ applied.text }

/-- A round does what `applyLines` does for the line, if the rest of the loop does. -/
theorem applyAction_eq {input : Input} {answers : Nat → Option UbError} (line : Line)
    {lines : List Line} {before behind buffer : Bytes} {made : Nat}
    {goOn : Bytes → Nat → Option AppliedInPlace}
    (unread : buffer = before ++ ((line.cut input ++ lines.flatMap Line.text) ++ 0 :: behind))
    (later : ∀ made, goOn buffer made =
      some (((applyLines input answers lines made).after (line.cut input)).within before behind)) :
    applyAction input answers goOn made (buffer, actionOf input line.bytes) =
      some ((applyLines input answers (line :: lines) made).within before behind) := by
  rw [actionOf, applyLines]
  cases passed : lineText line.bytes with
  | none => exact later made
  | some text =>
      dsimp only
      rw [textAction]
      cases turned : configCall input text with
      | none =>
          rw [applyAction, unread]
          rfl
      | some call =>
          rw [applyAction]
          cases answered : answers made with
          | some err =>
              rw [unread]
              rfl
          | none =>
              dsimp only
              rw [later]
              rfl

/-- The loop over a string in a buffer does what `applyLines` does with its lines. -/
theorem applyLoop_eq {input : Input} {answers : Nat → Option UbError} {rounds : Nat}
    {text : Bytes} (before behind : Bytes) {made : Nat} (clean : 0 ∉ text)
    (enough : text.length + 1 < rounds) :
    applyLoop input answers rounds (before ++ (text ++ 0 :: behind)) (some before.length) made =
      some ((applyLines input answers (textLines text) made).within before behind) := by
  induction rounds generalizing text before made with
  | zero => omega
  | succ rounds ih =>
      have here : (before ++ (text ++ 0 :: behind))[before.length]? =
          (text ++ 0 :: behind)[0]? := by
        rw [List.getElem?_append_right (Nat.le_refl _), Nat.sub_self]
      rw [applyLoop, here]
      by_cases empty : text = []
      · subst empty
        rfl
      · obtain ⟨first, others, rfl⟩ := List.exists_cons_of_ne_nil empty
        have nonzero : first ≠ 0 := by
          rintro rfl
          exact clean List.mem_cons_self
        rw [List.cons_append, List.getElem?_cons_zero, ← List.cons_append]
        dsimp only
        rw [if_neg nonzero, List.drop_left, strchr_append clean behind (by decide)]
        generalize first :: others = text at *
        by_cases inside : newline ∈ text
        · obtain ⟨bytes, rest, rfl, outside⟩ := List.eq_append_cons_of_mem inside
          have cleanBytes : 0 ∉ bytes := fun member => clean (List.mem_append_left _ member)
          have cleanRest : 0 ∉ rest := fun member =>
            clean (List.mem_append_right _ (List.mem_cons_of_mem _ member))
          have marked : (before ++ (bytes ++ newline :: rest ++ 0 :: behind)).set
              (before.length + bytes.length) 0 =
                before ++ (bytes ++ 0 :: (rest ++ 0 :: behind)) := by
            simp
          have cut : Line.cut input ⟨bytes, true⟩ = Line.cut input ⟨bytes, false⟩ ++ [0] := by
            simp [Line.cut]
          rw [if_pos inside, (cut_at outside rest).1]
          dsimp only
          rw [marked, lineAction_append input before _ cleanBytes, textLines_ended outside,
            Option.bind_some]
          apply applyAction_eq ⟨bytes, true⟩
          · rw [cut, flatMap_textLines]
            simp
          · intro made
            have place : before.length + bytes.length + 1 =
                (before ++ (Line.cut input ⟨bytes, false⟩ ++ [0])).length := by
              simp [length_cut, Nat.add_assoc]
            have buffer : before ++ (Line.cut input ⟨bytes, false⟩ ++ 0 :: (rest ++ 0 :: behind)) =
                (before ++ (Line.cut input ⟨bytes, false⟩ ++ [0])) ++ (rest ++ 0 :: behind) := by
              simp
            have shorter : rest.length + 1 < rounds := by
              simp only [List.length_append, List.length_cons] at enough
              omega
            rw [place, buffer, ih _ cleanRest shorter, cut]
            simp [Applied.within, Applied.after]
        · rw [if_neg inside, textLines_last inside empty]
          dsimp only
          rw [lineAction_append input before _ clean, Option.bind_some]
          apply applyAction_eq ⟨text, false⟩
          · simp
          · intro made
            obtain ⟨rounds, rfl⟩ := Nat.exists_eq_add_one_of_ne_zero (show rounds ≠ 0 by omega)
            simp [applyLoop, applyLines, Applied.within, Applied.after, errorValue]

/-! ## What the text asks for -/

/-- Trimming keeps the first byte that is not blank. -/
theorem head_trimmed (line : Bytes) : (trimmed line).head? = (line.dropWhile isBlank).head? := by
  rw [trimmed]
  cases body : line.dropWhile isBlank with
  | nil => rfl
  | cons first rest =>
      have notBlank :=
        List.head_dropWhile_not isBlank (show line.dropWhile isBlank ≠ [] by simp [body])
      simp only [body, List.head_cons] at notBlank
      obtain ⟨tail, joined⟩ := List.rdropWhile_prefix isBlank (first :: rest)
      cases kept : (first :: rest).rdropWhile isBlank with
      | nil =>
          have blank := List.rdropWhile_eq_nil_iff.mp kept first List.mem_cons_self
          rw [notBlank] at blank
          cases blank
      | cons head more =>
          rw [kept, List.cons_append, List.cons.injEq] at joined
          rw [joined.1]
          rfl

theorem lineText_eq (line : Bytes) :
    lineText line =
      if trimmed line ≠ [] ∧ (trimmed line).head? ≠ some hashSign then some (trimmed line)
      else none := by
  have head := head_trimmed line
  have empty : trimmed line = [] ↔ line.dropWhile isBlank = [] := by
    rw [← List.head?_eq_none_iff, head, List.head?_eq_none_iff]
  rw [lineText]
  by_cases skipped : line.dropWhile isBlank = [] ∨ (line.dropWhile isBlank).head? = some hashSign
  · rw [if_pos skipped, if_neg (by rw [head, ne_eq, empty]; tauto)]
  · rw [if_neg skipped, if_pos (by rw [head, ne_eq, empty]; tauto), trimmed]

/-- The text is cut into lines at its newlines, with an empty line more than the loop sees. -/
theorem splitOn_newline (text : Bytes) :
    ∃ last, (last = [] ∨ last = [[]]) ∧
      text.splitOn newline = (textLines text).map Line.bytes ++ last := by
  induction text with
  | nil => exact ⟨[[]], .inr rfl, List.splitOn_nil newline⟩
  | cons byte rest ih =>
      obtain ⟨last, kind, split⟩ := ih
      have step : List.splitOn newline (byte :: rest) =
          if byte = newline then [] :: List.splitOn newline rest
          else (List.splitOn newline rest).modifyHead (List.cons byte) := by
        simp [List.splitOn, List.splitOnP_cons_eq_if_modifyHead]
      rw [step, split, textLines]
      split
      next => exact ⟨last, kind, rfl⟩
      next =>
        cases lines : textLines rest with
        | nil =>
            -- Something is always left of a text, so here it is the empty line.
            rcases kind with rfl | rfl
            · rw [lines] at split
              exact absurd split (List.splitOn_ne_nil newline rest)
            · exact ⟨[], .inl rfl, rfl⟩
        | cons line more => exact ⟨last, kind, rfl⟩

/-- The lines that are passed on are the lines of the input. -/
theorem filterMap_textLines (text : Bytes) :
    ((textLines text).filterMap fun line => lineText line.bytes) = inputLines text := by
  obtain ⟨last, kind, split⟩ := splitOn_newline text
  have none : last.filterMap lineText = [] := by
    rcases kind with rfl | rfl <;> rfl
  have passed : inputLines text = (text.splitOn newline).filterMap lineText := by
    rw [inputLines, ← List.filterMap_eq_filter, List.filterMap_map]
    congr 1
    funext line
    rw [lineText_eq, Function.comp_apply, Option.guard]
    simp
  rw [passed, split, List.filterMap_append, none, List.append_nil, List.filterMap_map]
  rfl

theorem applyLines_performed {input : Input} {answers : Nat → Option UbError} {lines : List Line}
    {made : Nat} :
    ((applyLines input answers lines made).calls,
        errorValue (applyLines input answers lines made).failure) =
      performed input answers (lines.filterMap fun line => lineText line.bytes) made := by
  induction lines generalizing made with
  | nil => rfl
  | cons line lines ih =>
      rw [applyLines, List.filterMap_cons]
      cases passed : lineText line.bytes with
      | none => exact ih
      | some text =>
          dsimp only
          rw [performed]
          cases turned : configCall input text with
          | none => rfl
          | some call =>
              dsimp only
              cases answered : answers made with
              | some err => rfl
              | none =>
                  dsimp only
                  rw [← ih]

/-- The calls are the whole list, all accepted, unless an error is returned. -/
theorem performed_value (input : Input) (answers : Nat → Option UbError) (lines : List Bytes)
    (made : Nat) :
    0 < (performed input answers lines made).2 ∨
      (performed input answers lines made).2 = 0 ∧
        (performed input answers lines made).1.map Made.entry =
          lines.map fun line => (input, configCall input line, none) := by
  induction lines generalizing made with
  | nil => exact .inr ⟨rfl, rfl⟩
  | cons line lines ih =>
      rw [performed]
      cases turned : configCall input line with
      | none => exact .inl (show 0 < einval by decide)
      | some call =>
          dsimp only
          cases answered : answers made with
          | some err => exact .inl (ubErrno_pos err)
          | none =>
              rcases ih (made + 1) with failed | ⟨done, calls⟩
              · exact .inl failed
              · refine .inr ⟨done, ?_⟩
                rw [List.map_cons, List.map_cons, calls, turned]
                rfl

/-- The C code and the list of lines agree on every buffer that holds a string. -/
theorem applyLinesInPlace_eq (input : Input) (answers : Nat → Option UbError) {text : Bytes}
    (clean : 0 ∉ text) (behind : Bytes) (made : Nat) :
    applyLinesInPlace input answers (text ++ 0 :: behind) made =
      some ((applyLines input answers (textLines text) made).within [] behind) := by
  have enough : text.length + 1 < (text ++ 0 :: behind).length + 1 := by
    simp only [List.length_append, List.length_cons]
    omega
  exact applyLoop_eq [] behind clean enough

/-- `apply_lines` makes the calls that the lines of a text ask for, in their order and up to the
first that cannot be made or fails, and returns the error of that one. -/
theorem lines_applied_exactly (input : Input) (answers : Nat → Option UbError) {text : Bytes}
    (clean : 0 ∉ text) :
    ∃ applied, applyLinesInPlace input answers (copyInput text) 0 = some applied ∧
      (applied.calls, applied.value) = performed input answers (inputLines text) 0 ∧
      (0 < applied.value ∨ applied.value = 0 ∧ applied.calls.map Made.entry =
        (inputLines text).map fun line => (input, configCall input line, none)) := by
  have same : ((applyLines input answers (textLines text) 0).calls,
      errorValue (applyLines input answers (textLines text) 0).failure) =
        performed input answers (inputLines text) 0 := by
    rw [applyLines_performed, filterMap_textLines]
  have value := performed_value input answers (inputLines text) 0
  rw [← same] at value
  exact ⟨_, applyLinesInPlace_eq input answers clean [] 0, same, value⟩

/-- An option with blanks around it, a comment, and a line without a `=`. -/
theorem lines_applied_exactly_refused :
    ∃ applied,
      applyLinesInPlace .config (fun _ => none)
        (copyInput [32, 97, 58, 61, 49, 13, 10, 9, 35, 120, 10, 98]) 0 = some applied ∧
      applied.calls = [⟨.config, .setOption [97, 58] [49], none⟩] ∧ applied.value = einval := by
  have applies := lines_applied_exactly .config (fun _ => none)
    (show 0 ∉ ([32, 97, 58, 61, 49, 13, 10, 9, 35, 120, 10, 98] : Bytes) by decide)
  obtain ⟨applied, done, same, -⟩ := applies
  have expected : performed .config (fun _ => none)
      (inputLines [32, 97, 58, 61, 49, 13, 10, 9, 35, 120, 10, 98]) 0 =
        ([⟨.config, .setOption [97, 58] [49], none⟩], einval) := by
    decide
  rw [expected, Prod.mk.injEq] at same
  exact ⟨applied, done, same.1, same.2⟩

end UnboundWasm.Guest
