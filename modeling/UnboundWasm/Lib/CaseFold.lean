import Mathlib.Data.List.Count

/-!
# Comparing strings up to case

`strings.EqualFold` of the Go standard library: both strings are read as UTF-8,
a byte that does not start a valid sequence standing for U+FFFD, and the runes
are compared up to Unicode simple case folding.  Strings are lists of bytes.
-/

namespace UnboundWasm.Lib

/-- `utf8.RuneError`. -/
def runeError : Nat := 0xFFFD

/-- The range of second bytes that may follow a first byte. -/
def acceptRange (first : Nat) : Nat × Nat :=
  if first = 0xE0 then (0xA0, 0xBF)
  else if first = 0xED then (0x80, 0x9F)
  else if first = 0xF0 then (0x90, 0xBF)
  else if first = 0xF4 then (0x80, 0x8F)
  else (0x80, 0xBF)

def accepts (first second : Nat) : Bool :=
  (acceptRange first).1 ≤ second && second ≤ (acceptRange first).2

def isContinuation (byte : Nat) : Bool := 0x80 ≤ byte && byte ≤ 0xBF

/-- `utf8.DecodeRune` on a first byte outside ASCII and what follows it: the
rune and the number of bytes it takes. -/
def decodeMultibyte (first : Nat) : List UInt8 → Nat × Nat
  | b1 :: b2 :: b3 :: _ =>
      if 0xC2 ≤ first ∧ first ≤ 0xDF ∧ accepts first b1.toNat then
        (first % 32 * 64 + b1.toNat % 64, 2)
      else if 0xE0 ≤ first ∧ first ≤ 0xEF ∧ accepts first b1.toNat ∧
          isContinuation b2.toNat then
        (first % 16 * 4096 + b1.toNat % 64 * 64 + b2.toNat % 64, 3)
      else if 0xF0 ≤ first ∧ first ≤ 0xF4 ∧ accepts first b1.toNat ∧
          isContinuation b2.toNat ∧ isContinuation b3.toNat then
        (first % 8 * 262144 + b1.toNat % 64 * 4096 + b2.toNat % 64 * 64 + b3.toNat % 64, 4)
      else
        (runeError, 1)
  | [b1, b2] =>
      if 0xC2 ≤ first ∧ first ≤ 0xDF ∧ accepts first b1.toNat then
        (first % 32 * 64 + b1.toNat % 64, 2)
      else if 0xE0 ≤ first ∧ first ≤ 0xEF ∧ accepts first b1.toNat ∧
          isContinuation b2.toNat then
        (first % 16 * 4096 + b1.toNat % 64 * 64 + b2.toNat % 64, 3)
      else
        (runeError, 1)
  | [b1] =>
      if 0xC2 ≤ first ∧ first ≤ 0xDF ∧ accepts first b1.toNat then
        (first % 32 * 64 + b1.toNat % 64, 2)
      else
        (runeError, 1)
  | [] => (runeError, 1)

/-- The runes of a string, reading at most `fuel` of them. -/
def runesUpTo : Nat → List UInt8 → List Nat
  | 0, _ => []
  | _ + 1, [] => []
  | fuel + 1, first :: rest =>
      if first.toNat < 0x80 then
        first.toNat :: runesUpTo fuel rest
      else
        let (rune, width) := decodeMultibyte first.toNat rest
        rune :: runesUpTo fuel (rest.drop (width - 1))

/-- The runes a range loop over a string visits. -/
def runes (text : List UInt8) : List Nat := runesUpTo text.length text

/-- Every `stride`-th rune from `first` to `last` folds to the one `delta`
further on. -/
structure FoldRange where
  first : Nat
  last : Nat
  stride : Nat
  delta : Int

/-- Unicode simple case folding, where it is not the identity. -/
def foldRanges : List FoldRange :=
  [⟨65, 90, 1, 32⟩, ⟨181, 181, 1, 775⟩, ⟨192, 214, 1, 32⟩, ⟨216, 222, 1, 32⟩, ⟨256, 302, 2, 1⟩,
   ⟨306, 310, 2, 1⟩, ⟨313, 327, 2, 1⟩, ⟨330, 374, 2, 1⟩, ⟨376, 376, 1, -121⟩, ⟨377, 381, 2, 1⟩,
   ⟨383, 383, 1, -268⟩, ⟨385, 385, 1, 210⟩, ⟨386, 388, 2, 1⟩, ⟨390, 390, 1, 206⟩,
   ⟨391, 391, 1, 1⟩, ⟨393, 394, 1, 205⟩, ⟨395, 395, 1, 1⟩, ⟨398, 398, 1, 79⟩, ⟨399, 399, 1, 202⟩,
   ⟨400, 400, 1, 203⟩, ⟨401, 401, 1, 1⟩, ⟨403, 403, 1, 205⟩, ⟨404, 404, 1, 207⟩,
   ⟨406, 406, 1, 211⟩, ⟨407, 407, 1, 209⟩, ⟨408, 408, 1, 1⟩, ⟨412, 412, 1, 211⟩,
   ⟨413, 413, 1, 213⟩, ⟨415, 415, 1, 214⟩, ⟨416, 420, 2, 1⟩, ⟨422, 422, 1, 218⟩,
   ⟨423, 423, 1, 1⟩, ⟨425, 425, 1, 218⟩, ⟨428, 428, 1, 1⟩, ⟨430, 430, 1, 218⟩, ⟨431, 431, 1, 1⟩,
   ⟨433, 434, 1, 217⟩, ⟨435, 437, 2, 1⟩, ⟨439, 439, 1, 219⟩, ⟨440, 440, 1, 1⟩, ⟨444, 444, 1, 1⟩,
   ⟨452, 452, 1, 2⟩, ⟨453, 453, 1, 1⟩, ⟨455, 455, 1, 2⟩, ⟨456, 456, 1, 1⟩, ⟨458, 458, 1, 2⟩,
   ⟨459, 475, 2, 1⟩, ⟨478, 494, 2, 1⟩, ⟨497, 497, 1, 2⟩, ⟨498, 500, 2, 1⟩, ⟨502, 502, 1, -97⟩,
   ⟨503, 503, 1, -56⟩, ⟨504, 542, 2, 1⟩, ⟨544, 544, 1, -130⟩, ⟨546, 562, 2, 1⟩,
   ⟨570, 570, 1, 10795⟩, ⟨571, 571, 1, 1⟩, ⟨573, 573, 1, -163⟩, ⟨574, 574, 1, 10792⟩,
   ⟨577, 577, 1, 1⟩, ⟨579, 579, 1, -195⟩, ⟨580, 580, 1, 69⟩, ⟨581, 581, 1, 71⟩, ⟨582, 590, 2, 1⟩,
   ⟨837, 837, 1, 116⟩, ⟨880, 882, 2, 1⟩, ⟨886, 886, 1, 1⟩, ⟨895, 895, 1, 116⟩, ⟨902, 902, 1, 38⟩,
   ⟨904, 906, 1, 37⟩, ⟨908, 908, 1, 64⟩, ⟨910, 911, 1, 63⟩, ⟨913, 929, 1, 32⟩, ⟨931, 939, 1, 32⟩,
   ⟨962, 962, 1, 1⟩, ⟨975, 975, 1, 8⟩, ⟨976, 976, 1, -30⟩, ⟨977, 977, 1, -25⟩,
   ⟨981, 981, 1, -15⟩, ⟨982, 982, 1, -22⟩, ⟨984, 1006, 2, 1⟩, ⟨1008, 1008, 1, -54⟩,
   ⟨1009, 1009, 1, -48⟩, ⟨1012, 1012, 1, -60⟩, ⟨1013, 1013, 1, -64⟩, ⟨1015, 1015, 1, 1⟩,
   ⟨1017, 1017, 1, -7⟩, ⟨1018, 1018, 1, 1⟩, ⟨1021, 1023, 1, -130⟩, ⟨1024, 1039, 1, 80⟩,
   ⟨1040, 1071, 1, 32⟩, ⟨1120, 1152, 2, 1⟩, ⟨1162, 1214, 2, 1⟩, ⟨1216, 1216, 1, 15⟩,
   ⟨1217, 1229, 2, 1⟩, ⟨1232, 1326, 2, 1⟩, ⟨1329, 1366, 1, 48⟩, ⟨4256, 4293, 1, 7264⟩,
   ⟨4295, 4295, 1, 7264⟩, ⟨4301, 4301, 1, 7264⟩, ⟨5112, 5117, 1, -8⟩, ⟨7296, 7296, 1, -6222⟩,
   ⟨7297, 7297, 1, -6221⟩, ⟨7298, 7298, 1, -6212⟩, ⟨7299, 7300, 1, -6210⟩,
   ⟨7301, 7301, 1, -6211⟩, ⟨7302, 7302, 1, -6204⟩, ⟨7303, 7303, 1, -6180⟩,
   ⟨7304, 7304, 1, 35267⟩, ⟨7312, 7354, 1, -3008⟩, ⟨7357, 7359, 1, -3008⟩, ⟨7680, 7828, 2, 1⟩,
   ⟨7835, 7835, 1, -58⟩, ⟨7838, 7838, 1, -7615⟩, ⟨7840, 7934, 2, 1⟩, ⟨7944, 7951, 1, -8⟩,
   ⟨7960, 7965, 1, -8⟩, ⟨7976, 7983, 1, -8⟩, ⟨7992, 7999, 1, -8⟩, ⟨8008, 8013, 1, -8⟩,
   ⟨8025, 8031, 2, -8⟩, ⟨8040, 8047, 1, -8⟩, ⟨8072, 8079, 1, -8⟩, ⟨8088, 8095, 1, -8⟩,
   ⟨8104, 8111, 1, -8⟩, ⟨8120, 8121, 1, -8⟩, ⟨8122, 8123, 1, -74⟩, ⟨8124, 8124, 1, -9⟩,
   ⟨8126, 8126, 1, -7173⟩, ⟨8136, 8139, 1, -86⟩, ⟨8140, 8140, 1, -9⟩, ⟨8152, 8153, 1, -8⟩,
   ⟨8154, 8155, 1, -100⟩, ⟨8168, 8169, 1, -8⟩, ⟨8170, 8171, 1, -112⟩, ⟨8172, 8172, 1, -7⟩,
   ⟨8184, 8185, 1, -128⟩, ⟨8186, 8187, 1, -126⟩, ⟨8188, 8188, 1, -9⟩, ⟨8486, 8486, 1, -7517⟩,
   ⟨8490, 8490, 1, -8383⟩, ⟨8491, 8491, 1, -8262⟩, ⟨8498, 8498, 1, 28⟩, ⟨8544, 8559, 1, 16⟩,
   ⟨8579, 8579, 1, 1⟩, ⟨9398, 9423, 1, 26⟩, ⟨11264, 11311, 1, 48⟩, ⟨11360, 11360, 1, 1⟩,
   ⟨11362, 11362, 1, -10743⟩, ⟨11363, 11363, 1, -3814⟩, ⟨11364, 11364, 1, -10727⟩,
   ⟨11367, 11371, 2, 1⟩, ⟨11373, 11373, 1, -10780⟩, ⟨11374, 11374, 1, -10749⟩,
   ⟨11375, 11375, 1, -10783⟩, ⟨11376, 11376, 1, -10782⟩, ⟨11378, 11378, 1, 1⟩,
   ⟨11381, 11381, 1, 1⟩, ⟨11390, 11391, 1, -10815⟩, ⟨11392, 11490, 2, 1⟩, ⟨11499, 11501, 2, 1⟩,
   ⟨11506, 11506, 1, 1⟩, ⟨42560, 42604, 2, 1⟩, ⟨42624, 42650, 2, 1⟩, ⟨42786, 42798, 2, 1⟩,
   ⟨42802, 42862, 2, 1⟩, ⟨42873, 42875, 2, 1⟩, ⟨42877, 42877, 1, -35332⟩, ⟨42878, 42886, 2, 1⟩,
   ⟨42891, 42891, 1, 1⟩, ⟨42893, 42893, 1, -42280⟩, ⟨42896, 42898, 2, 1⟩, ⟨42902, 42920, 2, 1⟩,
   ⟨42922, 42922, 1, -42308⟩, ⟨42923, 42923, 1, -42319⟩, ⟨42924, 42924, 1, -42315⟩,
   ⟨42925, 42925, 1, -42305⟩, ⟨42926, 42926, 1, -42308⟩, ⟨42928, 42928, 1, -42258⟩,
   ⟨42929, 42929, 1, -42282⟩, ⟨42930, 42930, 1, -42261⟩, ⟨42931, 42931, 1, 928⟩,
   ⟨42932, 42946, 2, 1⟩, ⟨42948, 42948, 1, -48⟩, ⟨42949, 42949, 1, -42307⟩,
   ⟨42950, 42950, 1, -35384⟩, ⟨42951, 42953, 2, 1⟩, ⟨42960, 42960, 1, 1⟩, ⟨42966, 42968, 2, 1⟩,
   ⟨42997, 42997, 1, 1⟩, ⟨43888, 43967, 1, -38864⟩, ⟨65313, 65338, 1, 32⟩, ⟨66560, 66599, 1, 40⟩,
   ⟨66736, 66771, 1, 40⟩, ⟨66928, 66938, 1, 39⟩, ⟨66940, 66954, 1, 39⟩, ⟨66956, 66962, 1, 39⟩,
   ⟨66964, 66965, 1, 39⟩, ⟨68736, 68786, 1, 64⟩, ⟨71840, 71871, 1, 32⟩, ⟨93760, 93791, 1, 32⟩,
   ⟨125184, 125217, 1, 34⟩]

/-- The representative of a rune's case orbit. -/
def simpleFold (rune : Nat) : Nat :=
  match foldRanges.find? fun range =>
      range.first ≤ rune && rune ≤ range.last && (rune - range.first) % range.stride = 0 with
  | none => rune
  | some range => (rune + range.delta).toNat

/-- `strings.EqualFold`. -/
def equalFold (left right : List UInt8) : Bool :=
  (runes left).map simpleFold = (runes right).map simpleFold

theorem equalFold_refl (text : List UInt8) : equalFold text text = true := by
  simp [equalFold]

theorem equalFold_trans {left middle right : List UInt8} (first : equalFold left middle = true)
    (second : equalFold middle right = true) : equalFold left right = true := by
  simp only [equalFold, decide_eq_true_eq] at *
  rw [first, second]

theorem equalFold_symm {left right : List UInt8} (same : equalFold left right = true) :
    equalFold right left = true := by
  simp only [equalFold, decide_eq_true_eq] at *
  rw [same]

theorem length_runesUpTo_le (fuel : Nat) (text : List UInt8) :
    (runesUpTo fuel text).length ≤ fuel := by
  induction fuel generalizing text with
  | zero => exact Nat.le_refl 0
  | succ fuel ih =>
      cases text with
      | nil => exact Nat.zero_le _
      | cons first rest =>
          simp only [runesUpTo]
          split
          · exact Nat.succ_le_succ (ih rest)
          · exact Nat.succ_le_succ (ih _)

theorem length_runes_le (text : List UInt8) : (runes text).length ≤ text.length :=
  length_runesUpTo_le text.length text

/-- ASCII text is read byte by byte. -/
theorem runes_of_ascii {text : List UInt8} (ascii : ∀ byte ∈ text, byte.toNat < 0x80) :
    runes text = text.map UInt8.toNat := by
  unfold runes
  induction text with
  | nil => rfl
  | cons first rest ih =>
      have small := ascii first List.mem_cons_self
      rw [List.length_cons, runesUpTo, if_pos small, List.map_cons,
        ih fun byte member => ascii byte (List.mem_cons_of_mem _ member)]

/-- Equal strings have the same number of runes. -/
theorem length_runes_of_equalFold {left right : List UInt8} (same : equalFold left right = true) :
    (runes left).length = (runes right).length := by
  simp only [equalFold, decide_eq_true_eq] at same
  simpa using congrArg List.length same

/-! ## Bytes that have no case -/

/-- The ASCII characters below the small letters that are not capital letters. -/
def Caseless (rune : Nat) : Prop := rune < 65 ∨ 90 < rune ∧ rune < 97

/-- Folding never produces a caseless rune from another one. -/
theorem simpleFold_eq_of_caseless {rune key : Nat} (caseless : Caseless key) :
    simpleFold rune = key ↔ rune = key := by
  have targets : ∀ range ∈ foldRanges, 97 ≤ range.first + range.delta := by
    decide +kernel
  have sources : ∀ range ∈ foldRanges,
      range.first = 65 ∧ range.last = 90 ∨ 97 ≤ range.first := by decide +kernel
  unfold simpleFold
  split
  next => rfl
  next range found =>
    have member := List.mem_of_find?_eq_some found
    have inside := List.find?_some found
    have target := targets range member
    have source := sources range member
    simp only [Bool.and_eq_true, decide_eq_true_eq] at inside
    unfold Caseless at caseless
    constructor
    · intro folded
      omega
    · intro same
      omega

theorem countP_map_simpleFold {counted : Nat → Bool}
    (caseless : ∀ rune, counted rune = true → Caseless rune) (text : List Nat) :
    (text.map simpleFold).countP counted = text.countP counted := by
  rw [List.countP_map]
  apply List.countP_congr
  intro rune _
  constructor
  · intro folded
    have same := (simpleFold_eq_of_caseless (caseless _ folded)).mp rfl
    rwa [same]
  · intro plain
    rwa [Function.comp_apply, (simpleFold_eq_of_caseless (caseless rune plain)).mpr rfl]

/-- The second byte is a continuation byte, and rules out overlong sequences, surrogates
and runes that are too large. -/
theorem accepts_iff {first second : Nat} :
    accepts first second = true ↔
      0x80 ≤ second ∧ second ≤ 0xBF ∧ (first = 0xE0 → 0xA0 ≤ second) ∧
        (first = 0xED → second ≤ 0x9F) ∧ (first = 0xF0 → 0x90 ≤ second) ∧
        (first = 0xF4 → second ≤ 0x8F) := by
  simp only [accepts, Bool.and_eq_true, decide_eq_true_eq]
  unfold acceptRange
  split
  · dsimp only
    omega
  · split
    · dsimp only
      omega
    · split
      · dsimp only
        omega
      · split
        all_goals
          dsimp only
          omega

/-! ## Valid sequences -/

/-- The valid sequences of more than one byte, and their runes. -/
inductive Multibyte : UInt8 → List UInt8 → Nat → Prop where
  | two {first b1 : UInt8} (low : 0xC2 ≤ first.toNat) (high : first.toNat ≤ 0xDF)
      (accepted : accepts first.toNat b1.toNat = true) :
      Multibyte first [b1] (first.toNat % 32 * 64 + b1.toNat % 64)
  | three {first b1 b2 : UInt8} (low : 0xE0 ≤ first.toNat) (high : first.toNat ≤ 0xEF)
      (accepted : accepts first.toNat b1.toNat = true)
      (second : isContinuation b2.toNat = true) :
      Multibyte first [b1, b2]
        (first.toNat % 16 * 4096 + b1.toNat % 64 * 64 + b2.toNat % 64)
  | four {first b1 b2 b3 : UInt8} (low : 0xF0 ≤ first.toNat) (high : first.toNat ≤ 0xF4)
      (accepted : accepts first.toNat b1.toNat = true)
      (second : isContinuation b2.toNat = true) (third : isContinuation b3.toNat = true) :
      Multibyte first [b1, b2, b3]
        (first.toNat % 8 * 262144 + b1.toNat % 64 * 4096 + b2.toNat % 64 * 64 + b3.toNat % 64)

/-- No valid sequence starts with a byte, given what follows it. -/
def Broken (first : UInt8) (rest : List UInt8) : Prop :=
  ∀ tail more rune, rest = tail ++ more → ¬ Multibyte first tail rune

section Sequences

variable {first : UInt8} {tail : List UInt8} {rune : Nat}

/-- A second byte that may follow is a continuation byte. -/
theorem isContinuation_of_accepts {first second : Nat} (accepted : accepts first second = true) :
    isContinuation second = true := by
  have range := accepts_iff.mp accepted
  simp only [isContinuation, Bool.and_eq_true, decide_eq_true_eq]
  omega

theorem isContinuation_iff {byte : Nat} :
    isContinuation byte = true ↔ 0x80 ≤ byte ∧ byte ≤ 0xBF := by
  simp only [isContinuation, Bool.and_eq_true, decide_eq_true_eq]

namespace Multibyte

theorem first_large (sequence : Multibyte first tail rune) :
    0xC2 ≤ first.toNat ∧ first.toNat ≤ 0xF4 := by
  cases sequence <;> omega

theorem tail_ne_nil (sequence : Multibyte first tail rune) : tail ≠ [] := by
  cases sequence <;> simp

theorem continues (sequence : Multibyte first tail rune) :
    ∀ byte ∈ tail, isContinuation byte.toNat = true := by
  cases sequence with
  | two _ _ accepted => simp [isContinuation_of_accepts accepted]
  | three _ _ accepted second => simp [isContinuation_of_accepts accepted, second]
  | four _ _ accepted second third => simp [isContinuation_of_accepts accepted, second, third]

/-- The first byte decides how many follow, so a string starts with one sequence at
most. -/
theorem unique {more tail' more' : List UInt8} {rune' : Nat}
    (left : Multibyte first tail rune) (right : Multibyte first tail' rune')
    (same : tail ++ more = tail' ++ more') : tail = tail' ∧ rune = rune' := by
  cases left with
  | two low high accepted =>
      cases right with
      | two =>
          simp only [List.cons_append, List.nil_append, List.cons.injEq] at same
          obtain ⟨rfl, _⟩ := same
          exact ⟨rfl, rfl⟩
      | three => omega
      | four => omega
  | three low high =>
      cases right with
      | two => omega
      | three =>
          simp only [List.cons_append, List.nil_append, List.cons.injEq] at same
          obtain ⟨rfl, rfl, _⟩ := same
          exact ⟨rfl, rfl⟩
      | four => omega
  | four low high =>
      cases right with
      | two => omega
      | three => omega
      | four =>
          simp only [List.cons_append, List.nil_append, List.cons.injEq] at same
          obtain ⟨rfl, rfl, rfl, _⟩ := same
          exact ⟨rfl, rfl⟩

end Multibyte

/-- What `decodeMultibyte` finds. -/
theorem decodeMultibyte_eq (first : UInt8) (rest : List UInt8) :
    (∃ tail more rune, rest = tail ++ more ∧ Multibyte first tail rune ∧
        decodeMultibyte first.toNat rest = (rune, tail.length + 1)) ∨
      (Broken first rest ∧ decodeMultibyte first.toNat rest = (runeError, 1)) := by
  unfold decodeMultibyte
  split
  next b1 b2 b3 more =>
    split
    next valid => exact .inl ⟨[b1], _, _, rfl, .two valid.1 valid.2.1 valid.2.2, rfl⟩
    next notTwo =>
      split
      next valid =>
        exact .inl ⟨[b1, b2], _, _, rfl, .three valid.1 valid.2.1 valid.2.2.1 valid.2.2.2, rfl⟩
      next notThree =>
        split
        next valid =>
          exact .inl ⟨[b1, b2, b3], _, _, rfl,
            .four valid.1 valid.2.1 valid.2.2.1 valid.2.2.2.1 valid.2.2.2.2, rfl⟩
        next notFour =>
          refine .inr ⟨?_, rfl⟩
          intro tail more rune split sequence
          cases sequence with
          | two low high accepted =>
              cases split
              exact notTwo ⟨low, high, accepted⟩
          | three low high accepted second =>
              cases split
              exact notThree ⟨low, high, accepted, second⟩
          | four low high accepted second third =>
              cases split
              exact notFour ⟨low, high, accepted, second, third⟩
  next b1 b2 =>
    split
    next valid => exact .inl ⟨[b1], _, _, rfl, .two valid.1 valid.2.1 valid.2.2, rfl⟩
    next notTwo =>
      split
      next valid =>
        exact .inl ⟨[b1, b2], [], _, rfl, .three valid.1 valid.2.1 valid.2.2.1 valid.2.2.2, rfl⟩
      next notThree =>
        refine .inr ⟨?_, rfl⟩
        intro tail more rune split sequence
        cases sequence with
        | two low high accepted =>
            cases split
            exact notTwo ⟨low, high, accepted⟩
        | three low high accepted second =>
            cases split
            exact notThree ⟨low, high, accepted, second⟩
        | four => cases split
  next b1 =>
    split
    next valid => exact .inl ⟨[b1], [], _, rfl, .two valid.1 valid.2.1 valid.2.2, rfl⟩
    next notTwo =>
      refine .inr ⟨?_, rfl⟩
      intro tail more rune split sequence
      cases sequence with
      | two low high accepted =>
          cases split
          exact notTwo ⟨low, high, accepted⟩
      | three => cases split
      | four => cases split
  next =>
    refine .inr ⟨?_, rfl⟩
    intro tail more rune split sequence
    exact sequence.tail_ne_nil (List.append_eq_nil_iff.mp split.symm).1

/-- The length of a sequence shows in its rune. -/
theorem Multibyte.rune_range (sequence : Multibyte first tail rune) :
    tail.length = 1 ∧ 0x80 ≤ rune ∧ rune < 0x800 ∨
      tail.length = 2 ∧ 0x800 ≤ rune ∧ rune < 0x10000 ∨ tail.length = 3 ∧ 0x10000 ≤ rune := by
  cases sequence with
  | two low high accepted =>
      have range := accepts_iff.mp accepted
      exact .inl ⟨rfl, by omega, by omega⟩
  | three low high accepted =>
      have range := accepts_iff.mp accepted
      exact .inr (.inl ⟨rfl, by omega, by omega⟩)
  | four low high accepted =>
      have range := accepts_iff.mp accepted
      exact .inr (.inr ⟨rfl, by omega⟩)

theorem Multibyte.rune_large (sequence : Multibyte first tail rune) : 0x80 ≤ rune := by
  have range := sequence.rune_range
  omega

end Sequences

/-- A sequence of several bytes holds no ASCII byte and is no ASCII rune. -/
theorem decodeMultibyte_spec (first : UInt8) (rest : List UInt8) :
    0x80 ≤ (decodeMultibyte first.toNat rest).1 ∧
      ∀ byte ∈ rest.take ((decodeMultibyte first.toNat rest).2 - 1), 0x80 ≤ byte.toNat := by
  rcases decodeMultibyte_eq first rest with
    ⟨tail, more, rune, rfl, sequence, decoded⟩ | ⟨-, decoded⟩
  · rw [decoded]
    refine ⟨sequence.rune_large, ?_⟩
    rw [Nat.add_sub_cancel, List.take_left]
    intro byte member
    exact (isContinuation_iff.mp (sequence.continues byte member)).1
  · rw [decoded]
    exact ⟨by decide, by simp⟩

theorem countP_runesUpTo {counted : Nat → Bool}
    (ascii : ∀ rune, counted rune = true → rune < 0x80) (fuel : Nat) (text : List UInt8)
    (enough : text.length ≤ fuel) :
    (runesUpTo fuel text).countP counted = text.countP fun byte => counted byte.toNat := by
  have uncounted : ∀ rune, 0x80 ≤ rune → counted rune = false := by
    intro rune large
    by_contra counts
    have := ascii rune (by simpa using counts)
    omega
  induction fuel generalizing text with
  | zero =>
      rw [List.eq_nil_of_length_eq_zero (Nat.le_zero.mp enough)]
      rfl
  | succ fuel ih =>
      cases text with
      | nil => rfl
      | cons first rest =>
          rw [List.length_cons] at enough
          simp only [runesUpTo]
          split
          next small => rw [List.countP_cons, List.countP_cons, ih rest (by omega)]
          next large =>
            have ⟨rune, taken⟩ := decodeMultibyte_spec first rest
            generalize decodeMultibyte first.toNat rest = decoded at rune taken ⊢
            have shorter : (rest.drop (decoded.2 - 1)).length ≤ fuel := by
              rw [List.length_drop]
              omega
            have skipped : (rest.take (decoded.2 - 1)).countP (fun byte => counted byte.toNat) =
                0 := by
              rw [List.countP_eq_zero]
              intro byte member
              simp [uncounted _ (taken byte member)]
            have split := List.take_append_drop (decoded.2 - 1) rest
            rw [List.countP_cons, List.countP_cons, ih _ shorter, uncounted _ rune,
              uncounted _ (Nat.le_of_not_lt large),
              ← congrArg (List.countP fun byte => counted byte.toNat) split,
              List.countP_append, skipped]
            simp

/-- Strings that are equal up to case have the same caseless bytes. -/
theorem countP_eq_of_equalFold {left right : List UInt8} (same : equalFold left right = true)
    {counted : Nat → Bool} (caseless : ∀ rune, counted rune = true → Caseless rune) :
    left.countP (fun byte => counted byte.toNat) =
      right.countP fun byte => counted byte.toNat := by
  have ascii : ∀ rune, counted rune = true → rune < 0x80 := by
    intro rune counts
    have := caseless rune counts
    unfold Caseless at this
    omega
  simp only [equalFold, decide_eq_true_eq] at same
  calc left.countP (fun byte => counted byte.toNat)
      = (runes left).countP counted := (countP_runesUpTo ascii _ left (Nat.le_refl _)).symm
    _ = ((runes left).map simpleFold).countP counted := (countP_map_simpleFold caseless _).symm
    _ = ((runes right).map simpleFold).countP counted := by rw [same]
    _ = (runes right).countP counted := countP_map_simpleFold caseless _
    _ = right.countP (fun byte => counted byte.toNat) :=
        countP_runesUpTo ascii _ right (Nat.le_refl _)

end UnboundWasm.Lib
