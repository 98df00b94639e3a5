import Mathlib.Order.Bounds.Defs
import UnboundWasm.Host.Errno
import UnboundWasm.Host.LinearMemory

/-!
# The memory limit

How `NewRuntime` turns `Config.MemoryLimit`, an `int64` of bytes, into the number of pages
that it passes on as a `uint32`.
-/

namespace UnboundWasm.Host

/-- `uint32(value)`. -/
def toUInt32 (value : Int) : Nat := (value % 2 ^ 32).toNat

/-- `maxPages`. -/
def maxPages : Nat := 2 ^ 32 / pageSize

/-- `(cfg.MemoryLimit+pageSize-1)/pageSize`, which rounds towards zero. -/
def roundedPages (memoryLimit : Int) : Int :=
  (toInt64 (toInt64 (memoryLimit + pageSize) - 1)).tdiv pageSize

/-- The number of pages that `NewRuntime` computes. -/
def limitPages (memoryLimit : Int) : Nat :=
  if memoryLimit > 0 then toUInt32 (min (roundedPages memoryLimit) maxPages)
  else toUInt32 (64 * 2 ^ 20 / pageSize)

/-- What is asked of the page count of a limit. -/
structure LimitExact (memoryLimit : Int) : Prop where
  /-- The fewest pages that cover the limit, or all there are. -/
  pages : ∃ least, IsLeast { pages : Nat | memoryLimit ≤ pages * pageSize } least ∧
    limitPages memoryLimit = min least maxPages
  range : 1 ≤ limitPages memoryLimit ∧ limitPages memoryLimit ≤ 65536
  monotone : ∀ smaller, 0 < smaller → smaller ≤ memoryLimit →
    limitPages smaller ≤ limitPages memoryLimit
  sum : toInt64 (memoryLimit + pageSize) = memoryLimit + pageSize ∧
    toInt64 (toInt64 (memoryLimit + pageSize) - 1) = memoryLimit + pageSize - 1
  conversion : limitPages memoryLimit = min (roundedPages memoryLimit) maxPages

section Fits

variable {memoryLimit : Int} (positive : 0 < memoryLimit) (fits : memoryLimit + pageSize < 2 ^ 63)

include positive fits

theorem sum_of_fits : toInt64 (memoryLimit + pageSize) = memoryLimit + pageSize :=
  toInt64_of_lt (by omega) fits

theorem roundedPages_of_fits :
    roundedPages memoryLimit = (memoryLimit + 65535) / 65536 := by
  have sum := sum_of_fits positive fits
  simp only [pageSize] at fits sum
  rw [roundedPages, pageSize, sum, toInt64_of_lt (by omega) (by omega),
    Int.tdiv_eq_ediv_of_nonneg (by omega)]
  omega

theorem limitPages_of_fits :
    (limitPages memoryLimit : Int) = min ((memoryLimit + 65535) / 65536) 65536 := by
  rw [limitPages, if_pos positive, roundedPages_of_fits positive fits, toUInt32]
  simp only [maxPages, pageSize]
  omega

end Fits

/-- The page count is exact unless rounding up leaves the range of an `int64`. -/
theorem memory_limit_exact_iff {memoryLimit : Int} (positive : 0 < memoryLimit)
    (int64 : memoryLimit < 2 ^ 63) :
    LimitExact memoryLimit ↔ memoryLimit ≤ 2 ^ 63 - 1 - 65536 := by
  constructor
  · intro exactly
    by_contra large
    have sum := exactly.sum.1
    rw [toInt64_of_wrapped (by simp only [pageSize]; omega) (by simp only [pageSize]; omega)] at sum
    omega
  · intro small
    have fits : memoryLimit + pageSize < 2 ^ 63 := by
      simp only [pageSize]
      omega
    have count := limitPages_of_fits positive fits
    have rounded := roundedPages_of_fits positive fits
    have sum := sum_of_fits positive fits
    constructor
    case pages =>
      refine ⟨((memoryLimit + 65535) / 65536).toNat, ⟨?_, ?_⟩, ?_⟩
      · simp only [Set.mem_ofPred_eq, pageSize]
        omega
      · intro pages covers
        simp only [Set.mem_ofPred_eq, pageSize] at covers
        omega
      · simp only [maxPages, pageSize]
        omega
    case range => omega
    case monotone =>
      intro smaller above below
      have other := limitPages_of_fits above (by omega)
      omega
    case sum =>
      refine ⟨sum, ?_⟩
      rw [sum]
      exact toInt64_of_lt (by omega) (by omega)
    case conversion =>
      rw [count, rounded]
      rfl

theorem memory_limit_exact_iff_byte : LimitExact 1 ∧ limitPages 1 = 1 :=
  ⟨(memory_limit_exact_iff (by decide) (by decide)).mpr (by decide), by decide⟩

/-- The largest limit gets a single page. -/
theorem largest_limit_starves : limitPages (2 ^ 63 - 1) = 1 ∧ ¬ LimitExact (2 ^ 63 - 1) := by
  have one : limitPages (2 ^ 63 - 1) = 1 := by decide
  refine ⟨one, ?_⟩
  intro exactly
  have more := exactly.monotone (2 ^ 32) (by decide) (by decide)
  rw [one] at more
  exact absurd more (by decide)

end UnboundWasm.Host
