import Mathlib.Algebra.Ring.Nat
import Mathlib.Algebra.Ring.Int.Defs

/-!
# WASI errno values

The numbering used across the ABI, and the conversion of errors from the Go
network stack (`errno.go`).  Host imports report failure as a negated errno.
-/

namespace UnboundWasm.Host

def wasiSuccess : Int := 0
def wasiEACCES : Int := 2
def wasiEADDRINUSE : Int := 3
def wasiEADDRNOTAVAIL : Int := 4
def wasiEAFNOSUPPORT : Int := 5
def wasiEAGAIN : Int := 6
def wasiEBADF : Int := 8
def wasiECONNREFUSED : Int := 14
def wasiECONNRESET : Int := 15
def wasiEFAULT : Int := 21
def wasiEHOSTUNREACH : Int := 23
def wasiEINVAL : Int := 28
def wasiEIO : Int := 29
def wasiENETUNREACH : Int := 40
def wasiEMFILE : Int := 41
def wasiENOTCONN : Int := 53
def wasiEPIPE : Int := 64
def wasiETIMEDOUT : Int := 73

/-- The `syscall.Errno` values `wasiErrno` tells apart. -/
inductive SysErrno where
  | eacces | eaddrinuse | eaddrnotavail | eagain | ebadf | econnrefused
  | econnreset | ehostunreach | einval | enetunreach | enotconn | epipe
  | etimedout | other
  deriving DecidableEq, Repr

/-- A non-nil error of the Go network stack, with any `net.OpError` around it
removed and reduced to what the host code asks of it. -/
inductive NetError where
  | errno (value : SysErrno)
  | deadlineExceeded
  | netClosed
  | eof
  | other
  deriving DecidableEq, Repr

/-- `wasiErrno` of a non-nil error. -/
def wasiErrno : NetError → Int
  | .errno .eacces => wasiEACCES
  | .errno .eaddrinuse => wasiEADDRINUSE
  | .errno .eaddrnotavail => wasiEADDRNOTAVAIL
  | .errno .eagain => wasiEAGAIN
  | .errno .ebadf => wasiEBADF
  | .errno .econnrefused => wasiECONNREFUSED
  | .errno .econnreset => wasiECONNRESET
  | .errno .ehostunreach => wasiEHOSTUNREACH
  | .errno .einval => wasiEINVAL
  | .errno .enetunreach => wasiENETUNREACH
  | .errno .enotconn => wasiENOTCONN
  | .errno .epipe => wasiEPIPE
  | .errno .etimedout => wasiETIMEDOUT
  | .errno .other => wasiEIO
  | .deadlineExceeded => wasiETIMEDOUT
  | .netClosed => wasiEBADF
  | .eof | .other => wasiEIO

/-- Every error is reported above success, so its negation cannot be mistaken
for a byte count. -/
theorem wasiSuccess_lt_wasiErrno (err : NetError) : wasiSuccess < wasiErrno err := by
  cases err with
  | errno value => cases value <;> decide
  | deadlineExceeded | netClosed | eof | other => decide

/-- Conversion of a Go `int` to `int32`, wrapping around. -/
def toInt32 (value : Int) : Int := value.bmod (2 ^ 32)

theorem toInt32_of_lt {value : Nat} (small : value < 2 ^ 31) : toInt32 value = value := by
  rw [toInt32, Int.bmod_eq_of_le (by omega) (by omega)]

/-- The result of an `int64` operation, and the conversion to one. -/
def toInt64 (value : Int) : Int := (BitVec.ofInt 64 value).toInt

theorem toInt64_of_lt {value : Int} (above : -2 ^ 63 ≤ value) (below : value < 2 ^ 63) :
    toInt64 value = value := by
  rw [toInt64, BitVec.toInt_ofInt]
  exact Int.bmod_eq_of_le_mul_two (by omega) (by omega)

theorem toInt64_of_wrapped {value : Int} (large : 2 ^ 63 ≤ value) (bounded : value < 2 ^ 64) :
    toInt64 value = value - 2 ^ 64 := by
  rw [toInt64, BitVec.toInt_ofInt, Int.bmod_eq_emod, Int.emod_eq_of_lt (by omega) (by omega),
    if_pos (by omega)]
  rfl

end UnboundWasm.Host
