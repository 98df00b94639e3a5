import Mathlib.Data.List.DropRight
import UnboundWasm.Guest.Slots
import UnboundWasm.Host.Name

/-!
# Setting up the context

`guest_init` saves three texts; the first `warmup` or `resolve_start` creates the
libunbound context and applies them line by line, overwriting the texts as it goes.
What libunbound answers is arbitrary.

A buffer is the list of its bytes.  `ctx_err` is kept as the error whose `ub_errno` it is;
`EINVAL` and `ENOMEM`, which the setup also reports by itself, are the numbers of a syntax
error and of a lack of memory.
-/

namespace UnboundWasm.Guest

open UnboundWasm.Lib UnboundWasm.Host

/-- `enum input_kind`. -/
inductive Input where
  | config | anchors | hints
  deriving DecidableEq, Repr

/-- `ub_ctx_set_option`, `ub_ctx_add_ta`, and `ub_ctx_set_stub` for a prime stub of the
root. -/
inductive ConfigCall where
  | setOption (opt value : Bytes)
  | addTa (anchor : Bytes)
  | setStub (addr : Bytes)
  deriving DecidableEq, Repr

/-- `EALREADY` of the guest's C library. -/
def ealready : Int := 7

def newline : UInt8 := 10
def hashSign : UInt8 := 35
def equalsSign : UInt8 := 61

/-- A space, a tab or a carriage return. -/
def isBlank (byte : UInt8) : Bool := byte = 32 || byte = 9 || byte = 13

/-- A line, and whether a newline ends it. -/
structure Line where
  bytes : Bytes
  ended : Bool
  deriving DecidableEq, Repr

/-- The lines the loop of `apply_lines` finds in a string. -/
def textLines : Bytes → List Line
  | [] => []
  | byte :: rest =>
      if byte = newline then ⟨[], true⟩ :: textLines rest
      else
        match textLines rest with
        | [] => [⟨[byte], false⟩]
        | line :: lines => { line with bytes := byte :: line.bytes } :: lines

/-- What is passed on of a line: nothing of a blank line or a comment. -/
def lineText (line : Bytes) : Option Bytes :=
  let line := line.dropWhile isBlank
  if line = [] ∨ line.head? = some hashSign then none else some (line.rdropWhile isBlank)

/-- The call a line is turned into. A line of the configuration has a `=`. -/
def configCall (input : Input) (line : Bytes) : Option ConfigCall :=
  match input with
  | .anchors => some (.addTa line)
  | .hints => some (.setStub line)
  | .config =>
      if equalsSign ∈ line then
        some (.setOption (line.takeWhile (· ≠ equalsSign))
          ((line.dropWhile (· ≠ equalsSign)).drop 1))
      else none

namespace Line

/-- The line in a text that was not reached. -/
def text (line : Line) : Bytes := line.bytes ++ if line.ended then [newline] else []

/-- What `apply_lines` leaves of a line: no newline, no blanks at the end, and no `=` in
an option. -/
def cut (input : Input) (line : Line) : Bytes :=
  let body := line.bytes.dropWhile isBlank
  let kept := match lineText line.bytes with
    | none => body
    | some text =>
        (match configCall input text with
          | some (.setOption opt value) => opt ++ 0 :: value
          | _ => text) ++ List.replicate (body.length - text.length) 0
  line.bytes.takeWhile isBlank ++ kept ++ if line.ended then [0] else []

end Line

/-- A configuration call with what libunbound returned, `none` for 0. -/
structure Made where
  input : Input
  call : ConfigCall
  result : Option UbError
  deriving DecidableEq, Repr

/-- The text after `apply_lines`, the calls it made, and its error. -/
structure Applied where
  text : Bytes
  calls : List Made
  failure : Option UbError

/-- `apply_lines`. The n-th call of the setup returns `answers n`; `made` have been
made. -/
def applyLines (input : Input) (answers : Nat → Option UbError) : List Line → Nat → Applied
  | [], _ => ⟨[], [], none⟩
  | line :: rest, made =>
      match lineText line.bytes with
      | none =>
          let applied := applyLines input answers rest made
          { applied with text := line.cut input ++ applied.text }
      | some text =>
          match configCall input text with
          | none => ⟨line.cut input ++ rest.flatMap Line.text, [], some .ubSyntax⟩
          | some call =>
              match answers made with
              | some err =>
                  ⟨line.cut input ++ rest.flatMap Line.text, [⟨input, call, some err⟩], some err⟩
              | none =>
                  let applied := applyLines input answers rest (made + 1)
                  { applied with
                    text := line.cut input ++ applied.text
                    calls := ⟨input, call, none⟩ :: applied.calls }

/-- The statics of `guest.c`, the result slots apart, with the two fields of the context
that `ensure_worker` looks at. `saved` are the buffers, `none` for a null pointer. -/
structure Setup where
  saved : Input → Option Bytes
  ctx : Bool
  ctxErr : Option UbError
  finalized : Bool
  worker : Bool

/-- What libunbound answers to a setup. -/
structure SetupEnv where
  created : Bool
  answers : Nat → Option UbError
  finalize : Option UbError
  worker : Bool

/-- What a setup did: the inputs it began to apply, the calls it made, and its error. -/
structure Progress where
  begun : List Input
  calls : List Made
  failure : Option UbError

namespace Setup

def blank : Setup := ⟨fun _ => none, false, none, false, false⟩

/-- `guest_init`. `copied` says which of its copies got memory. -/
def guestInit (s : Setup) (input : Input → Bytes) (copied : Input → Bool) : Int × Setup :=
  if s.ctx ∨ (s.saved .config).isSome then (-ealready, s)
  else
    let s := { s with
      saved := fun kind => if copied kind then some (copyInput (input kind)) else none }
    if copied .config ∧ copied .anchors ∧ copied .hints then (0, s) else (-enomem, s)

/-- The inputs are applied in turn, up to the first failure. -/
def applyInputs (answers : Nat → Option UbError) :
    List Input → Setup → Nat → Setup × Progress
  | [], s, _ => (s, ⟨[], [], none⟩)
  | input :: rest, s, made =>
      match s.saved input with
      | none => applyInputs answers rest s made
      | some buffer =>
          let string := cString buffer
          let applied := applyLines input answers (textLines string) made
          let s := { s with
            saved := Function.update s.saved input
              (some (applied.text ++ buffer.drop string.length)) }
          match applied.failure with
          | some err => ({ s with ctxErr := some err }, ⟨[input], applied.calls, some err⟩)
          | none =>
              let (s, progress) := applyInputs answers rest s (made + applied.calls.length)
              (s, ⟨input :: progress.begun, applied.calls ++ progress.calls, progress.failure⟩)

/-- `ensure_ctx`. -/
def ensureCtx (s : Setup) (env : SetupEnv) : Setup × Progress :=
  match s.ctxErr with
  | some err => (s, ⟨[], [], some err⟩)
  | none =>
      if s.ctx then (s, ⟨[], [], none⟩)
      else if env.created then
        applyInputs env.answers [.config, .anchors, .hints] { s with ctx := true } 0
      else ({ s with ctxErr := some .ubNomem }, ⟨[], [], some .ubNomem⟩)

/-- `ensure_worker`. -/
def ensureWorker (s : Setup) (env : SetupEnv) : Setup × Option UbError :=
  match (if s.finalized then none else env.finalize) with
  | some err => ({ s with ctxErr := some err }, some err)
  | none =>
      let s := { s with finalized := true }
      if s.worker then (s, none)
      else if env.worker then ({ s with worker := true }, none)
      else ({ s with ctxErr := some .ubNomem }, some .ubNomem)

end Setup

/-- A call of `warmup` or `resolve_start`: what its setup did, whether it reached
`ub_resolve_event`, and what it returned. -/
structure Report extends Progress where
  warmup : Bool
  resolved : Bool
  value : Int

/-- What `resolve_start` meets with after `ensure_ctx`: the slots, whether `copy_input` got
its memory, what `ub_resolve_event` returns, the callbacks before it returns, and whether
it finalized the context and created the worker. -/
structure StartArgs where
  slots : Slots
  copied : Bool
  result : Except UbError Int
  during : List Completion
  finalizes : Bool
  creates : Bool

inductive SetupAction where
  | init (input : Input → Bytes) (copied : Input → Bool)
  | warmup (env : SetupEnv)
  | resolveStart (env : SetupEnv) (query : StartArgs)

namespace Setup

/-- `guest_warmup`. -/
def guestWarmup (s : Setup) (env : SetupEnv) : Setup × Report :=
  let (s, progress) := s.ensureCtx env
  match progress.failure with
  | some err => (s, ⟨progress, true, false, -ubErrno err⟩)
  | none =>
      match s.ensureWorker env with
      | (s, some err) => (s, ⟨{ progress with failure := some err }, true, false, -ubErrno err⟩)
      | (s, none) => (s, ⟨progress, true, false, 0⟩)

/-- `guest_resolve_start`, over `Slots.start`. -/
def guestResolveStart (s : Setup) (env : SetupEnv) (query : StartArgs) : Option (Setup × Report) :=
  let (s, progress) := s.ensureCtx env
  let start : Start := ⟨progress.failure, query.copied, query.result⟩
  match query.slots.start start query.during with
  | none => none
  | some (value, _) =>
      let resolved := (query.slots.refusal start).isNone
      some
        ({ s with
          finalized := s.finalized || (resolved && query.finalizes)
          worker := s.worker || (resolved && query.creates) },
          ⟨progress, false, resolved, value⟩)

def step (s : Setup) : SetupAction → Option Setup
  | .init input copied => some (s.guestInit input copied).2
  | .warmup env => some (s.guestWarmup env).1
  | .resolveStart env query => (s.guestResolveStart env query).map Prod.fst

def report (s : Setup) : SetupAction → Option Report
  | .init _ _ => none
  | .warmup env => some (s.guestWarmup env).2
  | .resolveStart env query => (s.guestResolveStart env query).map Prod.snd

end Setup

/-- The setup of a guest from a successful `init` on, with the log of its calls. -/
def setup (input : Input → Bytes) : Machine (Setup × List Report) SetupAction :=
  (Machine.mk (Setup.blank.guestInit input fun _ => true).2 Setup.step).logged Setup.report

end UnboundWasm.Guest
