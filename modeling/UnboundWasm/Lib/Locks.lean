import Mathlib.Data.Finset.Max
import Mathlib.Logic.Function.Basic
import UnboundWasm.Lib.Machine

/-!
# Threads that take locks

A thread is described by the locks it takes: mutexes held over a block, read-write
mutexes in either mode, and functions that run once.  What decides its branches is left
open.  Any number of threads of each kind may be started at any time.

If every block only takes locks above those it is inside of, in some ranking of the
locks, no set of threads ever waits for locks that its own members hold.
-/

namespace UnboundWasm.Lib.Locks

universe u v

/-- How a lock is held: by any number of readers or by one writer. -/
inductive Mode where
  | read | write
  deriving DecidableEq, Repr

/-- The locks a thread takes. `pick` is a branch over the numbers, `loop` any number of
turns; `locked` holds a lock over a block, and `once` runs a block if that has not been
done, for which it waits if another thread is at it. -/
inductive Code (Lock : Type u) where
  | skip
  | seq (first second : Code Lock)
  | choice (left right : Code Lock)
  | pick (body : Nat → Code Lock)
  | loop (body : Code Lock)
  | locked (mode : Mode) (lock : Lock) (body : Code Lock)
  | once (lock : Lock) (body : Code Lock)

namespace Code

variable {Lock : Type u}

/-- One of a list of branches. -/
def oneOf : List (Code Lock) → Code Lock
  | [] => .skip
  | [code] => code
  | code :: codes => .choice code (oneOf codes)

/-- One after the other. -/
def inOrder : List (Code Lock) → Code Lock
  | [] => .skip
  | [code] => code
  | code :: codes => .seq code (inOrder codes)

/-- The code, or nothing. -/
def maybe (code : Code Lock) : Code Lock := .choice .skip code

/-- A block that takes no lock of its own. -/
def critical (lock : Lock) : Code Lock := .locked .write lock .skip

end Code

/-- What is left of a thread: blocks to run, and the ends of blocks it is inside of. -/
inductive Item (Lock : Type u) where
  | run (code : Code Lock)
  | unlock (mode : Mode) (lock : Lock)
  | finish (lock : Lock)

/-- The threads, and which functions have been run once. -/
structure State (Lock : Type u) where
  threads : List (List (Item Lock))
  done : Lock → Bool

/-- A thread is started, or goes on with a branch where there is one. -/
inductive Action (Kind : Type v) where
  | spawn (kind : Kind)
  | run (thread choice : Nat)

section Machine

variable {Lock : Type u} {Kind : Type v} [DecidableEq Lock]

/-- A lock held this way may be taken in the mode as well. -/
def Item.admits (mode : Mode) (lock : Lock) : Item Lock → Bool
  | .run _ => true
  | .unlock held other => other ≠ lock || (held = .read && mode = .read)
  | .finish other => other ≠ lock

namespace State

/-- No thread holds the lock in a way that excludes the mode. -/
def free (s : State Lock) (mode : Mode) (lock : Lock) : Bool :=
  s.threads.all fun stack => stack.all (Item.admits mode lock)

/-- One thread goes on. -/
def advance (s : State Lock) (choice : Nat) (rest : List (Item Lock)) :
    Item Lock → Option (List (Item Lock) × (Lock → Bool))
  | .run .skip => some (rest, s.done)
  | .run (.seq first second) => some (.run first :: .run second :: rest, s.done)
  | .run (.choice left right) =>
      some (.run (if choice = 0 then left else right) :: rest, s.done)
  | .run (.pick body) => some (.run (body choice) :: rest, s.done)
  | .run (.loop body) =>
      some (if choice = 0 then rest else .run body :: .run (.loop body) :: rest, s.done)
  | .run (.locked mode lock body) =>
      if s.free mode lock then some (.run body :: .unlock mode lock :: rest, s.done) else none
  | .run (.once lock body) =>
      if s.done lock then some (rest, s.done)
      else if s.free .write lock then some (.run body :: .finish lock :: rest, s.done)
      else none
  | .unlock _ _ => some (rest, s.done)
  | .finish lock => some (rest, Function.update s.done lock true)

def step (code : Kind → Code Lock) (s : State Lock) : Action Kind → Option (State Lock)
  | .spawn kind => some { s with threads := s.threads ++ [[.run (code kind)]] }
  | .run thread choice =>
      match s.threads[thread]? with
      | none | some [] => none
      | some (item :: rest) =>
          (s.advance choice rest item).map fun after =>
            ⟨s.threads.set thread after.1, after.2⟩

end State

/-- Threads of these kinds. -/
def machine (code : Kind → Code Lock) : Machine (State Lock) (Action Kind) where
  initial := ⟨[], fun _ => false⟩
  step := State.step code

end Machine

/-! ## Waiting -/

section Waiting

variable {Lock : Type u}

/-- The lock of the block an item ends. -/
def Item.held : Item Lock → Option Lock
  | .run _ => none
  | .unlock _ lock | .finish lock => some lock

/-- The lock a thread takes next. -/
def awaited (done : Lock → Bool) : List (Item Lock) → Option Lock
  | .run (.locked _ lock _) :: _ => some lock
  | .run (.once lock _) :: _ => if done lock then none else some lock
  | _ => none

namespace State

def Awaits (s : State Lock) (thread : Nat) (lock : Lock) : Prop :=
  ∃ stack, s.threads[thread]? = some stack ∧ awaited s.done stack = some lock

def Holds (s : State Lock) (thread : Nat) (lock : Lock) : Prop :=
  ∃ stack, s.threads[thread]? = some stack ∧ lock ∈ stack.filterMap Item.held

/-- Each of these threads waits for a lock that one of them holds. -/
structure Deadlocked (s : State Lock) (members : Finset Nat) : Prop where
  nonempty : members.Nonempty
  waiting : ∀ thread ∈ members, ∃ lock, s.Awaits thread lock ∧
    ∃ other ∈ members, s.Holds other lock

end State

end Waiting

/-! ## Ranked locks -/

section Ranked

variable {Lock : Type u} {Kind : Type v} (rank : Lock → Nat)

/-- The code takes locks from this rank on only, and inside of a block only locks above
that of the block. -/
def Code.Above : Nat → Code Lock → Prop
  | _, .skip => True
  | low, .seq first second => first.Above low ∧ second.Above low
  | low, .choice left right => left.Above low ∧ right.Above low
  | low, .pick body => ∀ choice, (body choice).Above low
  | low, .loop body => body.Above low
  | low, .locked _ lock body | low, .once lock body =>
      low ≤ rank lock ∧ body.Above (rank lock + 1)

/-- The rank a thread may take locks from. -/
def floor : List (Item Lock) → Nat
  | [] => 0
  | .run _ :: rest => floor rest
  | .unlock _ lock :: _ | .finish lock :: _ => rank lock + 1

/-- A thread is inside of blocks of ascending rank, and so is what is left of it. -/
def Ordered : List (Item Lock) → Prop
  | [] => True
  | .run code :: rest => code.Above rank (floor rank rest) ∧ Ordered rest
  | .unlock _ lock :: rest | .finish lock :: rest => floor rank rest ≤ rank lock ∧ Ordered rest

variable {rank}

@[simp] theorem above_maybe {low : Nat} {code : Code Lock} :
    code.maybe.Above rank low ↔ code.Above rank low := by
  simp [Code.maybe, Code.Above]

@[simp] theorem above_critical {low : Nat} {lock : Lock} :
    (Code.critical lock).Above rank low ↔ low ≤ rank lock := by
  simp [Code.critical, Code.Above]

@[simp] theorem above_inOrder {low : Nat} {codes : List (Code Lock)} :
    (Code.inOrder codes).Above rank low ↔ ∀ code ∈ codes, code.Above rank low := by
  induction codes with
  | nil => simp [Code.inOrder, Code.Above]
  | cons code codes ih =>
      cases codes with
      | nil => simp [Code.inOrder]
      | cons => simp [Code.inOrder, Code.Above, ih]

@[simp] theorem above_oneOf {low : Nat} {codes : List (Code Lock)} :
    (Code.oneOf codes).Above rank low ↔ ∀ code ∈ codes, code.Above rank low := by
  induction codes with
  | nil => simp [Code.oneOf, Code.Above]
  | cons code codes ih =>
      cases codes with
      | nil => simp [Code.oneOf]
      | cons => simp [Code.oneOf, Code.Above, ih]

/-- A thread holds locks below its floor only. -/
theorem Ordered.lt_floor {stack : List (Item Lock)} (ordered : Ordered rank stack) {lock : Lock}
    (held : lock ∈ stack.filterMap Item.held) : rank lock < floor rank stack := by
  induction stack with
  | nil => cases held
  | cons item rest ih =>
      cases item with
      | run code => exact ih ordered.2 held
      | unlock mode other =>
          rcases List.mem_cons.mp held with rfl | below
          · exact Nat.lt_succ_self _
          · exact Nat.lt_succ_of_lt (Nat.lt_of_lt_of_le (ih ordered.2 below) ordered.1)
      | finish other =>
          rcases List.mem_cons.mp held with rfl | below
          · exact Nat.lt_succ_self _
          · exact Nat.lt_succ_of_lt (Nat.lt_of_lt_of_le (ih ordered.2 below) ordered.1)

/-- A thread waits for a lock above those it holds. -/
theorem Ordered.lt_awaited {stack : List (Item Lock)} {done : Lock → Bool}
    (ordered : Ordered rank stack) {lock next : Lock} (held : lock ∈ stack.filterMap Item.held)
    (waits : awaited done stack = some next) : rank lock < rank next := by
  unfold awaited at waits
  split at waits
  · cases waits
    exact Nat.lt_of_lt_of_le (ordered.2.lt_floor held) ordered.1.1
  · split at waits
    · cases waits
    · cases waits
      exact Nat.lt_of_lt_of_le (ordered.2.lt_floor held) ordered.1.1
  · cases waits

variable [DecidableEq Lock]

theorem Ordered.advance {s : State Lock} {choice : Nat} {item : Item Lock}
    {rest stack : List (Item Lock)} {done : Lock → Bool} (ordered : Ordered rank (item :: rest))
    (advanced : s.advance choice rest item = some (stack, done)) : Ordered rank stack := by
  cases item with
  | unlock mode lock =>
      cases advanced
      exact ordered.2
  | finish lock =>
      cases advanced
      exact ordered.2
  | run code =>
      obtain ⟨above, below⟩ := ordered
      cases code with
      | skip =>
          cases advanced
          exact below
      | seq first second =>
          cases advanced
          exact ⟨above.1, above.2, below⟩
      | choice left right =>
          cases advanced
          refine ⟨?_, below⟩
          split
          · exact above.1
          · exact above.2
      | pick body =>
          cases advanced
          exact ⟨above choice, below⟩
      | loop body =>
          cases advanced
          split
          · exact below
          · exact ⟨above, above, below⟩
      | locked mode lock body =>
          simp only [State.advance] at advanced
          split at advanced
          · cases advanced
            exact ⟨above.2, above.1, below⟩
          · cases advanced
      | once lock body =>
          simp only [State.advance] at advanced
          split at advanced
          · cases advanced
            exact below
          · split at advanced
            · cases advanced
              exact ⟨above.2, above.1, below⟩
            · cases advanced

/-- Threads whose code is ordered stay in order. -/
theorem ordered_of_reachable {code : Kind → Code Lock} {s : State Lock}
    (above : ∀ kind, (code kind).Above rank 0) (reachable : (machine code).Reachable s) :
    ∀ stack ∈ s.threads, Ordered rank stack := by
  have kept : ∀ (before : State Lock) (action : Action Kind) (after : State Lock),
      (∀ stack ∈ before.threads, Ordered rank stack) →
      (machine code).step before action = some after →
      ∀ stack ∈ after.threads, Ordered rank stack := by
    intro before action after ordered stepped stack present
    cases action with
    | spawn kind =>
        cases stepped
        rcases List.mem_append.mp present with old | new
        · exact ordered stack old
        · cases List.mem_singleton.mp new
          exact ⟨above kind, trivial⟩
    | run thread choice =>
        simp only [machine, State.step] at stepped
        split at stepped
        · cases stepped
        · cases stepped
        next item rest found =>
          obtain ⟨⟨next, done⟩, advanced, rfl⟩ := Option.map_eq_some_iff.mp stepped
          rcases List.mem_or_eq_of_mem_set present with old | rfl
          · exact ordered stack old
          · exact (ordered _ (List.mem_of_getElem? found)).advance advanced
  have carried :=
    Machine.Reachable.invariant kept reachable (fun _ impossible => by cases impossible)
  exact carried

/-- Threads whose code is ordered never wait for each other in a circle. -/
theorem not_deadlocked {code : Kind → Code Lock} {s : State Lock}
    (above : ∀ kind, (code kind).Above rank 0) (reachable : (machine code).Reachable s)
    (members : Finset Nat) : ¬ s.Deadlocked members := by
  intro deadlocked
  have ordered := ordered_of_reachable above reachable
  -- A member that waits for a lock of the highest rank waits for one that waits higher.
  let height : Nat → Nat := fun thread =>
    ((s.threads[thread]?.bind (awaited s.done)).map rank).getD 0
  obtain ⟨thread, member, highest⟩ := Finset.exists_max_image members height deadlocked.nonempty
  obtain ⟨lock, ⟨stack, found, waits⟩, other, also, ⟨stack', found', held⟩⟩ :=
    deadlocked.waiting thread member
  obtain ⟨next, ⟨same, foundAgain, waits'⟩, _⟩ := deadlocked.waiting other also
  rw [found', Option.some.injEq] at foundAgain
  subst foundAgain
  have higher := (ordered _ (List.mem_of_getElem? found')).lt_awaited held waits'
  have bound := highest other also
  simp only [height, found, found', Option.bind_some, waits, waits', Option.map_some,
    Option.getD_some] at bound
  omega

end Ranked

end UnboundWasm.Lib.Locks
