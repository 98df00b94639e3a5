import Mathlib.Data.Finset.Card
import Mathlib.Data.Finset.Range
import Mathlib.Data.Finset.Filter

/-!
# Object heaps

Objects that are shared by reference and never move.  A reference is the
position at which the object was allocated; nothing is ever removed, so a
reference held by one thread stays meaningful whatever the others do.  `get` is
total, which keeps lookups out of the proofs; what lies beyond `size` has not
been allocated.
-/

namespace UnboundWasm.Lib

universe u

/-- Objects addressed by the order of their allocation. -/
structure Heap (α : Type u) where
  size : Nat
  get : Nat → α

namespace Heap

variable {α : Type u}

/-- The heap before any allocation. -/
def empty (unallocated : α) : Heap α := ⟨0, fun _ => unallocated⟩

/-- Allocate an object; its reference is the old size. -/
def alloc (heap : Heap α) (value : α) : Heap α where
  size := heap.size + 1
  get ref := if ref = heap.size then value else heap.get ref

/-- Replace the object behind a reference. -/
def set (heap : Heap α) (ref : Nat) (value : α) : Heap α where
  size := heap.size
  get other := if other = ref then value else heap.get other

/-- Update the object behind a reference. -/
def modify (heap : Heap α) (ref : Nat) (update : α → α) : Heap α :=
  heap.set ref (update (heap.get ref))

variable (heap : Heap α) (ref other : Nat) (value : α) (update : α → α)

@[simp] theorem size_empty : (empty value).size = 0 := rfl

@[simp, grind =] theorem size_alloc : (heap.alloc value).size = heap.size + 1 := rfl

@[simp, grind =] theorem size_modify : (heap.modify ref update).size = heap.size := rfl

/-- An allocated reference is the new one or an old one. -/
@[grind →]
theorem eq_or_lt_of_alloc {heap : Heap α} {value : α} {ref : Nat}
    (allocated : ref < (heap.alloc value).size) : ref = heap.size ∨ ref < heap.size := by
  rw [size_alloc] at allocated
  omega

@[grind =]
theorem get_alloc :
    (heap.alloc value).get other =
      if other = heap.size then value else heap.get other := rfl

@[simp] theorem get_alloc_size : (heap.alloc value).get heap.size = value := by
  simp [get_alloc]

/-- Allocation leaves allocated objects alone. -/
theorem get_alloc_of_lt (allocated : other < heap.size) :
    (heap.alloc value).get other = heap.get other := by
  simp [get_alloc, Nat.ne_of_lt allocated]

@[grind =]
theorem get_modify :
    (heap.modify ref update).get other =
      if other = ref then update (heap.get ref) else heap.get other := rfl

@[simp] theorem get_modify_self :
    (heap.modify ref update).get ref = update (heap.get ref) := by
  simp [get_modify]

/-- A projection that the update does not touch reads the same everywhere. -/
theorem get_modify_frame {β : Type*} (project : α → β)
    (untouched : ∀ value, project (update value) = project value) :
    project ((heap.modify ref update).get other) = project (heap.get other) := by
  rw [get_modify]
  split
  next equal => rw [untouched, equal]
  next => rfl

/-- An update that does not change its object does not change the heap. -/
theorem modify_eq_self (same : update (heap.get ref) = heap.get ref) :
    heap.modify ref update = heap := by
  obtain ⟨size, get⟩ := heap
  simp only [modify, set, mk.injEq, true_and]
  funext other
  split
  next equal => rw [equal, same]
  next => rfl

/-- View every object through a projection. -/
def map {β : Type*} (project : α → β) : Heap β := ⟨heap.size, fun ref => project (heap.get ref)⟩

section Map

variable {β : Type*} (project : α → β)

@[simp] theorem size_map : (heap.map project).size = heap.size := rfl

@[simp] theorem get_map : (heap.map project).get ref = project (heap.get ref) := rfl

theorem map_alloc :
    (heap.alloc value).map project = (heap.map project).alloc (project value) := by
  simp only [map, alloc, mk.injEq, true_and]
  funext other
  exact apply_ite project _ _ _

/-- An update seen through a projection. -/
theorem map_modify {viewed : β → β}
    (views : ∀ value, project (update value) = viewed (project value)) :
    (heap.modify ref update).map project = (heap.map project).modify ref viewed := by
  simp only [map, modify, set, mk.injEq, true_and]
  funext other
  rw [apply_ite project, views]

/-- An update the projection does not see. -/
theorem map_modify_frame
    (untouched : project (update (heap.get ref)) = project (heap.get ref)) :
    (heap.modify ref update).map project = heap.map project := by
  simp only [map, modify, set, mk.injEq, true_and]
  funext other
  split
  next equal => rw [untouched, equal]
  next => rfl

end Map

/-- Some allocated object satisfies a predicate. -/
def Any (holds : α → Prop) : Prop := ∃ ref < heap.size, holds (heap.get ref)

section Any

variable {heap ref update} {holds : α → Prop}

theorem any_alloc {value : α} : (heap.alloc value).Any holds ↔ holds value ∨ heap.Any holds := by
  constructor
  · rintro ⟨other, allocated, found⟩
    rw [get_alloc] at found
    split at found
    next => exact .inl found
    next old =>
      rw [size_alloc] at allocated
      exact .inr ⟨other, by omega, found⟩
  · rintro (found | ⟨other, allocated, found⟩)
    · exact ⟨heap.size, by simp, by simpa using found⟩
    · refine ⟨other, Nat.lt_succ_of_lt allocated, ?_⟩
      rwa [get_alloc_of_lt _ _ _ allocated]

/-- Updating an object that did not count. -/
theorem any_modify (allocated : ref < heap.size) (unmet : ¬ holds (heap.get ref)) :
    (heap.modify ref update).Any holds ↔ holds (update (heap.get ref)) ∨ heap.Any holds := by
  constructor
  · rintro ⟨other, bound, found⟩
    rw [get_modify] at found
    split at found
    next => exact .inl found
    next => exact .inr ⟨other, bound, found⟩
  · rintro (found | ⟨other, bound, found⟩)
    · exact ⟨ref, allocated, by simpa using found⟩
    · refine ⟨other, bound, ?_⟩
      rw [get_modify, if_neg]
      · exact found
      · rintro rfl
        exact unmet found

end Any

/-- Allocated references whose object satisfies a predicate. -/
def refs (accept : Nat → α → Bool) : Finset Nat :=
  (Finset.range heap.size).filter fun ref => accept ref (heap.get ref)

@[simp] theorem mem_refs (accept : Nat → α → Bool) :
    ref ∈ heap.refs accept ↔ ref < heap.size ∧ accept ref (heap.get ref) = true := by
  simp [refs]

end Heap

end UnboundWasm.Lib
