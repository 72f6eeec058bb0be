/-
This file is a library on a ring: an array of a fixed size in which the entries that wait
lie one behind the other from a head on, around the end of the array.

As long as the ring is not full, what is added comes behind everything that waits and
overwrites none of it. A full ring can also drop its oldest entry first: it is then a list of a
fixed capacity from which the entries come out in the order in which they were added, each at most
once.
-/

import Mathlib.Data.List.Range
import Mathlib.Data.List.ReduceOption
import Mathlib.Data.Nat.ModEq

/-- An array of a fixed size, where the waiting entries begin, and how many there are. -/
structure RingQueue (α : Type) (size : Nat) where
  slots : Fin size → α
  head : Fin size
  count : Nat

namespace RingQueue

open List

variable {α : Type} {size : Nat} [NeZero size]

/-- The slot that lies some places behind the head. -/
def index (ring : RingQueue α size) (place : Nat) : Fin size := Fin.ofNat size (ring.head + place)

/-- The waiting entries, the oldest first. -/
def contents (ring : RingQueue α size) : List α :=
  (List.range ring.count).map fun place => ring.slots (ring.index place)

/-- Add an entry behind the others, whether or not there is room. -/
def enqueue (ring : RingQueue α size) (entry : α) : RingQueue α size :=
  { ring with
    slots := Function.update ring.slots (ring.index ring.count) entry
    count := ring.count + 1 }

/-- The oldest entry, and the ring without it; nothing on an empty ring. -/
def dequeue (ring : RingQueue α size) : Option α × RingQueue α size :=
  if ring.count = 0 then (none, ring)
  else (some (ring.slots ring.head), { ring with head := ring.index 1, count := ring.count - 1 })

/-- Drop everything that waits. -/
def clear (ring : RingQueue α size) : RingQueue α size := { ring with count := 0 }

@[simp] theorem length_contents (ring : RingQueue α size) : ring.contents.length = ring.count := by
  simp [contents]

variable {ring : RingQueue α size}

theorem contents_of_count (empty : ring.count = 0) : ring.contents = [] := by
  simp [contents, empty]

section

variable (ring : RingQueue α size)

@[simp] theorem contents_clear : ring.clear.contents = [] := contents_of_count rfl

/-- Two places less than one turn apart are different slots. -/
theorem index_ne {place other : Nat} (before : place < other)
    (within : other < size) : ring.index place ≠ ring.index other := by
  intro same
  have values : (ring.head + place) % size = (ring.head + other) % size := by
    simpa [index, Fin.ext_iff] using same
  have places : place % size = other % size := Nat.ModEq.add_left_cancel' _ values
  rw [Nat.mod_eq_of_lt (before.trans within), Nat.mod_eq_of_lt within] at places
  omega

/-- With room in the ring, an entry that is added overwrites no entry that waits. -/
theorem enqueue_slots (entry : α) (room : ring.count < size) {place : Nat}
    (waiting : place < ring.count) :
    (ring.enqueue entry).slots (ring.index place) = ring.slots (ring.index place) :=
  Function.update_of_ne (ring.index_ne waiting room) _ _

/-- With room in the ring, an entry that is added comes behind everything that waits. -/
theorem contents_enqueue (entry : α) (room : ring.count < size) :
    (ring.enqueue entry).contents = ring.contents ++ [entry] := by
  have old : ∀ place ∈ range ring.count,
      (ring.enqueue entry).slots (ring.index place) = ring.slots (ring.index place) :=
    fun place member => ring.enqueue_slots entry room (mem_range.mp member)
  have new : (ring.enqueue entry).slots (ring.index ring.count) = entry :=
    Function.update_self _ _ _
  show (range (ring.count + 1)).map (fun place => (ring.enqueue entry).slots (ring.index place)) = _
  rw [range_succ, map_append, map_congr_left old, map_singleton, new]
  rfl

end

theorem dequeue_of_count (empty : ring.count = 0) : ring.dequeue = (none, ring) := if_pos empty

/-- What is dequeued was the first of what waited, and the others stay in their order. -/
theorem contents_dequeue (ring : RingQueue α size) :
    ring.dequeue.1.toList ++ ring.dequeue.2.contents = ring.contents := by
  by_cases empty : ring.count = 0
  · rw [dequeue_of_count empty]
    rfl
  · obtain ⟨rest, count⟩ : ∃ rest, ring.count = rest + 1 := ⟨ring.count - 1, by omega⟩
    have headIndex : ring.index 0 = ring.head := by
      simp [index]
    have later : ∀ place, RingQueue.index { ring with head := ring.index 1, count := rest } place =
        ring.index (place + 1) := by
      intro place
      simp [index, Fin.ext_iff, add_assoc, add_comm 1 place]
    have dequeued : ring.dequeue = (some (ring.slots ring.head),
        { ring with head := ring.index 1, count := rest }) := by
      rw [dequeue, if_neg empty, count]
      rfl
    rw [dequeued]
    simp only [contents, count, later, range_succ_eq_map, map_cons, map_map,
      headIndex, Option.toList_some, singleton_append]
    rfl

theorem dequeue_count (ring : RingQueue α size) : ring.dequeue.2.count = ring.count - 1 := by
  unfold dequeue
  split
  · rename_i empty
    simp [empty]
  · rfl

theorem dequeue_eq_none (nothing : ring.dequeue.1 = none) : ring.count = 0 := by
  unfold dequeue at nothing
  split at nothing
  · assumption
  · cases nothing

/-- A dequeue takes the first of what waits, if anything does. -/
theorem dequeue_contents (ring : RingQueue α size) :
    ring.dequeue.1 = ring.contents.head? ∧ ring.dequeue.2.contents = ring.contents.tail := by
  have split := contents_dequeue ring
  cases first : ring.dequeue.1 with
  | none =>
    have empty := dequeue_eq_none first
    rw [dequeue_of_count empty, contents_of_count empty]
    exact ⟨rfl, rfl⟩
  | some entry =>
    rw [first] at split
    rw [← split]
    exact ⟨rfl, rfl⟩

end RingQueue

/-! ### A list of a fixed capacity -/

namespace DropOldest

inductive Operation (α : Type) where
  | push (entry : α)
  | pop

/-- The entries that wait, and what every pop has given: nothing when no entry waited. -/
structure State (α : Type) where
  waiting : List α
  popped : List (Option α)

variable {α : Type} (capacity : Nat)

def push (waiting : List α) (entry : α) : List α :=
  (if waiting.length = capacity then waiting.tail else waiting) ++ [entry]

def step (state : State α) : Operation α → State α
  | .push entry => { state with waiting := push capacity state.waiting entry }
  | .pop =>
    { waiting := state.waiting.tail, popped := state.popped ++ [state.waiting.head?] }

def run (operations : List (Operation α)) : State α :=
  operations.foldl (step capacity) { waiting := [], popped := [] }

def Operation.entry? : Operation α → Option α
  | .push entry => some entry
  | .pop => none

/-- The entries that are pushed. -/
def pushed (operations : List (Operation α)) : List α := operations.filterMap Operation.entry?

/-- Dropping the oldest entry leaves a part of what waits. -/
theorem dropped_suffix (waiting : List α) :
    (if waiting.length = capacity then waiting.tail else waiting) <:+ waiting := by
  split
  · exact List.tail_suffix waiting
  · exact List.suffix_rfl

/-- What waits was pushed last, and what came out before it was pushed before it: every entry comes
out at most once, in the order of the pushes. -/
theorem run_in_order (operations : List (Operation α)) :
    (run capacity operations).waiting <:+ pushed operations ∧
      ((run capacity operations).popped.reduceOption ++ (run capacity operations).waiting).Sublist
        (pushed operations) := by
  induction operations using List.reverseRecOn with
  | nil => exact ⟨List.suffix_rfl, .slnil⟩
  | append_singleton operations operation hypothesis =>
    have ⟨last, inOrder⟩ := hypothesis
    have isRun : run capacity (operations ++ [operation]) =
        step capacity (run capacity operations) operation := by
      unfold run
      rw [List.foldl_append, List.foldl_cons, List.foldl_nil]
    have isPushed : pushed (operations ++ [operation]) =
        pushed operations ++ operation.entry?.toList := by
      unfold pushed
      rw [List.filterMap_append]
      cases operation <;> rfl
    rw [isRun, isPushed]
    generalize run capacity operations = state at last inOrder
    cases operation with
    | push entry =>
      have dropped := dropped_suffix capacity state.waiting
      refine ⟨(List.suffix_append_inj_of_length_eq rfl).mpr ⟨dropped.trans last, rfl⟩, ?_⟩
      show (state.popped.reduceOption ++ (_ ++ [entry])).Sublist (pushed operations ++ [entry])
      rw [← List.append_assoc]
      exact ((dropped.sublist.append_left _).trans inOrder).append_right _
    | pop =>
      refine ⟨((List.tail_suffix _).trans last).trans ?_, ?_⟩
      · exact (List.append_nil _).symm ▸ List.suffix_rfl
      · show ((state.popped ++ [state.waiting.head?]).reduceOption ++ state.waiting.tail).Sublist
          (pushed operations ++ [])
        rw [List.append_nil, List.reduceOption_append]
        cases isWaiting : state.waiting with
        | nil =>
          rw [isWaiting] at inOrder
          exact (List.append_nil _).symm ▸ inOrder
        | cons first rest =>
          rw [isWaiting] at inOrder
          rw [List.append_assoc]
          exact inOrder

end DropOldest
