/-
This file models the rings in which the support link keeps the MAVLink messages between its thread
and the camera, and proves that they are lists of a fixed capacity that drop their oldest entry. An
access outside the array has no result in the model.
-/

import CameraGimbal.RingQueue

namespace SupportMavlink

open RingQueue

/-- `QUEUE_SIZE`. -/
def queueSize : Nat := 128

instance neZeroQueueSize : NeZero queueSize := ⟨by decide⟩

/-! ### The rings -/

/-- `struct message_queue`. -/
structure MessageQueue (Message : Type) where
  messages : Fin queueSize → Message
  first : UInt32
  count : UInt32

variable {Message : Type}

def MessageQueue.advance (queue : MessageQueue Message) : MessageQueue Message :=
  { queue with first := (queue.first + 1) % UInt32.ofNat queueSize, count := queue.count - 1 }

def pop (queue : MessageQueue Message) : Option (Option Message × MessageQueue Message) :=
  if queue.count = 0 then some (none, queue)
  else if inside : queue.first.toNat < queueSize then
    some (some (queue.messages ⟨queue.first.toNat, inside⟩), queue.advance)
  else none

def push (queue : MessageQueue Message) (message : Message) : MessageQueue Message :=
  let room := if queue.count = UInt32.ofNat queueSize then queue.advance else queue
  let index := (room.first + room.count) % UInt32.ofNat queueSize
  { room with
    messages := Function.update room.messages (Fin.ofNat queueSize index.toNat) message
    count := room.count + 1 }

/-- A queue after `calloc`. -/
def MessageQueue.fresh (messages : Fin queueSize → Message) : MessageQueue Message :=
  { messages, first := 0, count := 0 }

/-- A queue, and what every pop has given. -/
structure State (Message : Type) where
  queue : MessageQueue Message
  popped : List (Option Message)

open DropOldest (Operation)

def step (state : State Message) : Operation Message → Option (State Message)
  | .push message => some { state with queue := push state.queue message }
  | .pop => (pop state.queue).map fun result =>
    { queue := result.2, popped := state.popped ++ [result.1] }

/-- The pushes and pops of both threads, in the order in which they get the lock. -/
def run (messages : Fin queueSize → Message) (operations : List (Operation Message)) :
    Option (State Message) :=
  operations.foldlM step { queue := .fresh messages, popped := [] }

/-! ### The rings are rings -/

structure MessageQueue.Within (queue : MessageQueue Message) : Prop where
  first : queue.first.toNat < queueSize
  count : queue.count.toNat ≤ queueSize

def MessageQueue.ring (queue : MessageQueue Message) : RingQueue Message queueSize where
  slots := queue.messages
  head := Fin.ofNat queueSize queue.first.toNat
  count := queue.count.toNat

def MessageQueue.contents (queue : MessageQueue Message) : List Message := queue.ring.contents

variable {queue : MessageQueue Message}

theorem toNat_index {first step : UInt32} (firstLt : first.toNat < queueSize)
    (stepLe : step.toNat ≤ queueSize) :
    ((first + step) % UInt32.ofNat queueSize).toNat = (first.toNat + step.toNat) % queueSize := by
  have isSize : queueSize = 128 := rfl
  have noWrap : (first + step).toNat = first.toNat + step.toNat := by
    rw [UInt32.toNat_add]
    exact Nat.mod_eq_of_lt (by omega)
  rw [UInt32.toNat_mod, noWrap]
  rfl

theorem count_eq_zero : queue.count = 0 ↔ queue.ring.count = 0 := UInt32.toNat_inj.symm

theorem count_eq_size : queue.count = UInt32.ofNat queueSize ↔ queue.ring.count = queueSize :=
  UInt32.toNat_inj.symm

theorem advance_spec (within : queue.Within) (some : queue.ring.count ≠ 0) :
    queue.advance.Within ∧ queue.advance.ring = queue.ring.dequeue.2 := by
  have next := @toNat_index queue.first 1 within.first (by decide)
  have fewer : (queue.count - 1).toNat = queue.count.toNat - 1 := by
    rw [UInt32.toNat_sub_of_le]
    · rfl
    · exact UInt32.le_iff_toNat_le.mpr (Nat.pos_of_ne_zero some)
  have count := within.count
  refine ⟨⟨?_, ?_⟩, ?_⟩
  · exact next.trans_lt (Nat.mod_lt _ (by decide))
  · exact fewer.trans_le (by omega)
  · have isHead : (Fin.ofNat queueSize queue.first.toNat : Nat) = queue.first.toNat :=
      Nat.mod_eq_of_lt within.first
    rw [dequeue, if_neg some]
    unfold MessageQueue.ring MessageQueue.advance index
    rw [fewer, next, isHead]
    congr 1
    exact Fin.ext (Nat.mod_mod _ _)

theorem pop_spec (within : queue.Within) :
    ∃ after, pop queue = some (queue.contents.head?, after) ∧ after.Within ∧
      after.contents = queue.contents.tail := by
  have ⟨head, tail⟩ := queue.ring.dequeue_contents
  unfold pop
  by_cases empty : queue.count = 0
  · have none : queue.contents = [] := contents_of_count (count_eq_zero.mp empty)
    rw [if_pos empty, none]
    exact ⟨queue, rfl, within, none⟩
  · have some := mt count_eq_zero.mpr empty
    have ⟨withinAfter, isRing⟩ := advance_spec within some
    rw [if_neg empty, dif_pos within.first]
    refine ⟨queue.advance, ?_, withinAfter, (congrArg contents isRing).trans tail⟩
    have isHead : queue.ring.head = ⟨queue.first.toNat, within.first⟩ :=
      Fin.ext (Nat.mod_eq_of_lt within.first)
    rw [dequeue, if_neg some, isHead] at head
    rw [MessageQueue.contents, ← head]
    rfl

theorem add_spec (within : queue.Within) (room : queue.ring.count < queueSize) (message : Message) :
    let index := (queue.first + queue.count) % UInt32.ofNat queueSize
    let after := { queue with
      messages := Function.update queue.messages (Fin.ofNat queueSize index.toNat) message
      count := queue.count + 1 }
    after.Within ∧ after.ring = queue.ring.enqueue message := by
  have isSize : queueSize = 128 := rfl
  have more : (queue.count + 1).toNat = queue.count.toNat + 1 := by
    have below : queue.count.toNat < queueSize := room
    rw [UInt32.toNat_add]
    exact Nat.mod_eq_of_lt (by rw [UInt32.toNat_one]; omega)
  refine ⟨⟨within.first, more.trans_le room⟩, ?_⟩
  have place : Fin.ofNat queueSize ((queue.first + queue.count) % UInt32.ofNat queueSize).toNat =
      queue.ring.index queue.ring.count := by
    have isHead : (queue.ring.head : Nat) = queue.first.toNat := Nat.mod_eq_of_lt within.first
    unfold index
    rw [toNat_index within.first within.count, isHead]
    exact Fin.ext (Nat.mod_mod _ _)
  unfold enqueue
  rw [← place]
  unfold MessageQueue.ring
  rw [more]

theorem push_spec (within : queue.Within) (message : Message) :
    (push queue message).Within ∧
      (push queue message).contents = DropOldest.push queueSize queue.contents message := by
  have length : queue.contents.length = queue.ring.count := length_contents _
  unfold push DropOldest.push
  rw [length]
  by_cases full : queue.count = UInt32.ofNat queueSize
  · have isFull := count_eq_size.mp full
    have ⟨withinAfter, isRing⟩ := advance_spec within (by rw [isFull]; decide)
    have room : queue.advance.ring.count < queueSize := by
      rw [isRing, dequeue_count, isFull]
      decide
    have ⟨withinAdded, isAdded⟩ := add_spec withinAfter room message
    have tail : queue.advance.ring.contents = queue.contents.tail :=
      (congrArg contents isRing).trans queue.ring.dequeue_contents.2
    rw [if_pos full, if_pos isFull, ← tail]
    exact ⟨withinAdded, (congrArg contents isAdded).trans (contents_enqueue _ _ room)⟩
  · have notFull := mt count_eq_size.mpr full
    have room : queue.ring.count < queueSize := lt_of_le_of_ne within.count notFull
    have ⟨withinAdded, isAdded⟩ := add_spec within room message
    rw [if_neg full, if_neg notFull]
    exact ⟨withinAdded, (congrArg contents isAdded).trans (contents_enqueue _ _ room)⟩

/-! ### Runs -/

/-- A queue that does what the list does. -/
structure State.Refines (state : State Message) (list : DropOldest.State Message) : Prop where
  within : state.queue.Within
  waiting : state.queue.contents = list.waiting
  popped : state.popped = list.popped

theorem step_refines {state : State Message} {list : DropOldest.State Message}
    (refines : state.Refines list) (operation : Operation Message) :
    ∃ after, step state operation = some after ∧
      after.Refines (DropOldest.step queueSize list operation) := by
  cases operation with
  | push message =>
    have ⟨within, contents⟩ := push_spec refines.within message
    rw [refines.waiting] at contents
    exact ⟨_, rfl, within, contents, refines.popped⟩
  | pop =>
    obtain ⟨queue, isPop, within, contents⟩ := pop_spec refines.within
    rw [refines.waiting] at isPop contents
    have isStep : step state .pop =
        some { queue := queue, popped := state.popped ++ [list.waiting.head?] } := by
      rw [step, isPop]
      rfl
    exact ⟨_, isStep, within, contents, congrArg (· ++ _) refines.popped⟩

/-- For every order of pushes and pops the ring does what the list of the same capacity does: no
access is outside the array, every pop gives what the list gives, and the messages come out in the
order of the pushes, each at most once. -/
theorem messageQueue_refines (messages : Fin queueSize → Message)
    (operations : List (Operation Message)) :
    ∃ state, run messages operations = some state ∧
      state.queue.first.toNat < queueSize ∧ state.queue.count.toNat ≤ queueSize ∧
      state.popped = (DropOldest.run queueSize operations).popped ∧
      state.queue.contents = (DropOldest.run queueSize operations).waiting ∧
      (state.popped.reduceOption ++ state.queue.contents).Sublist
        (DropOldest.pushed operations) := by
  have reached : ∃ state, run messages operations = some state ∧
      state.Refines (DropOldest.run queueSize operations) := by
    induction operations using List.reverseRecOn with
    | nil =>
      refine ⟨_, rfl, ⟨Nat.zero_lt_succ _, Nat.zero_le _⟩, ?_, rfl⟩
      exact RingQueue.contents_of_count rfl
    | append_singleton operations operation hypothesis =>
      obtain ⟨state, isRun, refines⟩ := hypothesis
      obtain ⟨after, isStep, refinesAfter⟩ := step_refines refines operation
      refine ⟨after, ?_, ?_⟩
      · unfold run at isRun ⊢
        rw [List.foldlM_append, isRun]
        exact (congrArg (· >>= pure) isStep)
      · unfold DropOldest.run at refinesAfter ⊢
        rwa [List.foldl_append, List.foldl_cons, List.foldl_nil]
  obtain ⟨state, isRun, refines⟩ := reached
  have inOrder := (DropOldest.run_in_order queueSize operations).2
  rw [← refines.popped, ← refines.waiting] at inOrder
  exact ⟨state, isRun, refines.within.first, refines.within.count, refines.popped,
    refines.waiting, inOrder⟩

end SupportMavlink
