/-
This file is a library on a fixed number of slots for the sessions of many clients. A session is
found by its key; a client that opens one again has its own back, otherwise it takes the first
slot that is free. No two active sessions ever have the same key, and what is done for one key
leaves the slots of the others as they are.
-/

import Mathlib.Data.List.FinRange

namespace SessionSlots

open List Function

/-- A session with its key and the time of its last use. -/
structure Slot (Key Time : Type) where
  key : Key
  active : Bool
  lastUse : Time
  deriving DecidableEq

/-- A number of slots. -/
abbrev Table (size : Nat) (Key Time : Type) := Fin size → Slot Key Time

variable {size : Nat} {Key Time : Type} [DecidableEq Key]

/-- The slot is the active session of a key. -/
def Slot.holds (slot : Slot Key Time) (key : Key) : Bool :=
  slot.active && decide (slot.key = key)

/-- End the sessions that a condition on their slots names. -/
def endWhere (table : Table size Key Time) (ends : Slot Key Time → Bool) :
    Table size Key Time :=
  fun slot => if ends (table slot) then { table slot with active := false } else table slot

/-- The last slot that holds a key. -/
def lookup (table : Table size Key Time) (key : Key) : Option (Fin size) :=
  (List.finRange size).reverse.find? fun slot => (table slot).holds key

/-- The slot a key is opened in: the first that holds it, otherwise the first free one. -/
def place (table : Table size Key Time) (key : Key) : Option (Fin size) :=
  match (List.finRange size).find? fun slot => (table slot).holds key with
  | some own => some own
  | none => (List.finRange size).find? fun slot => !(table slot).active

/-- No two active sessions have the same key. -/
def Distinct (table : Table size Key Time) : Prop :=
  ∀ first second key, (table first).holds key = true → (table second).holds key = true →
    first = second

variable {key : Key}

theorem holds_iff {slot : Slot Key Time} :
    slot.holds key = true ↔ slot.active = true ∧ slot.key = key := by
  simp [Slot.holds]

variable {table : Table size Key Time} {slot : Fin size}

omit [DecidableEq Key] in
theorem endWhere_of_not {ends : Slot Key Time → Bool} (keeps : ends (table slot) = false) :
    endWhere table ends slot = table slot := by
  unfold endWhere
  rw [keeps, if_neg Bool.false_ne_true]

/-! ### Finding a session -/

theorem lookup_holds (found : lookup table key = some slot) : (table slot).holds key = true := by
  unfold lookup at found
  have isFound := find?_some found
  exact isFound

theorem Distinct.lookup (distinct : Distinct table) (holds : (table slot).holds key = true) :
    lookup table key = some slot := by
  cases found : SessionSlots.lookup table key with
  | some other => rw [distinct other slot key (lookup_holds found) holds]
  | none =>
    have absent := find?_eq_none.mp found slot (mem_reverse.mpr (mem_finRange slot))
    exact absurd holds absent

theorem Distinct.place (distinct : Distinct table) (holds : (table slot).holds key = true) :
    place table key = some slot := by
  unfold SessionSlots.place
  cases found : (finRange size).find? fun slot => (table slot).holds key with
  | some other =>
    have holdsOther : (table other).holds key = true := by
      have isFound := find?_some found
      exact isFound
    rw [distinct other slot key holdsOther holds]
  | none =>
    have absent := find?_eq_none.mp found slot (mem_finRange slot)
    exact absurd holds absent

/-- A key is opened in its own slot, or in one that is free while no slot holds it. -/
theorem place_cases (placed : place table key = some slot) :
    (table slot).holds key = true ∨
      (table slot).active = false ∧ ∀ other, (table other).holds key = false := by
  unfold place at placed
  split at placed
  · next own found =>
    cases placed
    have isFound := find?_some found
    exact .inl isFound
  · next absent =>
    refine .inr ⟨?_, fun other => ?_⟩
    · have isFree := find?_some placed
      simpa using isFree
    · have missing := find?_eq_none.mp absent other (mem_finRange other)
      simpa using missing

/-! ### What keeps the keys apart -/

theorem Distinct.endWhere (distinct : Distinct table) (ends : Slot Key Time → Bool) :
    Distinct (endWhere table ends) := by
  have before : ∀ slot key, (SessionSlots.endWhere table ends slot).holds key = true →
      (table slot).holds key = true := by
    intro slot key holds
    unfold SessionSlots.endWhere at holds
    split at holds
    · cases holds
    · exact holds
  intro first second key holdsFirst holdsSecond
  exact distinct first second key (before first key holdsFirst) (before second key holdsSecond)

/-- A slot that is changed for its own key, or taken for a key that no other slot holds. -/
theorem Distinct.update (distinct : Distinct table) (slot : Fin size) (session : Slot Key Time)
    (own : session.active = true → (table slot).holds session.key = true ∨
      ∀ other, (table other).holds session.key = false) :
    Distinct (update table slot session) := by
  have apart : ∀ other key, other ≠ slot → (table other).holds key = true →
      session.holds key = true → False := by
    intro other key differs holdsOther holdsSession
    obtain ⟨active, same⟩ := holds_iff.mp holdsSession
    subst same
    rcases own active with isOwn | noOther
    · exact differs (distinct other slot _ holdsOther isOwn)
    · rw [noOther other] at holdsOther
      cases holdsOther
  intro first second key holdsFirst holdsSecond
  by_cases isFirst : first = slot
  · by_cases isSecond : second = slot
    · rw [isFirst, isSecond]
    · rw [isFirst, update_self] at holdsFirst
      rw [update_of_ne isSecond] at holdsSecond
      exact (apart second key isSecond holdsSecond holdsFirst).elim
  · rw [update_of_ne isFirst] at holdsFirst
    by_cases isSecond : second = slot
    · rw [isSecond, update_self] at holdsSecond
      exact (apart first key isFirst holdsFirst holdsSecond).elim
    · rw [update_of_ne isSecond] at holdsSecond
      exact distinct first second key holdsFirst holdsSecond

/-- Opening a key keeps the keys apart. -/
theorem Distinct.opened (distinct : Distinct table)
    (placed : SessionSlots.place table key = some slot) (now : Time) :
    Distinct (Function.update table slot { key, active := true, lastUse := now }) :=
  distinct.update slot _ fun _ => (place_cases placed).imp_right And.right

/-- Opening a key changes only its own slot or one that is free. -/
theorem opened_other {other : Fin size} (placed : place table key = some slot)
    (session : Slot Key Time) (active : (table other).active = true)
    (foreign : (table other).key ≠ key) :
    update table slot session other = table other := by
  refine update_of_ne ?_ _ _
  rintro rfl
  rcases place_cases placed with own | ⟨free, -⟩
  · exact foreign (holds_iff.mp own).2
  · rw [active] at free
    cases free

end SessionSlots
