/-
This file is a library on a bounded table of requests that wait for an answer.

Every entry carries the order in which it was added and a deadline. An answer is
matched with the oldest entry of its key that has not expired and that the
caller can still reach; a new entry goes to a free place, or to the oldest one
when the table is full. The table carries the fact that no two of its entries
have the same order, so the oldest one is unique.
-/

import Mathlib.Data.List.FinRange

namespace PendingTable

open List
open Function (update update_of_ne update_self)

/-! ### Searching for the oldest -/

variable {Index : Type}

/-- Keep `index` when it is a candidate older than the one selected so far. -/
def improves (candidate : Index → Bool) (order : Index → Nat) (index : Index) :
    Option Index → Bool
  | none => candidate index
  | some selected => candidate index && decide (order index < order selected)

/-- Go through the indices and select the oldest candidate. -/
def oldest (candidate : Index → Bool) (order : Index → Nat) :
    List Index → Option Index → Option Index
  | [], selected => selected
  | index :: rest, selected =>
    if improves candidate order index selected then oldest candidate order rest (some index)
    else oldest candidate order rest selected

/-- Go through the indices and select the first free one, or the oldest one when none is
free. -/
def freeOrOldest (free : Index → Bool) (order : Index → Nat) :
    List Index → Option Index → Option Index
  | [], selected => selected
  | index :: rest, selected =>
    if free index then some index
    else if improves (fun _ => true) order index selected then
      freeOrOldest free order rest (some index)
    else freeOrOldest free order rest selected

variable {candidate : Index → Bool} {order : Index → Nat}

variable {indices : List Index} {selected : Option Index}

theorem oldest_eq_none (found : oldest candidate order indices selected = none) :
    selected = none ∧ ∀ index ∈ indices, candidate index = false := by
  induction indices generalizing selected with
  | nil => exact ⟨found, nofun⟩
  | cons head rest hypothesis =>
    unfold oldest at found
    split at found
    · exact absurd (hypothesis found).1 (by simp)
    · next worse =>
      obtain ⟨rfl, others⟩ := hypothesis found
      exact ⟨rfl, forall_mem_cons.mpr ⟨by simpa [improves] using worse, others⟩⟩

/-- The selected index is a candidate, and no candidate is older. -/
theorem oldest_eq_some {result : Index}
    (start : ∀ index, selected = some index → candidate index = true)
    (found : oldest candidate order indices selected = some result) :
    candidate result = true ∧
      (∀ index, selected = some index → order result ≤ order index) ∧
      ∀ index ∈ indices, candidate index = true → order result ≤ order index := by
  induction indices generalizing selected with
  | nil =>
    change selected = some result at found
    refine ⟨start result found, fun index same => ?_, fun _ member => absurd member (by simp)⟩
    rw [Option.some.inj (found.symm.trans same)]
  | cons head rest hypothesis =>
    unfold oldest at found
    split at found
    · next better =>
      have chosen : candidate head = true := by
        cases selected <;> simp_all [improves]
      obtain ⟨fits, least, others⟩ := hypothesis
        (fun index same => by rw [← Option.some.inj same]; exact chosen) found
      have first : order result ≤ order head := least head rfl
      refine ⟨fits, fun index same => ?_, forall_mem_cons.mpr ⟨fun _ => first, others⟩⟩
      have older : order head < order index := by
        subst same
        simp only [improves, Bool.and_eq_true, decide_eq_true_eq] at better
        exact better.2
      omega
    · next worse =>
      obtain ⟨fits, least, others⟩ := hypothesis start found
      refine ⟨fits, least, forall_mem_cons.mpr ⟨fun possible => ?_, others⟩⟩
      cases selected with
      | none => exact absurd possible worse
      | some selected =>
        have before := least selected rfl
        simp only [improves, possible, Bool.true_and, decide_eq_true_eq] at worse
        omega

/-- When an index is free, a free one is selected. -/
theorem freeOrOldest_free (free : Index → Bool) (order : Index → Nat) (selected : Option Index)
    {index : Index} (member : index ∈ indices) (isFree : free index = true) :
    ∃ result, freeOrOldest free order indices selected = some result ∧ free result = true := by
  induction indices generalizing selected with
  | nil => cases member
  | cons head rest hypothesis =>
    unfold freeOrOldest
    by_cases first : free head = true
    · exact ⟨head, by rw [if_pos first], first⟩
    · have inRest : index ∈ rest := by
        rcases mem_cons.mp member with rfl | inRest
        · exact absurd isFree first
        · exact inRest
      rw [if_neg first]
      split <;> exact hypothesis _ inRest

/-- When no index is free, the oldest one is selected. -/
theorem freeOrOldest_full {free : Index → Bool} (full : ∀ index ∈ indices, free index = false) :
    freeOrOldest free order indices selected = oldest (fun _ => true) order indices selected := by
  induction indices generalizing selected with
  | nil => rfl
  | cons head rest hypothesis =>
    obtain ⟨first, others⟩ := forall_mem_cons.mp full
    unfold freeOrOldest oldest
    rw [if_neg (by simp [first])]
    split <;> exact hypothesis others

/-! ### The table -/

/-- A request that waits for an answer, or a place that is free. -/
structure Entry (Key Route : Type) where
  used : Bool
  key : Key
  route : Route
  order : Nat
  deadline : Nat
  deriving DecidableEq

/-- A table of `size` places and the order of the newest entry it has ever held. -/
structure Table (Key Route : Type) (size : Nat) where
  entries : Fin size → Entry Key Route
  newest : Nat
  dated : ∀ index, (entries index).used = true → (entries index).order ≤ newest
  distinct : ∀ first second, (entries first).used = true → (entries second).used = true →
    (entries first).order = (entries second).order → first = second

variable {Key Route : Type} {size : Nat}

namespace Table

/-- A table with nothing in it. -/
def empty (blank : Entry Key Route) : Table Key Route size where
  entries := fun _ => { blank with used := false }
  newest := 0
  dated := fun _ used => absurd used (by simp)
  distinct := fun _ _ used => absurd used (by simp)

/-- Free the entries whose deadline has come. -/
def purge (table : Table Key Route size) (now : Nat) : Table Key Route size where
  entries := fun index =>
    let entry := table.entries index
    { entry with used := entry.used && decide (now < entry.deadline) }
  newest := table.newest
  dated := fun index used => table.dated index (Bool.and_eq_true_iff.mp used).1
  distinct := fun first second usedFirst usedSecond same =>
    table.distinct first second (Bool.and_eq_true_iff.mp usedFirst).1
      (Bool.and_eq_true_iff.mp usedSecond).1 same

/-- Free one place. -/
def release (table : Table Key Route size) (index : Fin size) : Table Key Route size where
  entries := update table.entries index { table.entries index with used := false }
  newest := table.newest
  dated := by
    intro other used
    by_cases same : other = index
    · subst same
      simp at used
    · rw [update_of_ne same] at used ⊢
      exact table.dated other used
  distinct := by
    intro first second usedFirst usedSecond
    by_cases sameFirst : first = index
    · subst sameFirst
      simp at usedFirst
    by_cases sameSecond : second = index
    · subst sameSecond
      simp at usedSecond
    rw [update_of_ne sameFirst] at usedFirst ⊢
    rw [update_of_ne sameSecond] at usedSecond ⊢
    exact table.distinct first second usedFirst usedSecond

/-- Put a new entry into a place, dated after all others. -/
def replace (table : Table Key Route size) (index : Fin size) (key : Key) (route : Route)
    (deadline : Nat) : Table Key Route size where
  entries := update table.entries index
    { used := true, key, route, order := table.newest + 1, deadline }
  newest := table.newest + 1
  dated := by
    intro other used
    by_cases same : other = index
    · subst same
      rw [update_self]
    · rw [update_of_ne same] at used ⊢
      exact (table.dated other used).trans (Nat.le_succ _)
  distinct := by
    intro first second usedFirst usedSecond sameOrder
    by_cases sameFirst : first = index <;> by_cases sameSecond : second = index
    · rw [sameFirst, sameSecond]
    · subst sameFirst
      simp only [update_self, update_of_ne sameSecond] at sameOrder
      rw [update_of_ne sameSecond] at usedSecond
      have := table.dated second usedSecond
      omega
    · subst sameSecond
      simp only [update_self, update_of_ne sameFirst] at sameOrder
      rw [update_of_ne sameFirst] at usedFirst
      have := table.dated first usedFirst
      omega
    · rw [update_of_ne sameFirst] at usedFirst sameOrder
      rw [update_of_ne sameSecond] at usedSecond sameOrder
      exact table.distinct first second usedFirst usedSecond sameOrder

/-- Purge, then put a new entry into a free place or over the oldest entry. -/
def add (table : Table Key Route size) (key : Key) (route : Route) (now lifetime : Nat) :
    Table Key Route size :=
  let purged := table.purge now
  match freeOrOldest (fun index => !(purged.entries index).used)
      (fun index => (purged.entries index).order) (List.finRange size) none with
  | none => purged
  | some index => purged.replace index key route (now + lifetime)

/-- Purge, then take out the oldest entry of the key whose route is valid. -/
def take [DecidableEq Key] (table : Table Key Route size) (key : Key) (valid : Route → Bool)
    (now : Nat) : Table Key Route size × Option (Entry Key Route) :=
  let purged := table.purge now
  match oldest (fun index => (purged.entries index).used &&
        decide ((purged.entries index).key = key) && valid (purged.entries index).route)
      (fun index => (purged.entries index).order) (List.finRange size) none with
  | none => (purged, none)
  | some index => (purged.release index, some (purged.entries index))

/-- An entry that has not expired. -/
def Live (table : Table Key Route size) (now : Nat) (index : Fin size) : Prop :=
  (table.entries index).used = true ∧ now < (table.entries index).deadline

theorem purge_used (table : Table Key Route size) (now : Nat) (index : Fin size) :
    ((table.purge now).entries index).used = true ↔ table.Live now index := by
  simp only [purge, Live, Bool.and_eq_true, decide_eq_true_eq]

/-- Purging leaves an entry that has not expired as it is. -/
theorem purge_live {table : Table Key Route size} {now : Nat} {index : Fin size}
    (live : table.Live now index) : (table.purge now).entries index = table.entries index := by
  obtain ⟨used, fresh⟩ := live
  simp only [purge, used, fresh, decide_true, Bool.and_self]
  rw [← used]

theorem release_used {table : Table Key Route size} {index other : Fin size}
    (used : ((table.release index).entries other).used = true) :
    other ≠ index ∧ (table.release index).entries other = table.entries other := by
  by_cases same : other = index
  · subst same
    simp [release] at used
  · exact ⟨same, by simp only [release, update_of_ne same]⟩

section Take

variable [DecidableEq Key] {table after : Table Key Route size} {key : Key}
  {valid : Route → Bool} {now : Nat}

/-- An entry an answer with this key may be matched with. -/
def Matches (table : Table Key Route size) (key : Key) (valid : Route → Bool) (now : Nat)
    (index : Fin size) : Prop :=
  table.Live now index ∧ (table.entries index).key = key ∧
    valid (table.entries index).route = true

theorem matches_iff (index : Fin size) :
    ((((table.purge now).entries index).used &&
        decide (((table.purge now).entries index).key = key) &&
        valid ((table.purge now).entries index).route) = true) ↔
      table.Matches key valid now index := by
  simp only [Bool.and_eq_true, decide_eq_true_eq, purge_used, Matches, and_assoc]
  rfl

/-- The entry taken is the oldest one that matches, and its place becomes free. -/
theorem take_eq_some {entry : Entry Key Route}
    (taken : table.take key valid now = (after, some entry)) :
    ∃ index, entry = table.entries index ∧ table.Matches key valid now index ∧
      (∀ other, table.Matches key valid now other → entry.order ≤ (table.entries other).order) ∧
      after = (table.purge now).release index := by
  unfold take at taken
  simp only at taken
  split at taken
  · cases (Prod.mk.inj taken).2
  · next index found =>
    obtain ⟨fits, -, others⟩ := oldest_eq_some (by simp) found
    have fits := (matches_iff index).mp fits
    have whole : (table.purge now).entries index = table.entries index := purge_live fits.1
    obtain ⟨rfl, same⟩ := Prod.mk.inj taken
    rw [whole] at same
    cases same
    refine ⟨index, rfl, fits, fun other candidate => ?_, rfl⟩
    exact others other (mem_finRange other) ((matches_iff other).mpr candidate)

/-- Nothing is taken only when no entry matches. -/
theorem take_eq_none (taken : table.take key valid now = (after, none)) :
    (∀ index, ¬ table.Matches key valid now index) ∧ after = table.purge now := by
  unfold take at taken
  simp only at taken
  split at taken
  · next found =>
    refine ⟨fun index candidate => ?_, (Prod.mk.inj taken).1.symm⟩
    have none := (oldest_eq_none found).2 index (mem_finRange index)
    rw [(matches_iff index).mpr candidate] at none
    cases none
  · cases (Prod.mk.inj taken).2

end Take

/-- A new entry takes a place that was free or has expired; only when there is none, it takes
the place of the oldest entry. -/
theorem add_spec (table : Table Key Route size) (key : Key) (route : Route) (now lifetime : Nat)
    (positive : 0 < size) :
    ∃ index, table.add key route now lifetime =
        (table.purge now).replace index key route (now + lifetime) ∧
      (¬ table.Live now index ∨
        (∀ other, table.Live now other) ∧
          ∀ other, (table.entries index).order ≤ (table.entries other).order) := by
  unfold add
  simp only
  by_cases full : ∀ index, table.Live now index
  · have used (index : Fin size) : (!((table.purge now).entries index).used) = false := by
      rw [(purge_used table now index).mpr (full index)]
      rfl
    rw [freeOrOldest_full (fun index _ => used index)]
    cases found : oldest (fun _ => true) (fun index => ((table.purge now).entries index).order)
        (finRange size) none with
    | none =>
      have := (oldest_eq_none found).2 ⟨0, positive⟩ (mem_finRange _)
      cases this
    | some index =>
      obtain ⟨-, -, others⟩ := oldest_eq_some (by simp) found
      exact ⟨index, rfl, .inr ⟨full, fun other => others other (mem_finRange other) rfl⟩⟩
  · obtain ⟨index, expired⟩ := not_forall.mp full
    have free : (!((table.purge now).entries index).used) = true := by
      rw [Bool.not_eq_true', Bool.eq_false_iff]
      exact fun used => expired ((purge_used table now index).mp used)
    obtain ⟨result, found, isFree⟩ := freeOrOldest_free
      (fun index => !((table.purge now).entries index).used)
      (fun index => ((table.purge now).entries index).order) none (mem_finRange index) free
    refine ⟨result, by rw [found], .inl fun live => ?_⟩
    rw [(purge_used table now result).mpr live] at isFree
    cases isFree

end Table

end PendingTable
