/-
This file is a library on lists that keep the greatest elements that they have been given, the
greatest first, and among equal ones the earlier first. An element is put behind everything that is
not below it, and the list is cut at its limit. Cutting after each element loses nothing against
cutting once at the end.
-/

import Mathlib.Data.List.DropRight
import Mathlib.Data.List.Sort

namespace TopList

open List

variable {α β : Type} [LinearOrder β] (key : α → β)

def isBelow (element other : α) : Bool := key other < key element

/-- The place of an element, looked for from behind. -/
def place (element : α) (list : List α) : ℕ := (list.rdropWhile (isBelow key element)).length

/-- Put an element behind everything that is not below it. -/
def insert (element : α) (list : List α) : List α :=
  list.orderedInsert (fun element other => key other < key element) element

/-- All elements, the greatest first. -/
def sorted (all : List α) : List α := all.foldl (fun list element => insert key element list) []

/-- The first of two elements with their places is greater, or as great and earlier. -/
def Before (first second : α × ℕ) : Prop :=
  key second.1 < key first.1 ∨ key second.1 = key first.1 ∧ first.2 < second.2

/-- The greatest elements with their places: none that is left out comes before one of them. -/
structure Chosen (limit : ℕ) (all : List α) (chosen : List (α × ℕ)) : Prop where
  count : chosen.length = min limit all.length
  member : ∀ entry ∈ chosen, entry ∈ all.zipIdx
  ordered : chosen.Pairwise (Before key)
  dropped : ∀ entry ∈ all.zipIdx, entry ∉ chosen → ∀ kept ∈ chosen, Before key kept entry

/-- A list holds exactly the greatest elements, the greatest first and equal ones in the order in
which they came. -/
def Top (limit : ℕ) (all list : List α) : Prop :=
  ∃ chosen, Chosen key limit all chosen ∧ chosen.map Prod.fst = list

section Insert

variable {key}

theorem insert_cons (element first : α) (rest : List α) :
    insert key element (first :: rest) =
      if key first < key element then element :: first :: rest
      else first :: insert key element rest :=
  orderedInsert_cons ..

/-- What is below the limit does not depend on what is beyond it. -/
theorem take_insert_take (limit : ℕ) (element : α) (list : List α) :
    (insert key element (list.take limit)).take limit = (insert key element list).take limit := by
  induction list generalizing limit with
  | nil => rw [take_nil]
  | cons first rest hypothesis =>
    cases limit with
    | zero => rw [take_zero, take_zero]
    | succ limit =>
      rw [take_succ_cons, insert_cons, insert_cons]
      split
      · have kept : first :: rest.take limit = (first :: rest).take (limit + 1) :=
          take_succ_cons.symm
        rw [take_succ_cons, take_succ_cons, kept, take_take, min_eq_left (Nat.le_succ limit)]
      · rw [take_succ_cons, take_succ_cons, hypothesis]

theorem sorted_concat (all : List α) (element : α) :
    sorted key (all ++ [element]) = insert key element (sorted key all) := by
  rw [sorted, foldl_append, foldl_cons, foldl_nil, ← sorted]

end Insert

/-! ### The place from behind -/

section Place

variable {key}

theorem insert_concat_of_lt {element last : α} (below : key last < key element) (list : List α) :
    insert key element (list ++ [last]) = insert key element list ++ [last] := by
  induction list with
  | nil =>
    rw [nil_append, insert_cons, if_pos below]
    rfl
  | cons first rest hypothesis =>
    rw [cons_append, insert_cons, insert_cons]
    split
    · rfl
    · rw [hypothesis, cons_append]

variable {list : List α}

theorem insert_of_not_lt {element : α} (above : ∀ other ∈ list, ¬ key other < key element) :
    insert key element list = list ++ [element] := by
  induction list with
  | nil => rfl
  | cons first rest hypothesis =>
    obtain ⟨firstAbove, restAbove⟩ := forall_mem_cons.mp above
    rw [insert_cons, if_neg firstAbove, hypothesis restAbove, cons_append]

/-- In a sorted list the place can be found from behind, over the elements that are below. -/
theorem insert_eq_of_sorted (element : α)
    (ordered : list.Pairwise fun first second => key second ≤ key first) :
    insert key element list =
      list.rdropWhile (isBelow key element) ++
        element :: list.rtakeWhile (isBelow key element) := by
  induction list using reverseRecOn with
  | nil => rfl
  | append_singleton list last hypothesis =>
    obtain ⟨listOrdered, -, before⟩ := pairwise_append.mp ordered
    by_cases below : key last < key element
    · have goes : isBelow key element last = true := decide_eq_true below
      rw [insert_concat_of_lt below, hypothesis listOrdered,
        rdropWhile_concat_pos _ _ _ goes, rtakeWhile_concat_pos _ _ _ goes,
        append_assoc, cons_append]
    · have above : ∀ other ∈ list ++ [last], ¬ key other < key element := by
        intro other isOther
        rcases mem_append.mp isOther with inList | isLast
        · exact fun less => below ((before other inList last mem_cons_self).trans_lt less)
        · rwa [mem_singleton.mp isLast]
      have stops : ¬ isBelow key element last = true := by
        rw [isBelow, decide_eq_true_eq]
        exact below
      rw [insert_of_not_lt above, rdropWhile_concat_neg _ _ _ stops,
        rtakeWhile_concat_neg _ _ _ stops]

theorem place_le (element : α) (list : List α) : place key element list ≤ list.length :=
  (List.rdropWhile_prefix _ _).length_le

theorem place_concat (element last : α) (list : List α) :
    place key element (list ++ [last]) =
      if isBelow key element last then place key element list else list.length + 1 := by
  unfold place
  rw [rdropWhile_concat, apply_ite length, length_append, length_singleton]

theorem getElem?_insert (element : α)
    (ordered : list.Pairwise fun first second => key second ≤ key first) (index : ℕ) :
    (insert key element list)[index]? =
      if index < place key element list then list[index]?
      else if index = place key element list then some element else list[index - 1]? := by
  have parts : list.rdropWhile (isBelow key element) ++ list.rtakeWhile (isBelow key element) =
      list := rdropWhile_append_rtakeWhile
  have inserted := insert_eq_of_sorted element ordered
  unfold place
  generalize list.rdropWhile (isBelow key element) = before at parts inserted ⊢
  generalize list.rtakeWhile (isBelow key element) = behind at parts inserted
  rw [inserted, ← parts]
  by_cases inFront : index < before.length
  · rw [if_pos inFront, getElem?_append_left inFront, getElem?_append_left inFront]
  · rw [if_neg inFront, getElem?_append_right (not_lt.mp inFront)]
    split
    · next atPlace => rw [atPlace, Nat.sub_self, getElem?_cons_zero]
    · next notAt =>
      have beyond : before.length + 1 ≤ index :=
        Nat.lt_of_le_of_ne (not_lt.mp inFront) (Ne.symm notAt)
      rw [getElem?_append_right (Nat.le_sub_one_of_lt beyond), Nat.sub_right_comm,
        ← Nat.sub_add_cancel (Nat.sub_pos_of_lt beyond), getElem?_cons_succ,
        Nat.add_sub_cancel]

end Place

/-! ### The order of all elements -/

section Order

variable {key}

/-- An entry that came last is put before what is below it and behind everything else. -/
theorem ordered_insert {chosen : List (α × ℕ)} {entry : α × ℕ}
    (ordered : chosen.Pairwise (Before key)) (earlier : ∀ other ∈ chosen, other.2 < entry.2) :
    (insert (fun other => key other.1) entry chosen).Pairwise (Before key) := by
  induction chosen with
  | nil => exact pairwise_singleton _ _
  | cons first rest hypothesis =>
    obtain ⟨before, restOrdered⟩ := pairwise_cons.mp ordered
    rw [insert_cons]
    split
    · next below =>
      refine pairwise_cons.mpr ⟨fun other isOther => ?_, ordered⟩
      rcases mem_cons.mp isOther with rfl | inRest
      · exact .inl below
      · rcases before other inRest with less | ⟨same, -⟩
        · exact .inl (less.trans below)
        · exact .inl (same.trans_lt below)
    · next above =>
      refine pairwise_cons.mpr ⟨fun other isOther => ?_, hypothesis restOrdered
        fun other inRest => earlier other (mem_cons_of_mem _ inRest)⟩
      rcases (mem_orderedInsert _).mp isOther with rfl | inRest
      · rcases (not_lt.mp above).lt_or_eq with less | same
        · exact .inl less
        · exact .inr ⟨same, earlier first mem_cons_self⟩
      · exact before other inRest

variable (key) in
/-- The sorted list with the places of its elements. -/
theorem sorted_places (all : List α) :
    ∃ chosen : List (α × ℕ), chosen.map Prod.fst = sorted key all ∧ chosen.Perm all.zipIdx ∧
      chosen.Pairwise (Before key) := by
  induction all using List.reverseRecOn with
  | nil => exact ⟨[], rfl, .refl _, .nil⟩
  | append_singleton all element hypothesis =>
    obtain ⟨chosen, isSorted, places, ordered⟩ := hypothesis
    refine ⟨insert (fun other => key other.1) (element, all.length) chosen, ?_, ?_, ?_⟩
    · rw [sorted_concat, ← isSorted]
      exact List.map_orderedInsert _ _ _ _ _ (fun _ _ => Iff.rfl) fun _ _ => Iff.rfl
    · rw [List.zipIdx_append]
      refine (List.perm_orderedInsert _ _ _).trans ?_
      refine (places.cons _).trans ?_
      simpa using (List.perm_append_singleton _ _).symm
    · refine ordered_insert ordered fun other isOther => ?_
      have place := (List.mem_zipIdx (places.mem_iff.mp isOther)).2.1
      rwa [Nat.zero_add] at place

theorem length_sorted (all : List α) : (sorted key all).length = all.length := by
  obtain ⟨chosen, isSorted, places, -⟩ := sorted_places key all
  rw [← isSorted, length_map, places.length_eq, length_zipIdx]

theorem pairwise_sorted (all : List α) :
    (sorted key all).Pairwise fun first second => key second ≤ key first := by
  obtain ⟨chosen, isSorted, -, ordered⟩ := sorted_places key all
  rw [← isSorted, pairwise_map]
  exact ordered.imp fun before => before.elim le_of_lt fun same => same.1.le

end Order

theorem top_take (limit : ℕ) (all : List α) : Top key limit all ((sorted key all).take limit) := by
  obtain ⟨chosen, isSorted, places, ordered⟩ := sorted_places key all
  refine ⟨chosen.take limit, ⟨?_, fun entry isKept => ?_, ?_,
    fun entry isEntry left kept isKept => ?_⟩, ?_⟩
  · rw [length_take, places.length_eq, length_zipIdx]
  · exact places.mem_iff.mp (mem_of_mem_take isKept)
  · exact ordered.sublist (take_sublist _ _)
  · have isChosen := places.mem_iff.mpr isEntry
    rw [← take_append_drop limit chosen] at isChosen ordered
    have isDropped := (mem_append.mp isChosen).resolve_left left
    exact (pairwise_append.mp ordered).2.2 kept isKept entry isDropped
  · rw [map_take, isSorted]

end TopList
