/-
This file is a library on loops that fill a plane of memory: the writes they make, one after
another, what a plane holds behind them, and the pixels of a picture in a plane whose rows are
longer than those of the picture.
-/

import Mathlib.Data.List.Nodup
import Mathlib.Data.List.ProdSigma

namespace PlaneWrites

open List

variable {Value : Type}

/-- A write, with its offset in the plane. -/
structure Write (Value : Type) where
  offset : Nat
  value : Value

/-- The plane behind some writes. -/
def after (writes : List (Write Value)) (plane : Nat → Value) : Nat → Value :=
  writes.foldl (fun plane write => Function.update plane write.offset write.value) plane

/-- What is not written is as it was. -/
theorem after_of_notMem {writes : List (Write Value)} {offset : Nat}
    (untouched : offset ∉ writes.map Write.offset) (plane : Nat → Value) :
    after writes plane offset = plane offset := by
  induction writes generalizing plane with
  | nil => rfl
  | cons write rest hypothesis =>
    obtain ⟨other, later⟩ := not_or.mp (mt mem_cons.mpr untouched)
    exact (hypothesis later _).trans (Function.update_of_ne other _ _)

/-- What is written once is there. -/
theorem after_of_mem {writes : List (Write Value)} (once : (writes.map Write.offset).Nodup)
    {write : Write Value} (member : write ∈ writes) (plane : Nat → Value) :
    after writes plane write.offset = write.value := by
  induction writes generalizing plane with
  | nil => exact absurd member not_mem_nil
  | cons first rest hypothesis =>
    obtain ⟨fresh, onceRest⟩ := nodup_cons.mp once
    rcases mem_cons.mp member with rfl | later
    · exact (after_of_notMem fresh _).trans (Function.update_self _ _ _)
    · exact hypothesis onceRest later _

/-! ### Pictures -/

/-- The writes of a loop over the rows, and in each of them over the columns. -/
def picture (rows columns : Nat) (offset : Nat → Nat → Nat) (value : Nat → Nat → Value) :
    List (Write Value) :=
  (List.range rows).flatMap fun row =>
    (List.range columns).map fun column =>
      { offset := offset row column, value := value row column }

theorem mem_picture {rows columns : Nat} {offset : Nat → Nat → Nat} {value : Nat → Nat → Value}
    {write : Write Value} :
    write ∈ picture rows columns offset value ↔
      ∃ row < rows, ∃ column < columns,
        write = { offset := offset row column, value := value row column } := by
  simp only [picture, mem_flatMap, mem_map, mem_range, eq_comm]

/-- Of a loop with step two that does two things for each value, one thing for each value. -/
theorem flatMap_evens {Result : Type} (count : Nat) (step : Nat → Result) :
    ((range count).map (2 * ·)).flatMap (fun value => [step value, step (value + 1)]) =
      (range (2 * count)).map step := by
  induction count with
  | zero => rfl
  | succ count hypothesis =>
    rw [range_succ, map_append, flatMap_append, hypothesis, Nat.mul_succ,
      range_succ, range_succ, map_append, map_append, append_assoc]
    rfl

/-- Every pixel of a picture is written exactly once, and nothing else. -/
structure Covers (rows columns stride : Nat) (writes : List (Write Value)) : Prop where
  once : (writes.map Write.offset).Nodup
  pixels : ∀ offset, offset ∈ writes.map Write.offset ↔
    ∃ row < rows, ∃ column < columns, offset = row * stride + column

/-- The place of a pixel in its plane tells the row and the column. -/
theorem place_unique {stride row column otherRow otherColumn : Nat} (inside : column < stride)
    (otherInside : otherColumn < stride)
    (same : row * stride + column = otherRow * stride + otherColumn) :
    row = otherRow ∧ column = otherColumn := by
  have positive : 0 < stride := Nat.lt_of_le_of_lt (Nat.zero_le _) inside
  have quotient (row column : Nat) (inside : column < stride) :
      (row * stride + column) / stride = row := by
    rw [Nat.mul_comm, Nat.mul_add_div positive, Nat.div_eq_of_lt inside, Nat.add_zero]
  have rows : row = otherRow := by
    rw [← quotient row column inside, same, quotient otherRow otherColumn otherInside]
  subst rows
  exact ⟨rfl, Nat.add_left_cancel same⟩

/-- An order of the numbers below a limit that is undone by itself. -/
def Reorders (limit : Nat) (order : Nat → Nat) : Prop :=
  ∀ number < limit, order number < limit ∧ order (order number) = number

theorem reorders_id (limit : Nat) : Reorders limit id := fun _ inside => ⟨inside, rfl⟩

theorem reorders_reverse (limit : Nat) : Reorders limit fun number => limit - 1 - number := by
  intro number inside
  dsimp only
  omega

section Reordered

variable {rows columns stride : Nat} {rowOf columnOf : Nat → Nat} {value : Nat → Nat → Value}

section

variable (fits : columns ≤ stride) (rowOrder : Reorders rows rowOf)
  (columnOrder : Reorders columns columnOf)

include fits rowOrder columnOrder

/-- In whatever order the pixels are written, each is written once. -/
theorem covers_picture (value : Nat → Nat → Value) :
    Covers rows columns stride
      (picture rows columns (fun row column => rowOf row * stride + columnOf column) value) := by
  have offsets : (picture rows columns (fun row column => rowOf row * stride + columnOf column)
      value).map Write.offset =
        (range rows ×ˢ range columns).map fun pixel =>
          rowOf pixel.1 * stride + columnOf pixel.2 := by
    show _ = ((range rows).flatMap fun row => (range columns).map (Prod.mk row)).map _
    simp only [picture, map_flatMap, map_map]
    rfl
  refine ⟨?_, fun offset => ?_⟩
  · rw [offsets]
    refine Nodup.map_on ?_ (nodup_range.product nodup_range)
    rintro ⟨row, column⟩ member ⟨otherRow, otherColumn⟩ otherMember same
    simp only [mem_product, mem_range] at member otherMember
    have inside := columnOrder column member.2
    have otherInside := columnOrder otherColumn otherMember.2
    obtain ⟨sameRow, sameColumn⟩ := place_unique (Nat.lt_of_lt_of_le inside.1 fits)
      (Nat.lt_of_lt_of_le otherInside.1 fits) same
    rw [← (rowOrder row member.1).2, sameRow, (rowOrder otherRow otherMember.1).2, ← inside.2,
      sameColumn, otherInside.2]
  · rw [offsets, mem_map]
    constructor
    · rintro ⟨⟨row, column⟩, member, rfl⟩
      simp only [mem_product, mem_range] at member
      exact ⟨_, (rowOrder row member.1).1, _, (columnOrder column member.2).1, rfl⟩
    · rintro ⟨row, rowInside, column, columnInside, rfl⟩
      have rowBack := rowOrder row rowInside
      have columnBack := columnOrder column columnInside
      refine ⟨(rowOf row, columnOf column), ?_, ?_⟩
      · simp only [mem_product, mem_range]
        exact ⟨rowBack.1, columnBack.1⟩
      · rw [rowBack.2, columnBack.2]

/-- A pixel has the value that was written for it. -/
theorem after_picture (plane : Nat → Value) {row column : Nat}
    (rowInside : row < rows) (columnInside : column < columns) :
    after (picture rows columns (fun row column => rowOf row * stride + columnOf column) value)
        plane (row * stride + column) =
      value (rowOf row) (columnOf column) := by
  have rowBack := rowOrder row rowInside
  have columnBack := columnOrder column columnInside
  have written := after_of_mem (covers_picture fits rowOrder columnOrder value).once
    (mem_picture.mpr ⟨rowOf row, rowBack.1, columnOf column, columnBack.1, rfl⟩) plane
  rwa [rowBack.2, columnBack.2] at written

end

end Reordered

end PlaneWrites
