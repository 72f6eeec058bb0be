/-
This file is a library on the outputs of a system that keeps the list of all its
outputs so far: what has been added to the list since an earlier moment, and
which output that counts was the last one.
-/

import Mathlib.Data.List.Basic

namespace Outputs

open List

variable {Output : Type}

/-- Nothing but outputs of this kind has been added since. -/
def Adds (Kind : Output → Prop) (before after : List Output) : Prop :=
  ∃ added, after = before ++ added ∧ ∀ output ∈ added, Kind output

variable {Kind : Output → Prop} {before middle after : List Output} (outputs : List Output)

theorem Adds.refl : Adds Kind outputs outputs :=
  ⟨[], (append_nil outputs).symm, nofun⟩

theorem Adds.one {output : Output} (kind : Kind output) :
    Adds Kind outputs (outputs ++ [output]) :=
  ⟨[output], rfl, fun _ member => mem_singleton.mp member ▸ kind⟩

theorem Adds.trans (first : Adds Kind before middle) (second : Adds Kind middle after) :
    Adds Kind before after := by
  obtain ⟨early, rfl, earlyKind⟩ := first
  obtain ⟨late, rfl, lateKind⟩ := second
  refine ⟨early ++ late, append_assoc before early late, fun output member => ?_⟩
  rcases mem_append.mp member with inEarly | inLate
  · exact earlyKind output inEarly
  · exact lateKind output inLate

/-! ### The last output that counts -/

variable {counts : Output → Bool}

/-- The last output that counts. -/
def last (counts : Output → Bool) (outputs : List Output) : Option Output :=
  (outputs.filter counts).getLast?

theorem last_append_of_counts {output : Output}
    (counted : counts output = true) : last counts (outputs ++ [output]) = some output := by
  unfold last
  rw [filter_append, filter_singleton, counted]
  exact getLast?_concat

/-- Outputs that do not count leave the last one that does. -/
theorem last_of_adds (added : Adds (fun output => counts output = false) before after) :
    last counts after = last counts before := by
  obtain ⟨outputs, rfl, uncounted⟩ := added
  have none_left : outputs.filter counts = [] :=
    filter_eq_nil_iff.mpr fun output member => by
      rw [uncounted output member]
      exact nofun
  rw [last, last, filter_append, none_left, append_nil]

end Outputs
