/-
This file is about the buffer of parameter sets that a recording keeps for its next file. Each new
parameter set is put behind the others, which are looked through with the same search.

The buffer always holds every parameter set that was accepted exactly once, in the order in which
they came first, also when a call fails half way.
-/

import CameraGimbal.AnnexBJoining
import CameraGimbal.Mp4Recording

namespace Mp4

open AnnexB List

/-! ### One call -/

def parameterSetsOf (units : List Bytes) : List Bytes :=
  units.flatMap fun unit => (nals unit).filter isParameterSet

/-- The buffer of the writer holds every parameter set once, in the order they were seen. -/
def Cached (headers : Bytes) (seen : List Bytes) : Prop :=
  ∃ units : List NalUnit, headers = encode (units.map fun unit => (.long, unit)) ∧
    units.map NalUnit.bytes = seen.eraseDups

theorem cached_nil : Cached [] [] := ⟨[], rfl, rfl⟩

variable {headers : Bytes} {seen : List (Bytes)}

theorem Cached.nalUnits (cached : Cached headers seen) :
    AnnexB.nalUnits headers = seen.eraseDups := by
  obtain ⟨units, same, distinct⟩ := cached
  rw [same, nalUnits_encode, map_map, ← distinct]
  rfl

theorem eraseDups_concat (seen : List Bytes) (nal : Bytes) :
    (seen ++ [nal]).eraseDups = seen.eraseDups ++ if nal ∈ seen then [] else [nal] := by
  rw [eraseDups_append]
  congr 1
  by_cases old : nal ∈ seen
  · rw [if_pos old, cons_removeAll, if_neg (by rw [contains_iff_mem.mpr old]; decide)]
    rfl
  · have absent : seen.contains nal = false := Bool.eq_false_iff.mpr (mt contains_iff_mem.mp old)
    rw [if_neg old, cons_removeAll, if_pos absent]
    rfl

theorem nalUnit_of_nals {unit nal : Bytes} (member : nal ∈ nals unit) :
    ∃ found : NalUnit, found.bytes = nal := by
  obtain ⟨isIn, nonempty⟩ := mem_filter.mp member
  exact nalUnit_of_mem isIn (of_decide_eq_true nonempty)

/-- What a call leaves: all parameter sets of the access unit, or those in front of the one at which
it failed. -/
def CacheEnds (seen units : List Bytes) (result : Bytes × Option Errno) : Prop :=
  match result.2 with
  | none => Cached result.1 (seen ++ units.filter isParameterSet)
  | some _ => ∃ before failing later, units = before ++ failing :: later ∧
      isParameterSet failing = true ∧ failing ∉ seen ++ before.filter isParameterSet ∧
      Cached result.1 (seen ++ before.filter isParameterSet)

theorem CacheEnds.cons {seen units : List (Bytes)} {nal : Bytes}
    {result : Bytes × Option Errno}
    (ends : CacheEnds (seen ++ [nal].filter isParameterSet) units result) :
    CacheEnds seen (nal :: units) result := by
  have shift (later : List Bytes) :
      seen ++ [nal].filter isParameterSet ++ later.filter isParameterSet =
        seen ++ (nal :: later).filter isParameterSet := by
    rw [append_assoc, ← filter_append]
    rfl
  unfold CacheEnds at ends ⊢
  cases isFailure : result.2 with
  | none =>
    rw [isFailure] at ends
    exact shift units ▸ ends
  | some errno =>
    rw [isFailure] at ends
    obtain ⟨before, failing, later, rfl, isSet, new, cached⟩ := ends
    rw [shift] at new cached
    exact ⟨nal :: before, failing, later, rfl, isSet, new, cached⟩

theorem Cached.again {nal : Bytes} (cached : Cached headers seen)
    (old : isParameterSet nal = true → nal ∈ seen) :
    Cached headers (seen ++ [nal].filter isParameterSet) := by
  by_cases isSet : isParameterSet nal = true
  · unfold Cached
    rw [filter_cons_of_pos isSet, filter_nil, eraseDups_concat, if_pos (old isSet), append_nil]
    exact cached
  · rw [filter_cons_of_neg isSet, filter_nil, append_nil]
    exact cached

theorem Cached.grow (cached : Cached headers seen) (unit : NalUnit)
    (isSet : isParameterSet unit.bytes = true) (new : unit.bytes ∉ seen) :
    Cached (headers ++ ([0, 0, 0, 1] ++ unit.bytes))
      (seen ++ [unit.bytes].filter isParameterSet) := by
  obtain ⟨units, same, distinct⟩ := cached
  rw [filter_cons_of_pos isSet, filter_nil]
  refine ⟨units ++ [unit], ?_, ?_⟩
  · rw [same, map_append]
    unfold encode
    rw [flatMap_append, map_singleton, flatMap_singleton]
    rfl
  · rw [map_append, distinct, eraseDups_concat, if_neg new]
    rfl

section

variable (realloc : Bytes → Bool) {units : List (Bytes)} (cached : Cached headers seen)
  (areUnits : ∀ nal ∈ units, ∃ found : NalUnit, found.bytes = nal)

include cached areUnits

theorem cacheHeaders_ends :
    CacheEnds seen units (cacheHeaders realloc headers units) := by
  induction units generalizing headers seen with
  | nil =>
    show Cached headers (seen ++ [])
    rw [append_nil]
    exact cached
  | cons nal rest hypothesis =>
    obtain ⟨⟨unit, rfl⟩, areUnitsRest⟩ := forall_mem_cons.mp areUnits
    have fails (errno : Errno) (isSet : isParameterSet unit.bytes = true)
        (new : unit.bytes ∉ seen) :
        CacheEnds seen (unit.bytes :: rest) (headers, some errno) := by
      refine ⟨[], unit.bytes, rest, rfl, isSet, ?_, ?_⟩
      · rwa [filter_nil, append_nil]
      · rwa [filter_nil, append_nil]
    rw [cacheHeaders, cached.nalUnits]
    split
    · next skipped =>
      rw [Bool.or_eq_true, Bool.not_eq_true', contains_iff_mem, mem_eraseDups] at skipped
      have old (isSet : isParameterSet unit.bytes = true) : unit.bytes ∈ seen :=
        skipped.resolve_left (by rw [isSet]; decide)
      exact (hypothesis (cached.again old) areUnitsRest).cons
    next new =>
    rw [Bool.or_eq_true, not_or, Bool.not_eq_true', Bool.not_eq_false, contains_iff_mem,
      mem_eraseDups] at new
    obtain ⟨isSet, new⟩ := new
    split
    · exact fails overflow isSet new
    dsimp only
    split
    · exact (hypothesis (cached.grow unit isSet new) areUnitsRest).cons
    · exact fails noMemory isSet new

theorem cacheHeaders_cached (succeeds : (cacheHeaders realloc headers units).2 = none) :
    Cached (cacheHeaders realloc headers units).1 (seen ++ units.filter isParameterSet) := by
  have ends := cacheHeaders_ends realloc cached areUnits
  unfold CacheEnds at ends
  rwa [succeeds] at ends

end

theorem length_cacheHeaders (realloc : Bytes → Bool) (units : List Bytes)
    (bounded : headers.length ≤ headersMax) :
    (cacheHeaders realloc headers units).1.length ≤ headersMax := by
  have size : headersMax = 65536 := rfl
  induction units generalizing headers with
  | nil => exact bounded
  | cons nal rest hypothesis =>
    rw [cacheHeaders]
    split
    · exact hypothesis bounded
    split
    · exact bounded
    dsimp only
    split
    · refine hypothesis ?_
      simp only [length_append, length_cons, length_nil]
      omega
    · exact bounded

/-! ### A sequence of calls -/

/-- A call of `cache_headers`: what `realloc` reports, and the access unit. -/
structure CacheCall where
  realloc : Bytes → Bool
  unit : Bytes

/-- The calls one after another, up to the first that fails. -/
def cacheAll (headers : Bytes) : List CacheCall → Bytes × Option Errno
  | [] => (headers, none)
  | call :: later =>
    let cached := cacheHeaders call.realloc headers (nals call.unit)
    match cached.2 with
    | none => cacheAll cached.1 later
    | some errno => (cached.1, some errno)

theorem length_cacheAll (calls : List CacheCall) (bounded : headers.length ≤ headersMax) :
    (cacheAll headers calls).1.length ≤ headersMax := by
  induction calls generalizing headers with
  | nil => exact bounded
  | cons call later hypothesis =>
    have first := length_cacheHeaders call.realloc (nals call.unit) bounded
    rw [cacheAll]
    split
    · exact hypothesis first
    · exact first

theorem cacheAll_ends (calls : List CacheCall) (cached : Cached headers seen) :
    ((cacheAll headers calls).2 = none →
      Cached (cacheAll headers calls).1 (seen ++ parameterSetsOf (calls.map CacheCall.unit))) ∧
    ((cacheAll headers calls).2 ≠ none →
      ∃ done call rest before failing later, calls = done ++ call :: rest ∧
        nals call.unit = before ++ failing :: later ∧ isParameterSet failing = true ∧
        failing ∉ seen ++ parameterSetsOf (done.map CacheCall.unit) ++
          before.filter isParameterSet ∧
        Cached (cacheAll headers calls).1
          (seen ++ parameterSetsOf (done.map CacheCall.unit) ++ before.filter isParameterSet)) := by
  induction calls generalizing headers seen with
  | nil =>
    refine ⟨fun _ => ?_, fun failed => absurd rfl failed⟩
    show Cached headers (seen ++ [])
    rw [append_nil]
    exact cached
  | cons call later hypothesis =>
    have areUnits : ∀ nal ∈ nals call.unit, ∃ found : NalUnit, found.bytes = nal :=
      fun nal member => nalUnit_of_nals member
    have ends := cacheHeaders_ends call.realloc cached areUnits
    have shift (others : List CacheCall) :
        seen ++ (nals call.unit).filter isParameterSet ++
            parameterSetsOf (others.map CacheCall.unit) =
          seen ++ parameterSetsOf ((call :: others).map CacheCall.unit) := by
      rw [append_assoc]
      rfl
    unfold CacheEnds at ends
    rw [cacheAll]
    cases isFailure : (cacheHeaders call.realloc headers (nals call.unit)).2 with
    | none =>
      rw [isFailure] at ends
      obtain ⟨whole, cut⟩ := hypothesis ends
      refine ⟨fun succeeded => shift later ▸ whole succeeded, fun failed => ?_⟩
      obtain ⟨done, bad, rest, before, failing, behind, rfl, parts, isSet, new, kept⟩ := cut failed
      rw [shift] at new kept
      exact ⟨call :: done, bad, rest, before, failing, behind, rfl, parts, isSet, new, kept⟩
    | some errno =>
      rw [isFailure] at ends
      obtain ⟨before, failing, behind, parts, isSet, new, kept⟩ := ends
      refine ⟨nofun, fun _ => ⟨[], call, later, before, failing, behind, rfl, parts, isSet, ?_, ?_⟩⟩
      · rwa [show parameterSetsOf (([] : List CacheCall).map CacheCall.unit) = [] from rfl,
          append_nil]
      · rwa [show parameterSetsOf (([] : List CacheCall).map CacheCall.unit) = [] from rfl,
          append_nil]

/-- After any calls the buffer is within its bound, and the search in it returns the parameter sets
of all access units, each once and in the order in which they came first; when a call fails, those
that came before the NAL unit at which it fails. -/
theorem headers_complete (calls : List CacheCall) :
    (cacheAll [] calls).1.length ≤ headersMax ∧
    ((cacheAll [] calls).2 = none →
      Lists (cacheAll [] calls).1 (parameterSetsOf (calls.map CacheCall.unit)).eraseDups) ∧
    ((cacheAll [] calls).2 ≠ none →
      ∃ done call rest before failing later, calls = done ++ call :: rest ∧
        nals call.unit = before ++ failing :: later ∧ isParameterSet failing = true ∧
        failing ∉ parameterSetsOf (done.map CacheCall.unit) ++ before.filter isParameterSet ∧
        Lists (cacheAll [] calls).1
          (parameterSetsOf (done.map CacheCall.unit) ++
            before.filter isParameterSet).eraseDups) := by
  obtain ⟨whole, cut⟩ := cacheAll_ends calls cached_nil
  refine ⟨length_cacheAll calls (Nat.zero_le _), fun succeeded => ?_, fun failed => ?_⟩
  · exact lists_iff.mpr (whole succeeded).nalUnits
  · obtain ⟨done, call, rest, before, failing, later, split, parts, isSet, new, kept⟩ := cut failed
    exact ⟨done, call, rest, before, failing, later, split, parts, isSet, new,
      lists_iff.mpr kept.nalUnits⟩

end Mp4
