/-
This file is about the search of the autofocus over whole runs, whatever the operations of its
caller do. Both passes are visits to lists of positions, one after another and up to a failure, and
the samples are folded into the best visit. With room for one coarse step on both sides of the
range, and for the difference of its ends, no integer overflows, and the search ends as it should;
without that room it overflows for some scores.
-/

import CameraGimbal.Autofocus
import Mathlib.Tactic.Ring

namespace Autofocus

open List

variable {World : Type}

/-! ### What the search is for -/

/-- A position with the score that was measured there. -/
structure Visit where
  position : Int
  score : UInt64

/-- The calls of visits, all of which succeed. -/
def visited (visits : List Visit) : List Event :=
  visits.flatMap fun visit => [.moved visit.position true, .measured (some visit.score)]

/-- The visit has the highest score, and is the nearest to the initial position of those. -/
def Best (initial : Int) (visits : List Visit) (best : Visit) : Prop :=
  best ∈ visits ∧ ∀ visit ∈ visits, visit.score < best.score ∨
    visit.score = best.score ∧
      (best.position - initial).natAbs ≤ (visit.position - initial).natAbs

/-- The minimum and every coarse step behind it, below the maximum, and the maximum. -/
def coarsePositions (arguments : Arguments) : List Int :=
  (List.range (((arguments.maximum - arguments.minimum).toNat + arguments.coarseStep - 1) /
    arguments.coarseStep)).map
      (fun index : Nat => arguments.minimum + arguments.coarseStep * (index : Int)) ++
    [arguments.maximum]

/-- Every position from one to another. -/
def positionsFrom (low high : Int) : List Int :=
  (List.range (high - low + 1).toNat).map fun index : Nat => low + (index : Int)

/-- The positions within one coarse step, clipped to the range. -/
def finePositions (arguments : Arguments) (best : Int) : List Int :=
  positionsFrom (max arguments.minimum (best - arguments.coarseStep))
    (min arguments.maximum (best + arguments.coarseStep))

/-- The calls of a visit in which an operation fails. -/
inductive Fails (position : Int) : List Event → Prop where
  | move : Fails position [.moved position false]
  | measure : Fails position [.moved position true, .measured none]

/-- The calls of a search that finds its result: both passes, and the move to the best position of
the fine pass. -/
structure Finds (arguments : Arguments) (events : List Event) (result : Result) : Prop where
  calls : ∃ coarse fine best found,
    events = visited coarse ++ visited fine ++ [.moved result.position true] ∧
      coarse.map Visit.position = coarsePositions arguments ∧
      Best arguments.initial coarse best ∧
      fine.map Visit.position = finePositions arguments best.position ∧
      Best arguments.initial fine found ∧
      found.position = result.position ∧ found.score = result.score ∧
      result.samples.toNat = coarse.length + fine.length

/-- The calls of a search up to one that fails. -/
inductive BreaksOff (arguments : Arguments) : List Event → Prop where
  | coarse {visits : List Visit} {position : Int} {rest : List Int} {failure : List Event}
    (positions : visits.map Visit.position ++ position :: rest = coarsePositions arguments)
    (fails : Fails position failure) : BreaksOff arguments (visited visits ++ failure)
  | fine {coarse visits : List Visit} {best : Visit} {position : Int} {rest : List Int}
    {failure : List Event} (whole : coarse.map Visit.position = coarsePositions arguments)
    (isBest : Best arguments.initial coarse best)
    (positions : visits.map Visit.position ++ position :: rest =
      finePositions arguments best.position) (fails : Fails position failure) :
    BreaksOff arguments (visited coarse ++ visited visits ++ failure)
  | last {coarse fine : List Visit} {best found : Visit}
    (whole : coarse.map Visit.position = coarsePositions arguments)
    (isBest : Best arguments.initial coarse best)
    (all : fine.map Visit.position = finePositions arguments best.position)
    (isFound : Best arguments.initial fine found) :
    BreaksOff arguments (visited coarse ++ visited fine ++ [.moved found.position false])

/-- A search finds its result, or some call fails and the last one is the move back. -/
def Correct (arguments : Arguments) (events : List Event) : Outcome → Prop
  | .found result => Finds arguments events result
  | .failed => ∃ earlier succeeds, BreaksOff arguments earlier ∧
      events = earlier ++ [.moved arguments.initial succeeds]
  | .rejected => False
  | .overflow => False

/-- The search ends, without an overflow, and as it should. -/
def Meets (arguments : Arguments) (ops : Ops World) (world : World) : Prop :=
  ∃ lens outcome, (∃ enough, ∀ fuel ≥ enough,
      search ops arguments fuel world = some (lens, outcome)) ∧
    Correct arguments lens.events outcome

/-- The range has room for the differences, and there is a coarse step of room on both sides of
it. -/
structure Arguments.Room (arguments : Arguments) : Prop where
  range : arguments.maximum - arguments.minimum ≤ intMax
  below : intMin ≤ arguments.minimum - arguments.coarseStep
  above : arguments.maximum + arguments.coarseStep ≤ intMax

/-! ### Visits one after another -/

/-- Visits to the positions, up to one in which an operation fails. -/
def sampleAll (ops : Ops World) (initial : Int) :
    List Int → Lens World → Sampling → Lens World × Option Sampling
  | [], lens, sampling => (lens, some sampling)
  | position :: rest, lens, sampling =>
    match samplePosition ops lens position initial sampling with
    | (lens, none) => (lens, none)
    | (lens, some sampling) => sampleAll ops initial rest lens sampling

/-- What the visits make of what was sampled before. -/
def recordAll (initial : Int) (visits : List Visit) (sampling : Sampling) : Sampling :=
  visits.foldl (fun sampling visit => sampling.record initial visit.position visit.score) sampling

variable (ops : Ops World)

theorem samplePosition_cases (lens : Lens World) (position initial : Int)
    (sampling : Sampling) :
    (∃ score world, samplePosition ops lens position initial sampling =
        ({ world, events := lens.events ++ visited [⟨position, score⟩] },
          some (sampling.record initial position score))) ∨
      ∃ failure world, Fails position failure ∧
        samplePosition ops lens position initial sampling =
          ({ world, events := lens.events ++ failure }, none) := by
  unfold samplePosition
  by_cases moves : (ops.move lens.world position).2 = false
  · refine .inr ⟨_, (ops.move lens.world position).1, .move, ?_⟩
    dsimp only [Lens.move]
    rw [if_pos moves, moves]
  · have succeeds : (ops.move lens.world position).2 = true := by simpa using moves
    dsimp only [Lens.move, Lens.measure]
    rw [if_neg moves, succeeds]
    cases measured : (ops.measure (ops.move lens.world position).1).2 with
    | none =>
      refine .inr ⟨_, (ops.measure (ops.move lens.world position).1).1, .measure, ?_⟩
      rw [append_assoc]
      rfl
    | some score =>
      refine .inl ⟨score, (ops.measure (ops.move lens.world position).1).1, ?_⟩
      rw [append_assoc]
      rfl

theorem sampleAll_cases (initial : Int) (positions : List Int)
    (lens : Lens World) (sampling : Sampling) :
    (∃ visits world, visits.map Visit.position = positions ∧
        sampleAll ops initial positions lens sampling =
          ({ world, events := lens.events ++ visited visits },
            some (recordAll initial visits sampling))) ∨
      ∃ visits position rest failure world,
        visits.map Visit.position ++ position :: rest = positions ∧ Fails position failure ∧
          sampleAll ops initial positions lens sampling =
            ({ world, events := lens.events ++ (visited visits ++ failure) }, none) := by
  induction positions generalizing lens sampling with
  | nil =>
    refine .inl ⟨[], lens.world, rfl, ?_⟩
    rw [show visited [] = [] from rfl, append_nil]
    rfl
  | cons position rest hypothesis =>
    rw [sampleAll]
    obtain ⟨score, world, sampled⟩ | ⟨failure, world, fails, sampled⟩ :=
      samplePosition_cases ops lens position initial sampling
    · rw [sampled]
      dsimp only
      obtain ⟨visits, final, same, all⟩ | ⟨visits, last, left, failure, final, same, fails, all⟩ :=
        hypothesis { world, events := lens.events ++ visited [⟨position, score⟩] }
          (sampling.record initial position score)
      · refine .inl ⟨⟨position, score⟩ :: visits, final, congrArg (position :: ·) same, ?_⟩
        rw [all, append_assoc]
        rfl
      · refine .inr ⟨⟨position, score⟩ :: visits, last, left, failure, final,
          congrArg (position :: ·) same, fails, ?_⟩
        rw [all, append_assoc, ← append_assoc (visited [_])]
        rfl
    · rw [sampled]
      exact .inr ⟨[], position, rest, failure, world, rfl, fails, rfl⟩

/-! ### The passes are visits -/

theorem checked_eq_some {value : Int} (low : intMin ≤ value) (high : value ≤ intMax) :
    checked value = some value := if_pos ⟨low, high⟩

/-- How a pass ends behind its visits. -/
def passEnd (sampled : Lens World × Option Sampling) : Lens World × PassEnd :=
  (sampled.1, match sampled.2 with
    | none => .failed
    | some sampling => .done sampling)

/-- The coarse pass from a position on, in front of which so many steps are left. -/
theorem coarsePass_eq {maximum initial step : Int} (positive : 0 < step)
    (high : maximum ≤ intMax) (count : Nat) {position : Int} (low : intMin ≤ position)
    (start : position ≤ maximum) (range : maximum - position ≤ intMax)
    (before : ∀ index : Nat, index < count → position + step * index < maximum)
    (reaches : maximum ≤ position + step * count) {fuel : Nat} (enough : count < fuel)
    (lens : Lens World) (sampling : Sampling) :
    coarsePass ops maximum initial step fuel lens position sampling =
      some (passEnd (sampleAll ops initial
        ((List.range count).map (fun index : Nat => position + step * (index : Int)) ++ [maximum])
        lens sampling)) := by
  induction count generalizing position fuel lens sampling with
  | zero =>
    obtain ⟨fuel, rfl⟩ : ∃ less, fuel = less + 1 := ⟨fuel - 1, by omega⟩
    obtain rfl : position = maximum := by simpa using Int.le_antisymm start (by simpa using reaches)
    rw [coarsePass, List.range_zero, List.map_nil, List.nil_append, sampleAll]
    cases samplePosition ops lens position initial sampling with
    | mk lens sampled =>
      cases sampled with
      | none => rfl
      | some sampling =>
        dsimp only
        rw [if_pos rfl]
        rfl
  | succ count hypothesis =>
    obtain ⟨fuel, rfl⟩ : ∃ less, fuel = less + 1 := ⟨fuel - 1, by omega⟩
    have inside : position < maximum := by simpa using before 0 (Nat.succ_pos count)
    have positions :
        (List.range (count + 1)).map (fun index : Nat => position + step * (index : Int)) =
          position ::
            (List.range count).map fun index : Nat => position + step + step * (index : Int) := by
      rw [List.range_succ_eq_map, List.map_cons, List.map_map]
      refine congrArg₂ List.cons (by simp) (List.map_congr_left fun index _ => ?_)
      simp only [Function.comp_apply, Nat.cast_succ]
      ring
    rw [coarsePass, positions, List.cons_append, sampleAll]
    cases samplePosition ops lens position initial sampling with
    | mk lens sampled =>
      cases sampled with
      | none => rfl
      | some sampling =>
        dsimp only
        rw [if_neg inside.ne, checked_eq_some (by unfold intMin; omega) range]
        dsimp only
        by_cases last : maximum - position ≤ step
        · -- the maximum comes next
          obtain rfl : count = 0 := by
            by_contra more
            have next := before 1 (by omega)
            simp only [Nat.cast_one, mul_one] at next
            omega
          rw [if_pos last]
          exact hypothesis (low.trans start) (Int.le_rfl)
            (by rw [Int.sub_self]; decide) (fun _ none => absurd none (Nat.not_lt_zero _))
            (by simp) (by omega) lens sampling
        · have step_le : position + step < maximum := by omega
          rw [if_neg last, checked_eq_some (by omega) (by omega)]
          refine hypothesis (by omega) step_le.le (by omega) (fun index less => ?_) ?_
            (by omega) lens sampling
          · have later := before (index + 1) (by omega)
            rw [Nat.cast_succ, mul_add, mul_one] at later
            omega
          · rw [Nat.cast_succ, mul_add, mul_one] at reaches
            omega

theorem finePass_eq {refineMax initial : Int} (high : refineMax < intMax)
    (count : Nat) {position : Int} (low : intMin ≤ position)
    (last : position + count = refineMax + 1) {fuel : Nat} (enough : count < fuel)
    (lens : Lens World) (sampling : Sampling) :
    finePass ops refineMax initial fuel lens position sampling =
      some (passEnd (sampleAll ops initial
        ((range count).map fun index : Nat => position + (index : Int)) lens sampling)) := by
  induction count generalizing position fuel lens sampling with
  | zero =>
    obtain ⟨fuel, rfl⟩ : ∃ less, fuel = less + 1 := ⟨fuel - 1, by omega⟩
    rw [finePass, if_neg (by omega)]
    rfl
  | succ count hypothesis =>
    obtain ⟨fuel, rfl⟩ : ∃ less, fuel = less + 1 := ⟨fuel - 1, by omega⟩
    have positions : (range (count + 1)).map (fun index : Nat => position + (index : Int)) =
        position :: (range count).map fun index : Nat => position + 1 + (index : Int) := by
      rw [range_succ_eq_map, map_cons, map_map]
      refine congrArg₂ cons (by simp) (map_congr_left fun index _ => ?_)
      simp only [Function.comp_apply, Nat.cast_succ]
      ring
    rw [finePass, if_pos (by omega), positions, sampleAll]
    cases samplePosition ops lens position initial sampling with
    | mk lens sampled =>
      cases sampled with
      | none => rfl
      | some sampling =>
        rw [checked_eq_some (by omega) (by omega)]
        exact hypothesis (by omega) (by push_cast at last; omega) (by omega) lens sampling

/-! ### The best visit -/

theorem better_iff (score : UInt64) (position : Int) (bestScore : UInt64)
    (bestPosition initial : Int) :
    better score position bestScore bestPosition initial true = true ↔
      bestScore < score ∨ score = bestScore ∧
        (position - initial).natAbs < (bestPosition - initial).natAbs := by
  have distances (first second : Int) : ((if first < 0 then -first else first) <
      if second < 0 then -second else second) ↔ first.natAbs < second.natAbs := by
    split <;> split <;> omega
  unfold better
  by_cases higher : bestScore < score
  · rw [if_pos (.inr higher)]
    exact iff_of_true rfl (.inl higher)
  rw [if_neg (not_or.mpr ⟨nofun, higher⟩), or_iff_right higher]
  by_cases lower : score < bestScore
  · rw [if_pos lower]
    refine iff_of_false nofun fun both => ?_
    rw [both.1] at lower
    exact UInt64.lt_irrefl _ lower
  · have same : score = bestScore :=
      UInt64.le_antisymm (UInt64.not_lt.mp higher) (UInt64.not_lt.mp lower)
    rw [if_neg lower, and_iff_right same, decide_eq_true_iff]
    exact distances _ _

variable {sampling : Sampling}

theorem Best.record {initial : Int} {visits : List Visit} (begun : sampling.haveBest = true)
    (best : Best initial visits ⟨sampling.bestPosition, sampling.bestScore⟩) (visit : Visit) :
    (sampling.record initial visit.position visit.score).haveBest = true ∧
      Best initial (visits ++ [visit])
        ⟨(sampling.record initial visit.position visit.score).bestPosition,
          (sampling.record initial visit.position visit.score).bestScore⟩ := by
  obtain ⟨member, highest⟩ := best
  have isBetter := better_iff visit.score visit.position sampling.bestScore sampling.bestPosition
    initial
  unfold Sampling.record
  rw [begun]
  by_cases wins : better visit.score visit.position sampling.bestScore sampling.bestPosition
    initial true = true
  · rw [if_pos wins]
    refine ⟨rfl, mem_append_right _ mem_cons_self, fun other isOther => ?_⟩
    rcases mem_append.mp isOther with before | isVisit
    · have compared := highest other before
      have beats := isBetter.mp wins
      simp only [UInt64.lt_iff_toNat_lt, ← UInt64.toNat_inj] at compared beats ⊢
      omega
    · obtain rfl := mem_singleton.mp isVisit
      exact .inr ⟨rfl, le_rfl⟩
  · rw [if_neg wins]
    refine ⟨rfl, mem_append_left _ member, fun other isOther => ?_⟩
    rcases mem_append.mp isOther with before | isVisit
    · exact highest other before
    · obtain rfl := mem_singleton.mp isVisit
      have loses := mt isBetter.mpr wins
      simp only [UInt64.lt_iff_toNat_lt, ← UInt64.toNat_inj] at loses ⊢
      omega

theorem Best.recordAll {initial : Int} (visits : List Visit) {before : List Visit}
    {sampling : Sampling} (begun : sampling.haveBest = true)
    (best : Best initial before ⟨sampling.bestPosition, sampling.bestScore⟩) :
    Best initial (before ++ visits)
      ⟨(recordAll initial visits sampling).bestPosition,
        (recordAll initial visits sampling).bestScore⟩ := by
  induction visits generalizing before sampling with
  | nil =>
    rw [append_nil]
    exact best
  | cons visit rest hypothesis =>
    obtain ⟨still, next⟩ := best.record begun visit
    rw [append_cons]
    exact hypothesis still next

theorem best_recordAll {initial : Int} {visits : List Visit} (some : visits ≠ [])
    {sampling : Sampling} (fresh : sampling.haveBest = false) :
    Best initial visits
      ⟨(recordAll initial visits sampling).bestPosition,
        (recordAll initial visits sampling).bestScore⟩ := by
  cases visits with
  | nil => exact absurd rfl some
  | cons visit rest =>
    have first : sampling.record initial visit.position visit.score =
        { bestScore := visit.score
          bestPosition := visit.position
          haveBest := true
          samples := sampling.samples + 1 } := by
      have isBetter : better visit.score visit.position sampling.bestScore sampling.bestPosition
          initial false = true := if_pos (.inl rfl)
      unfold Sampling.record
      rw [fresh, if_pos isBetter]
    have alone : Best initial [visit] ⟨visit.position, visit.score⟩ := by
      refine ⟨mem_cons_self, fun other isVisit => ?_⟩
      obtain rfl := mem_singleton.mp isVisit
      exact .inr ⟨rfl, le_rfl⟩
    have all := @Best.recordAll initial rest [visit]
      (sampling.record initial visit.position visit.score) (by rw [first]) (by rwa [first])
    exact all

theorem samples_recordAll (initial : Int) (visits : List Visit) (sampling : Sampling) :
    (recordAll initial visits sampling).samples =
      sampling.samples + UInt32.ofNat visits.length := by
  induction visits generalizing sampling with
  | nil => exact (UInt32.add_zero _).symm
  | cons visit rest hypothesis =>
    have counted : (sampling.record initial visit.position visit.score).samples =
        sampling.samples + 1 := by
      unfold Sampling.record
      split <;> rfl
    show (recordAll initial rest (sampling.record initial visit.position visit.score)).samples = _
    rw [hypothesis, counted, length_cons, Nat.add_comm, UInt32.ofNat_add, UInt32.add_assoc]
    rfl

/-! ### The positions -/

/-- What the search checks of its arguments. -/
structure Arguments.Ordered (arguments : Arguments) : Prop where
  first : arguments.minimum ≤ arguments.initial
  second : arguments.initial ≤ arguments.maximum
  positive : 0 < arguments.coarseStep
  low : intMin ≤ arguments.minimum
  high : arguments.maximum ≤ intMax

variable {arguments : Arguments}

theorem Arguments.Accepted.ordered (accepted : arguments.Accepted) : arguments.Ordered := by
  unfold Arguments.Accepted at accepted
  have low := (arguments.ints arguments.minimum (by simp)).1
  have high := (arguments.ints arguments.maximum (by simp)).2
  exact ⟨by omega, by omega, by omega, low, high⟩

/-- How many steps from the minimum stay below the maximum. -/
def Arguments.steps (arguments : Arguments) : Nat :=
  ((arguments.maximum - arguments.minimum).toNat + arguments.coarseStep - 1) /
    arguments.coarseStep

theorem Arguments.Ordered.steps_spec (ordered : arguments.Ordered) :
    (∀ index < arguments.steps,
        arguments.minimum + arguments.coarseStep * (index : Int) < arguments.maximum) ∧
      arguments.maximum ≤ arguments.minimum + arguments.coarseStep * (arguments.steps : Int) := by
  have first := ordered.first
  have second := ordered.second
  have positive := ordered.positive
  obtain ⟨distance, isDistance⟩ : ∃ distance : Nat,
      arguments.maximum = arguments.minimum + distance :=
    ⟨(arguments.maximum - arguments.minimum).toNat, by omega⟩
  have steps : arguments.steps = (distance + arguments.coarseStep - 1) / arguments.coarseStep := by
    unfold Arguments.steps
    rw [isDistance, add_sub_cancel_left, Int.toNat_natCast]
  rw [isDistance, steps]
  constructor
  · intro index inside
    have bound := (Nat.le_div_iff_mul_le positive).mp inside
    rw [Nat.succ_mul, mul_comm] at bound
    have below : arguments.coarseStep * index < distance := by omega
    exact Int.add_lt_add_left (by exact_mod_cast below) _
  · have whole := Nat.div_add_mod (distance + arguments.coarseStep - 1) arguments.coarseStep
    have rest := Nat.mod_lt (distance + arguments.coarseStep - 1) positive
    have reaches : distance ≤ arguments.coarseStep *
        ((distance + arguments.coarseStep - 1) / arguments.coarseStep) := by omega
    exact Int.add_le_add_left (by exact_mod_cast reaches) _

theorem Arguments.Ordered.steps_le (ordered : arguments.Ordered) :
    arguments.steps ≤ (arguments.maximum - arguments.minimum).toNat := by
  by_contra more
  have inside := ordered.steps_spec.1 _ (Nat.lt_of_not_le more)
  have positive := ordered.positive
  have grows : (arguments.maximum - arguments.minimum).toNat ≤
      arguments.coarseStep * (arguments.maximum - arguments.minimum).toNat :=
    Nat.le_mul_of_pos_left _ positive
  have product : ((arguments.maximum - arguments.minimum).toNat : Int) ≤
      arguments.coarseStep * ((arguments.maximum - arguments.minimum).toNat : Int) := by
    exact_mod_cast grows
  omega

theorem mem_coarsePositions (ordered : arguments.Ordered) {position : Int}
    (member : position ∈ coarsePositions arguments) :
    arguments.minimum ≤ position ∧ position ≤ arguments.maximum := by
  have first := ordered.first
  have second := ordered.second
  rcases mem_append.mp member with steps | last
  · obtain ⟨index, inside, rfl⟩ := mem_map.mp steps
    have below := ordered.steps_spec.1 index (mem_range.mp inside)
    have positive : 0 ≤ (arguments.coarseStep : Int) * (index : Int) :=
      Int.mul_nonneg (Int.natCast_nonneg _) (Int.natCast_nonneg _)
    omega
  · obtain rfl := mem_singleton.mp last
    omega

/-! ### The search with room -/

/-- The fuel that lasts for either pass. -/
def Arguments.fuel (arguments : Arguments) : Nat :=
  (arguments.maximum - arguments.minimum).toNat + 2

theorem coarsePass_positions (ordered : arguments.Ordered)
    (range : arguments.maximum - arguments.minimum ≤ intMax) (ops : Ops World) {fuel : Nat}
    (enough : arguments.fuel ≤ fuel) (lens : Lens World) (sampling : Sampling) :
    coarsePass ops arguments.maximum arguments.initial arguments.coarseStep fuel lens
        arguments.minimum sampling =
      some (passEnd
        (sampleAll ops arguments.initial (coarsePositions arguments) lens sampling)) := by
  have positive : (0 : Int) < arguments.coarseStep := by exact_mod_cast ordered.positive
  have steps := ordered.steps_le
  unfold Arguments.fuel at enough
  exact coarsePass_eq ops positive ordered.high arguments.steps ordered.low
    (ordered.first.trans ordered.second) range ordered.steps_spec.1 ordered.steps_spec.2 (by omega)
    lens sampling

theorem finePass_positions {low high initial : Int} (inInt : intMin ≤ low)
    (room : high < intMax) (some : low ≤ high) {fuel : Nat}
    (enough : (high - low).toNat + 1 < fuel) (lens : Lens World) (sampling : Sampling) :
    finePass ops high initial fuel lens low sampling =
      .some (passEnd (sampleAll ops initial (positionsFrom low high) lens sampling)) := by
  exact finePass_eq ops room _ inInt (by omega) (by omega) lens sampling

section

variable (ordered : arguments.Ordered)

include ordered

theorem visits_few (room : arguments.Room) (best : Int) :
    (coarsePositions arguments).length + (finePositions arguments best).length < 4294967296 := by
  have range := room.range
  unfold intMax at range
  have positive := ordered.positive
  have steps := ordered.steps_le
  have coarse : (coarsePositions arguments).length = arguments.steps + 1 := by
    simp only [coarsePositions, length_append, length_map, length_range, length_singleton]
    rfl
  have fine : (finePositions arguments best).length =
      (min arguments.maximum (best + arguments.coarseStep) -
        max arguments.minimum (best - arguments.coarseStep) + 1).toNat := by
    simp only [finePositions, positionsFrom, length_map, length_range]
  rw [coarse, fine]
  by_cases single : arguments.coarseStep = 1
  · omega
  by_cases none : arguments.steps = 0
  · omega
  -- half of the positions at most are sampled by the coarse pass
  have last := ordered.steps_spec.1 (arguments.steps - 1) (by omega)
  have double : 2 * ((arguments.steps - 1 : Nat) : Int) ≤
      arguments.coarseStep * ((arguments.steps - 1 : Nat) : Int) :=
    Int.mul_le_mul_of_nonneg_right (by omega) (Int.natCast_nonneg _)
  omega

omit ordered in
theorem finePositions_ne_nil {best : Int}
    (low : arguments.minimum ≤ best) (high : best ≤ arguments.maximum) :
    finePositions arguments best ≠ [] := by
  intro none
  have count := congrArg length none
  simp only [finePositions, positionsFrom, length_map, length_range, length_nil] at count
  omega

theorem refine_eq (room : arguments.Room) (ops : Ops World)
    (inside : arguments.minimum ≤ sampling.bestPosition)
    (within : sampling.bestPosition ≤ arguments.maximum) {fuel : Nat}
    (enough : arguments.fuel ≤ fuel) (lens : Lens World) :
    refine ops arguments fuel lens sampling =
      some (finish ops arguments (passEnd (sampleAll ops arguments.initial
        (finePositions arguments sampling.bestPosition) lens
        { sampling with haveBest := false }))) := by
  have positive := ordered.positive
  have first := ordered.low
  have last := ordered.high
  have below := room.below
  have above := room.above
  have low : checked (sampling.bestPosition - arguments.coarseStep) =
      some (sampling.bestPosition - arguments.coarseStep) :=
    checked_eq_some (by omega) (by omega)
  have high : checked (sampling.bestPosition + arguments.coarseStep) =
      some (sampling.bestPosition + arguments.coarseStep) :=
    checked_eq_some (by omega) (by omega)
  have refineMin : (if sampling.bestPosition - arguments.coarseStep < arguments.minimum then
      arguments.minimum else sampling.bestPosition - arguments.coarseStep) =
        max arguments.minimum (sampling.bestPosition - arguments.coarseStep) := by
    split <;> omega
  have refineMax : (if arguments.maximum < sampling.bestPosition + arguments.coarseStep then
      arguments.maximum else sampling.bestPosition + arguments.coarseStep) =
        min arguments.maximum (sampling.bestPosition + arguments.coarseStep) := by
    split <;> omega
  unfold Arguments.fuel at enough
  unfold refine
  simp only [low, high, refineMin, refineMax]
  rw [finePass_positions ops (by omega) (by omega) (by omega) (by omega)]
  rfl

/-- What is concluded from the fine pass. -/
theorem finish_correct (room : arguments.Room) (ops : Ops World)
    {coarse : List Visit} (whole : coarse.map Visit.position = coarsePositions arguments)
    (counted : sampling.samples = UInt32.ofNat coarse.length)
    (isBest : Best arguments.initial coarse ⟨sampling.bestPosition, sampling.bestScore⟩)
    (world : World) :
    Correct arguments
      (finish ops arguments (passEnd (sampleAll ops arguments.initial
        (finePositions arguments sampling.bestPosition) { world, events := visited coarse }
        { sampling with haveBest := false }))).1.events
      (finish ops arguments (passEnd (sampleAll ops arguments.initial
        (finePositions arguments sampling.bestPosition) { world, events := visited coarse }
        { sampling with haveBest := false }))).2 := by
  have inside := mem_coarsePositions ordered (whole ▸ mem_map_of_mem isBest.1)
  obtain ⟨fine, final, all, sampled⟩ |
      ⟨visits, position, rest, failure, final, some, fails, sampled⟩ :=
    sampleAll_cases ops arguments.initial (finePositions arguments sampling.bestPosition)
      { world, events := visited coarse } { sampling with haveBest := false }
  · have nonempty : fine ≠ [] := by
      rintro rfl
      exact finePositions_ne_nil inside.1 inside.2 all.symm
    have found := @best_recordAll arguments.initial fine nonempty
      { sampling with haveBest := false } rfl
    have samples := samples_recordAll arguments.initial fine { sampling with haveBest := false }
    obtain ⟨last, isLast⟩ : ∃ last, last = recordAll arguments.initial fine
      { sampling with haveBest := false } := ⟨_, rfl⟩
    rw [← isLast] at sampled found samples
    obtain ⟨lens, isLens⟩ : ∃ lens : Lens World, lens =
      { world := final, events := visited coarse ++ visited fine } := ⟨_, rfl⟩
    have calls : (lens.move ops last.bestPosition).1.events = visited coarse ++ visited fine ++
        [.moved last.bestPosition (lens.move ops last.bestPosition).2] := by
      rw [isLens]
      rfl
    rw [sampled, ← isLens]
    dsimp only [passEnd, finish]
    by_cases moves : (lens.move ops last.bestPosition).2 = false
    · rw [if_pos moves]
      rw [moves] at calls
      exact ⟨_, _, .last whole isBest all found, congrArg (· ++ [_]) calls⟩
    · rw [if_neg moves]
      rw [(Bool.not_eq_false _).mp moves] at calls
      have few := visits_few ordered room sampling.bestPosition
      rw [← whole, ← all, length_map, length_map] at few
      refine ⟨coarse, fine, _, _, calls, whole, isBest, all, found, rfl, rfl, ?_⟩
      rw [samples, counted, ← UInt32.ofNat_add, UInt32.toNat_ofNat_of_lt' few]
  · rw [sampled]
    exact ⟨_, _, .fine whole isBest some fails, congrArg (· ++ [_]) (append_assoc _ _ _).symm⟩

end

theorem search_correct (accepted : arguments.Accepted) (room : arguments.Room) (ops : Ops World)
    (world : World) : Meets arguments ops world := by
  have ordered := accepted.ordered
  have coarse (fuel : Nat) (enough : arguments.fuel ≤ fuel) :=
    coarsePass_positions ordered room.range ops enough { world, events := [] }
      { bestScore := 0, bestPosition := arguments.initial, haveBest := false, samples := 0 }
  unfold Meets search
  simp only [if_pos accepted]
  obtain ⟨visits, final, whole, sampled⟩ |
      ⟨visits, position, rest, failure, final, some, fails, sampled⟩ :=
    sampleAll_cases ops arguments.initial (coarsePositions arguments) { world, events := [] }
      { bestScore := 0, bestPosition := arguments.initial, haveBest := false, samples := 0 }
  · have nonempty : visits ≠ [] := by
      rintro rfl
      exact append_ne_nil_of_right_ne_nil _ (cons_ne_nil _ _) whole.symm
    have isBest := @best_recordAll arguments.initial visits nonempty
      { bestScore := 0, bestPosition := arguments.initial, haveBest := false, samples := 0 } rfl
    have samples := samples_recordAll arguments.initial visits
      { bestScore := 0, bestPosition := arguments.initial, haveBest := false, samples := 0 }
    obtain ⟨sampling, isSampling⟩ : ∃ sampling, sampling = recordAll arguments.initial visits
      { bestScore := 0, bestPosition := arguments.initial, haveBest := false, samples := 0 } :=
      ⟨_, rfl⟩
    rw [← isSampling] at sampled isBest samples
    have inside := mem_coarsePositions ordered (whole ▸ mem_map_of_mem isBest.1)
    refine ⟨_, _, ⟨arguments.fuel, fun fuel enough => ?_⟩,
      finish_correct ordered room ops whole (samples.trans (UInt32.zero_add _)) isBest final⟩
    rw [coarse fuel enough, sampled]
    exact refine_eq ordered room ops inside.1 inside.2 enough _
  · refine ⟨(giveUp ops arguments { world := final, events := visited visits ++ failure }).1,
      .failed, ⟨arguments.fuel, fun fuel enough => ?_⟩, _, _, .coarse some fails, rfl⟩
    rw [coarse fuel enough, sampled]
    rfl

/-! ### Without room -/

/-- A lens that moves, and has a score at every position. -/
def scored (score : Int → UInt64) : Ops Int where
  move := fun _ position => (position, true)
  measure := fun position => (position, some (score position))

theorem samplePosition_scored (score : Int → UInt64) (lens : Lens Int) (position initial : Int)
    (sampling : Sampling) :
    samplePosition (scored score) lens position initial sampling =
      ({ world := position
         events := lens.events ++ [.moved position true] ++ [.measured (some (score position))] },
        some (sampling.record initial position (score position))) := rfl

theorem sampleAll_scored (score : Int → UInt64) (initial : Int) (positions : List Int)
    (lens : Lens Int) (sampling : Sampling) :
    (sampleAll (scored score) initial positions lens sampling).2 =
      some (recordAll initial (positions.map fun position => ⟨position, score position⟩)
        sampling) := by
  induction positions generalizing lens sampling with
  | nil => rfl
  | cons position rest hypothesis => exact hypothesis _ _

theorem not_meets {ops : Ops World} {world : World} {least : Nat}
    (overflows : ∀ fuel ≥ least, ∃ lens, search ops arguments fuel world = some (lens, .overflow)) :
    ¬ Meets arguments ops world := by
  rintro ⟨lens, outcome, ⟨enough, ends⟩, correct⟩
  obtain ⟨other, same⟩ := overflows (max least enough) (Nat.le_max_left _ _)
  rw [ends (max least enough) (Nat.le_max_right _ _)] at same
  obtain rfl : outcome = .overflow := congrArg Prod.snd (Option.some.inj same)
  exact correct

theorem overflows_of_range (accepted : arguments.Accepted)
    (large : intMax < arguments.maximum - arguments.minimum) (score : Int → UInt64) :
    ∀ fuel ≥ 1, ∃ lens, search (scored score) arguments fuel 0 = some (lens, .overflow) := by
  intro fuel some
  obtain ⟨fuel, rfl⟩ : ∃ less, fuel = less + 1 := ⟨fuel - 1, by omega⟩
  have apart : arguments.minimum ≠ arguments.maximum := by
    unfold intMax at large
    omega
  have overflow : checked (arguments.maximum - arguments.minimum) = none :=
    if_neg fun both => by omega
  refine ⟨{ world := arguments.minimum
            events := visited [⟨arguments.minimum, score arguments.minimum⟩] }, ?_⟩
  unfold search
  rw [if_pos accepted, coarsePass, samplePosition_scored]
  dsimp only
  rw [if_neg apart, overflow]
  rfl

theorem best_of_goal {initial goal : Int} {positions : List Int} (member : goal ∈ positions)
    {sampling : Sampling} (fresh : sampling.haveBest = false) :
    (recordAll initial (positions.map fun position => ⟨position, if position = goal then 1 else 0⟩)
      sampling).bestPosition = goal := by
  have nonempty : (positions.map fun position =>
      (⟨position, if position = goal then 1 else 0⟩ : Visit)) ≠ [] :=
    ne_nil_of_mem (mem_map_of_mem member)
  obtain ⟨isVisit, highest⟩ := @best_recordAll initial _ nonempty sampling fresh
  obtain ⟨position, -, same⟩ := mem_map.mp isVisit
  obtain ⟨isPosition, isScore⟩ := Visit.mk.inj same
  have compared := highest _ (mem_map_of_mem member)
  dsimp only at compared
  rw [← isPosition]
  by_contra other
  rw [if_neg other] at isScore
  rw [if_pos rfl, ← isScore] at compared
  rcases compared with higher | ⟨higher, -⟩ <;> exact absurd higher (by decide)

theorem refine_overflow {ops : Ops World} {fuel : Nat} {lens : Lens World}
    (none : checked (sampling.bestPosition - arguments.coarseStep) = none ∨
      checked (sampling.bestPosition + arguments.coarseStep) = none) :
    refine ops arguments fuel lens sampling = some (lens, .overflow) := by
  unfold refine
  rcases none with low | high
  · rw [low]
  · rw [high]
    cases checked (sampling.bestPosition - arguments.coarseStep) <;> rfl

theorem overflows_of_goal (accepted : arguments.Accepted)
    (range : arguments.maximum - arguments.minimum ≤ intMax) {goal : Int}
    (member : goal ∈ coarsePositions arguments)
    (none : checked (goal - arguments.coarseStep) = none ∨
      checked (goal + arguments.coarseStep) = none) : ∀ fuel ≥ arguments.fuel, ∃ lens,
      search (scored fun position => if position = goal then 1 else 0) arguments fuel 0 =
        some (lens, .overflow) := by
  intro fuel enough
  have coarse := coarsePass_positions accepted.ordered range
    (scored fun position => if position = goal then 1 else 0) enough { world := 0, events := [] }
    { bestScore := 0, bestPosition := arguments.initial, haveBest := false, samples := 0 }
  have all := sampleAll_scored (fun position => if position = goal then 1 else 0)
    arguments.initial (coarsePositions arguments) { world := 0, events := [] }
    { bestScore := 0, bestPosition := arguments.initial, haveBest := false, samples := 0 }
  have best := @best_of_goal arguments.initial goal _ member
    { bestScore := 0, bestPosition := arguments.initial, haveBest := false, samples := 0 } rfl
  unfold search
  rw [if_pos accepted, coarse, passEnd, all]
  refine ⟨_, refine_overflow ?_⟩
  rw [best]
  exact none

theorem minimum_mem (ordered : arguments.Ordered) :
    arguments.minimum ∈ coarsePositions arguments := by
  unfold coarsePositions
  by_cases none : arguments.steps = 0
  · have reaches := ordered.steps_spec.2
    have first := ordered.first
    have second := ordered.second
    rw [none] at reaches
    refine mem_append_right _ (mem_singleton.mpr ?_)
    simp only [Nat.cast_zero, mul_zero, add_zero] at reaches
    omega
  · refine mem_append_left _ (mem_map.mpr ⟨0, mem_range.mpr ?_, by simp⟩)
    exact Nat.pos_of_ne_zero none

/-- For all operations and whatever they do, exactly when there is room. -/
theorem search_meets_iff (accepted : arguments.Accepted) :
    (∀ (World : Type) (ops : Ops World) (world : World), Meets arguments ops world) ↔
      arguments.Room := by
  constructor
  · intro meets
    have ordered := accepted.ordered
    have range : arguments.maximum - arguments.minimum ≤ intMax := by
      by_contra large
      exact not_meets (overflows_of_range accepted (by omega) fun _ => 0) (meets Int _ 0)
    have room {goal : Int} (member : goal ∈ coarsePositions arguments) :
        intMin ≤ goal - arguments.coarseStep ∧ goal + arguments.coarseStep ≤ intMax := by
      by_contra outside
      refine not_meets (overflows_of_goal accepted range member ?_) (meets Int _ 0)
      rcases not_and_or.mp outside with low | high
      · exact .inl (if_neg fun both => low both.1)
      · exact .inr (if_neg fun both => high both.2)
    exact ⟨range, (room (minimum_mem ordered)).1,
      (room (List.mem_append_right _ List.mem_cons_self)).2⟩
  · exact fun room _ ops world => search_correct accepted room ops world

def lensRange : Arguments where
  minimum := 59
  maximum := 68
  initial := 62
  coarseStep := 3
  ints := by decide
  unsigned := by decide

theorem search_meets_iff_lens :
    (∀ (World : Type) (ops : Ops World) (world : World), Meets lensRange ops world) ↔
      lensRange.Room :=
  search_meets_iff (by decide)

/-- Every position that there is. -/
def wholeRange : Arguments where
  minimum := -2147483648
  maximum := 2147483647
  initial := 0
  coarseStep := 1
  ints := by decide
  unsigned := by decide

/-- The difference of the ends of the range overflows. -/
theorem wholeRange_overflows :
    wholeRange.Accepted ∧
      search (scored fun _ => 0) wholeRange 1 0 =
        some ({ world := -2147483648
                events := [.moved (-2147483648) true, .measured (some 0)] }, .overflow) ∧
      ¬ Meets wholeRange (scored fun _ => 0) 0 := by
  have accepted : wholeRange.Accepted := by decide
  exact ⟨accepted, rfl, not_meets (overflows_of_range accepted (by decide) fun _ => 0)⟩

end Autofocus
