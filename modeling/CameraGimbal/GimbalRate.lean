/-
This file inverts the measured rates of a gimbal: of the commands that the gimbal takes, the one
whose rate on the curve is nearest to what was asked for. Numbers are rational and exact here. A
curve is a list in which commands and rates take turns; a read outside of it and a division by zero
are failures.
-/

import Mathlib.Algebra.Order.Field.Basic
import Mathlib.Tactic.Linarith

/-! ### Lines through points -/

namespace Interpolation

section General

variable {Number : Type*} [Field Number] [LinearOrder Number]

/-- The value at a place of the line through two points. -/
def line (first second : Number × Number) (place : Number) : Number :=
  first.2 + (place - first.1) / (second.1 - first.1) * (second.2 - first.2)

/-- The value at a place of the lines through points: the last line goes on behind the points, and
the first one before them. -/
def interpolate : List (Number × Number) → Number → Number
  | first :: second :: third :: rest, place =>
    if place ≤ second.1 then line first second place
    else interpolate (second :: third :: rest) place
  | [first, second], place => line first second place
  | [first], _ => first.2
  | [], _ => 0

variable {first second : Number × Number} {rest : List (Number × Number)} {place : Number}

theorem interpolate_here (here : rest = [] ∨ place ≤ second.1) :
    interpolate (first :: second :: rest) place = line first second place := by
  cases rest with
  | nil => rfl
  | cons third rest =>
    rcases here with empty | inside
    · cases empty
    · exact if_pos inside

theorem interpolate_behind (more : rest ≠ []) (behind : second.1 < place) :
    interpolate (first :: second :: rest) place = interpolate (second :: rest) place := by
  cases rest with
  | nil => exact absurd rfl more
  | cons third rest => exact if_neg (not_le.mpr behind)

theorem nearest_mono [IsStrictOrderedRing Number] {small large first second : Number}
    (order : small < large) (one : |small - first| ≤ |small - second|)
    (two : |large - second| ≤ |large - first|) : first ≤ second := by
  by_contra above
  rcases abs_cases (small - first) with ⟨firstAbs, _⟩ | ⟨firstAbs, _⟩ <;>
    rcases abs_cases (small - second) with ⟨secondAbs, _⟩ | ⟨secondAbs, _⟩ <;>
    rcases abs_cases (large - second) with ⟨thirdAbs, _⟩ | ⟨thirdAbs, _⟩ <;>
    rcases abs_cases (large - first) with ⟨fourthAbs, _⟩ | ⟨fourthAbs, _⟩ <;>
    linarith

end General

end Interpolation

namespace GimbalRate

open Interpolation List

/-! ### The search -/

/-- Go on to the part of the curve that has the command. -/
def advance (curve : List Rat) (command : Int) (segment : Nat) : Option Nat :=
  if segment + 4 < curve.length then
    match curve[segment + 2]? with
    | none => none
    | some next => if next < command then advance curve command (segment + 2) else some segment
  else some segment
termination_by curve.length - segment

/-- The rate of a command between the points of a part of the curve. -/
def segmentRate (curve : List Rat) (command : Int) (segment : Nat) : Option Rat := do
  let low ← curve[segment]?
  let high ← curve[segment + 2]?
  if high - low = 0 then none
  else
    let fraction := (command - low) / (high - low)
    let lowRate ← curve[segment + 1]?
    let highRate ← curve[segment + 3]?
    some (lowRate + fraction * (highRate - lowRate))

/-- What the search has so far. -/
structure Search where
  best : Int
  bestError : Rat
  segment : Nat

/-- One turn of the loop. -/
def consider (request : Rat) (curve : List Rat) (search : Search) (command : Int) :
    Option Search := do
  let segment ← advance curve command search.segment
  let rate ← segmentRate curve command segment
  let error := |request - rate|
  if error < search.bestError then some ⟨command, error, segment⟩
  else some { search with segment := segment }

/-- The commands in the order of the loop. -/
def commands : List Int := (List.range 201).map fun index : Nat => (index : Int) - 100

/-- `ca_gimbal_rate_command`. -/
def gimbalRateCommand (request : Rat) (curve : List Rat) : Option Int :=
  (commands.foldlM (consider request curve) ⟨0, |request|, 0⟩).map Search.best

/-! ### Curves -/

/-- The list of a curve. -/
def entriesOf (points : List (Rat × Rat)) : List Rat :=
  points.flatMap fun point => [point.1, point.2]

/-- A curve: at least two points in the order of their commands, which are all that the gimbal
takes, with rates in order and no rate for no command. -/
structure Curve where
  points : List (Rat × Rat)
  two : 2 ≤ points.length
  increasing : points.Pairwise fun first second => first.1 < second.1
  rising : points.Pairwise fun first second => first.2 ≤ second.2
  least : ∀ point ∈ points.head?, point.1 ≤ -100
  most : ∀ point ∈ points.getLast?, 100 ≤ point.1
  still : interpolate points 0 = 0

/-- The list that the program has. -/
def Curve.entries (curve : Curve) : List Rat := entriesOf curve.points

def Curve.rate (curve : Curve) (command : Int) : Rat := interpolate curve.points command

theorem entriesOf_length (points : List (Rat × Rat)) :
    (entriesOf points).length = 2 * points.length := by
  induction points with
  | nil => rfl
  | cons point rest hypothesis =>
    have cons : entriesOf (point :: rest) = point.1 :: point.2 :: entriesOf rest := rfl
    rw [cons, length_cons, length_cons, hypothesis, length_cons]
    omega

theorem entriesOf_append (front back : List (Rat × Rat)) :
    entriesOf (front ++ back) = entriesOf front ++ entriesOf back :=
  flatMap_append

theorem entriesOf_read (front back : List (Rat × Rat)) (index : Nat) :
    (entriesOf (front ++ back))[2 * front.length + index]? = (entriesOf back)[index]? := by
  rw [entriesOf_append, ← entriesOf_length, getElem?_append_right (Nat.le_add_right _ _),
    Nat.add_sub_cancel_left]

/-- A part of the curve from which on it has the rates of the command and all larger ones. -/
structure Part (points front : List (Rat × Rat)) (first second : Rat × Rat)
    (rest : List (Rat × Rat)) (command : Int) : Prop where
  split : points = front ++ first :: second :: rest
  same : ∀ place : Rat, command ≤ place →
    interpolate (first :: second :: rest) place = interpolate points place

/-- The search is at a part from which on the curve has the rates of the command. -/
def At (points : List (Rat × Rat)) (command : Int) (segment : Nat) : Prop :=
  ∃ front first second rest, Part points front first second rest command ∧
    segment = 2 * front.length

theorem At.later {points : List (Rat × Rat)} {command later : Int} {segment : Nat}
    (isAt : At points command segment) (order : command ≤ later) : At points later segment := by
  obtain ⟨front, first, second, rest, part, isSegment⟩ := isAt
  refine ⟨front, first, second, rest, ⟨part.split, fun place behind => ?_⟩, isSegment⟩
  exact part.same place ((Int.cast_le.mpr order).trans behind)

section Part

variable {points front rest : List (Rat × Rat)} {first second : Rat × Rat} {command : Int}

theorem Part.segmentRate (part : Part points front first second rest command)
    (increasing : points.Pairwise fun first second => first.1 < second.1)
    (here : rest = [] ∨ (command : Rat) ≤ second.1) :
    GimbalRate.segmentRate (entriesOf points) command (2 * front.length) =
      some (interpolate points command) := by
  have read : ∀ index, (entriesOf points)[2 * front.length + index]? =
      (first.1 :: first.2 :: second.1 :: second.2 :: entriesOf rest)[index]? := by
    intro index
    rw [part.split]
    exact entriesOf_read front (first :: second :: rest) index
  have order : first.1 < second.1 := by
    rw [part.split] at increasing
    exact (pairwise_cons.mp (pairwise_append.mp increasing).2.1).1 second mem_cons_self
  have apart : second.1 - first.1 ≠ 0 := by linarith
  have low := read 0
  rw [add_zero] at low
  rw [← part.same command le_rfl, interpolate_here here, GimbalRate.segmentRate, low, read 1,
    read 2, read 3]
  simp only [Option.bind_eq_bind, getElem?_cons_zero, getElem?_cons_succ,
    Option.bind_some, if_neg apart, line]

theorem Part.next {third : Rat × Rat}
    (part : Part points front first second (third :: rest) command)
    (behind : second.1 < (command : Rat)) :
    Part points (front ++ [first]) second third rest command := by
  refine ⟨?_, fun place larger => ?_⟩
  · rw [part.split, append_assoc]
    rfl
  · rw [← part.same place larger, interpolate_behind (cons_ne_nil _ _) (behind.trans_le larger)]

end Part

theorem advance_at {points : List (Rat × Rat)}
    (increasing : points.Pairwise fun first second => first.1 < second.1) {command : Int}
    {segment : Nat} (isAt : At points command segment) :
    ∃ next, advance (entriesOf points) command segment = some next ∧ At points command next ∧
      segmentRate (entriesOf points) command next = some (interpolate points command) := by
  obtain ⟨front, first, second, rest, part, rfl⟩ := isAt
  induction rest generalizing front first second with
  | nil =>
    refine ⟨2 * front.length, ?_, ⟨front, first, second, [], part, rfl⟩,
      part.segmentRate increasing (.inl rfl)⟩
    rw [advance, if_neg]
    rw [entriesOf_length, part.split, length_append]
    simp only [length_cons, length_nil]
    omega
  | cons third rest hypothesis =>
    have more : 2 * front.length + 4 < (entriesOf points).length := by
      rw [entriesOf_length, part.split, length_append]
      simp only [length_cons]
      omega
    have read : (entriesOf points)[2 * front.length + 2]? = some second.1 := by
      rw [part.split]
      exact entriesOf_read front (first :: second :: third :: rest) 2
    rw [advance, if_pos more, read]
    dsimp only
    by_cases behind : second.1 < (command : Rat)
    · obtain ⟨next, advanced, isAt, rate⟩ := hypothesis _ _ _ (part.next behind)
      rw [length_append] at advanced
      rw [if_pos behind]
      exact ⟨next, advanced, isAt, rate⟩
    · rw [if_neg behind]
      exact ⟨_, rfl, ⟨front, first, second, third :: rest, part, rfl⟩,
        part.segmentRate increasing (.inr (not_lt.mp behind))⟩

/-! ### What the search finds -/

/-- The best of the commands that the search was at, and of no command. -/
structure Found (curve : Curve) (request : Rat) (seen : List Int) (search : Search) : Prop where
  error : search.bestError = |request - curve.rate search.best|
  member : search.best = 0 ∨ search.best ∈ seen
  still : search.best = 0 ∨ search.bestError < |request - curve.rate 0|
  nearest : ∀ other ∈ seen, search.bestError ≤ |request - curve.rate other|
  place : ∀ later, (∀ other ∈ seen, other ≤ later) → At curve.points later search.segment

section Search

variable {curve : Curve} {request : Rat}

theorem found_begin (curve : Curve) (request : Rat) : Found curve request [] ⟨0, |request|, 0⟩ := by
  have still : curve.rate 0 = 0 := by
    rw [Curve.rate, Int.cast_zero, curve.still]
  refine ⟨?_, .inl rfl, .inl rfl, nofun, fun later _ => ?_⟩
  · rw [still, sub_zero]
  · obtain ⟨first, second, rest, isPoints⟩ : ∃ first second rest,
        curve.points = first :: second :: rest := by
      match isPoints : curve.points, curve.two with
      | first :: second :: rest, _ => exact ⟨first, second, rest, rfl⟩
    exact ⟨[], first, second, rest, ⟨isPoints, fun place _ => by rw [isPoints]⟩, rfl⟩

theorem consider_found {seen : List Int} {search : Search}
    (found : Found curve request seen search) {command : Int}
    (order : ∀ other ∈ seen, other ≤ command) :
    ∃ next, consider request curve.entries search command = some next ∧
      Found curve request (seen ++ [command]) next := by
  obtain ⟨segment, advanced, isAt, rate⟩ := advance_at curve.increasing (found.place command order)
  have place : ∀ later, (∀ other ∈ seen ++ [command], other ≤ later) →
      At curve.points later segment := fun later larger =>
    isAt.later (larger command (mem_append_right seen mem_cons_self))
  have considered : consider request curve.entries search command =
      if |request - curve.rate command| < search.bestError then
        some ⟨command, |request - curve.rate command|, segment⟩
      else some { search with segment := segment } := by
    rw [consider, Curve.entries, advanced, Option.bind_eq_bind, Option.bind_some, rate]
    rfl
  rw [considered]
  by_cases better : |request - curve.rate command| < search.bestError
  · rw [if_pos better]
    refine ⟨_, rfl, rfl, .inr (mem_append_right seen mem_cons_self), .inr ?_,
      fun other member => ?_, place⟩
    · rcases found.still with isStill | below
      · have error := found.error
        rw [isStill] at error
        exact error ▸ better
      · exact better.trans below
    · rcases mem_append.mp member with isSeen | isCommand
      · exact better.le.trans (found.nearest other isSeen)
      · rw [mem_singleton.mp isCommand]
  · rw [if_neg better]
    refine ⟨_, rfl, found.error, found.member.imp_right (mem_append_left _), found.still,
      fun other member => ?_, place⟩
    rcases mem_append.mp member with isSeen | isCommand
    · exact found.nearest other isSeen
    · rw [mem_singleton.mp isCommand]
      exact not_lt.mp better

theorem foldlM_found {rest seen : List Int} {search : Search}
    (found : Found curve request seen search) (order : (seen ++ rest).Pairwise (· ≤ ·)) :
    ∃ last, rest.foldlM (consider request curve.entries) search = some last ∧
      Found curve request (seen ++ rest) last := by
  induction rest generalizing seen search with
  | nil =>
    rw [append_nil]
    exact ⟨search, rfl, found⟩
  | cons command rest hypothesis =>
    obtain ⟨next, considered, nextFound⟩ := consider_found found fun other member =>
      (pairwise_append.mp order).2.2 other member command mem_cons_self
    have split : seen ++ command :: rest = seen ++ [command] ++ rest := by
      rw [append_assoc]
      rfl
    rw [split] at order ⊢
    rw [foldlM_cons, considered]
    exact hypothesis nextFound order

end Search

theorem mem_commands {command : Int} : command ∈ commands ↔ -100 ≤ command ∧ command ≤ 100 := by
  unfold commands
  rw [mem_map]
  constructor
  · rintro ⟨index, member, rfl⟩
    have small := mem_range.mp member
    omega
  · rintro ⟨least, most⟩
    exact ⟨(command + 100).toNat, mem_range.mpr (by omega), by omega⟩

theorem commands_ordered : commands.Pairwise (· ≤ ·) := by
  unfold commands
  rw [pairwise_map]
  refine pairwise_lt_range.imp fun {first second} order => ?_
  omega

/-- The command is one that the gimbal takes, no other one is nearer to the request, and it is no
command if this is as near. -/
structure Best (curve : Curve) (request : Rat) (command : Int) : Prop where
  least : -100 ≤ command
  most : command ≤ 100
  nearest : ∀ other : Int, -100 ≤ other → other ≤ 100 →
    |request - curve.rate command| ≤ |request - curve.rate other|
  still : (∀ other : Int, -100 ≤ other → other ≤ 100 →
    |request - curve.rate 0| ≤ |request - curve.rate other|) → command = 0

theorem gimbalRateCommand_found (curve : Curve) (request : Rat) :
    ∃ command, gimbalRateCommand request curve.entries = some command ∧
      Best curve request command := by
  have ordered : ([] ++ commands).Pairwise (· ≤ ·) := commands_ordered
  obtain ⟨last, searched, found⟩ := foldlM_found (found_begin curve request) ordered
  rw [nil_append] at found
  refine ⟨last.best, by rw [gimbalRateCommand, searched]; rfl, ?_⟩
  have inside : -100 ≤ last.best ∧ last.best ≤ 100 := by
    rcases found.member with isStill | isSeen
    · rw [isStill]
      decide
    · exact mem_commands.mp isSeen
  refine ⟨inside.1, inside.2, fun other least most => ?_, fun nearest => ?_⟩
  · rw [← found.error]
    exact found.nearest other (mem_commands.mpr ⟨least, most⟩)
  · rcases found.still with isStill | below
    · exact isStill
    · rw [found.error] at below
      exact absurd (nearest last.best inside.1 inside.2) (not_le.mpr below)

/-- The best command for every request, and no less rate for a larger request. -/
theorem gimbalRateCommand_best (curve : Curve) (request : Rat) :
    ∃ command, gimbalRateCommand request curve.entries = some command ∧
      Best curve request command ∧
      ∀ larger other, request < larger →
        gimbalRateCommand larger curve.entries = some other →
        curve.rate command ≤ curve.rate other := by
  obtain ⟨command, isCommand, best⟩ := gimbalRateCommand_found curve request
  refine ⟨command, isCommand, best, fun larger other order isOther => ?_⟩
  obtain ⟨found, isFound, otherBest⟩ := gimbalRateCommand_found curve larger
  obtain rfl : found = other := Option.some.inj (isFound.symm.trans isOther)
  exact nearest_mono order (best.nearest found otherBest.least otherBest.most)
    (otherBest.nearest command best.least best.most)

/-- The measured pitch rates of the MT11 in simulation, with a dead zone. -/
def simPitchCurve : Curve where
  points := [(-100, -100), (-6, -6), (-5, 0), (0, 0), (5, 0), (6, 6), (100, 100)]
  two := by decide
  increasing := by decide +kernel
  rising := by decide +kernel
  least := fun point isFirst => by
    rw [← Option.some.inj isFirst]
  most := fun point isLast => by
    have last : point = (100, 100) := (Option.some.inj isLast).symm
    rw [last]
  still := by decide +kernel

/-- Half of the least rate that the dead zone leaves. -/
theorem gimbalRateCommand_best_three :
    ∃ command, gimbalRateCommand 3 simPitchCurve.entries = some command ∧
      Best simPitchCurve 3 command ∧
      ∀ larger other, 3 < larger →
        gimbalRateCommand larger simPitchCurve.entries = some other →
        simPitchCurve.rate command ≤ simPitchCurve.rate other :=
  gimbalRateCommand_best simPitchCurve 3

example : gimbalRateCommand 3 simPitchCurve.entries = some 0 := by decide +kernel

end GimbalRate
