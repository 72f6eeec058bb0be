/-
This file models the search of the autofocus: a coarse pass over the range of the lens, a fine pass
around its best position, and the move to the best position of that. The lens and the measurement
are operations of the caller, which may fail at any call.

Positions are signed integers, and an operation on them that overflows has no value; the search ends
there. The loops take a fuel.
-/

import Mathlib.Data.List.Basic

namespace Autofocus

/-! ### Integers -/

def intMin : Int := -2147483648

def intMax : Int := 2147483647

/-- The value of a signed expression; none when it overflows. -/
def checked (value : Int) : Option Int :=
  if intMin ≤ value ∧ value ≤ intMax then some value else none

/-! ### The operations -/

/-- `struct ca_autofocus_ops`, with what they act on. -/
structure Ops (World : Type) where
  move : World → Int → World × Bool
  measure : World → World × Option UInt64

/-- A call of an operation: the move to a position, and whether it succeeds, or a measurement, and
the score if it does. -/
inductive Event where
  | moved (position : Int) (succeeds : Bool)
  | measured (score : Option UInt64)
  deriving DecidableEq, Repr

/-- What the operations act on, with the calls so far. -/
structure Lens (World : Type) where
  world : World
  events : List Event

variable {World : Type}

def Lens.move (lens : Lens World) (ops : Ops World) (position : Int) : Lens World × Bool :=
  let moved := ops.move lens.world position
  ({ world := moved.1, events := lens.events ++ [.moved position moved.2] }, moved.2)

def Lens.measure (lens : Lens World) (ops : Ops World) : Lens World × Option UInt64 :=
  let measured := ops.measure lens.world
  ({ world := measured.1, events := lens.events ++ [.measured measured.2] }, measured.2)

/-! ### Sampling -/

def better (score : UInt64) (position : Int) (bestScore : UInt64) (bestPosition initial : Int)
    (haveBest : Bool) : Bool :=
  if haveBest = false ∨ bestScore < score then true
  else if score < bestScore then false
  else
    let distance := position - initial
    let bestDistance := bestPosition - initial
    decide ((if distance < 0 then -distance else distance) <
      if bestDistance < 0 then -bestDistance else bestDistance)

structure Sampling where
  bestScore : UInt64
  bestPosition : Int
  haveBest : Bool
  samples : UInt32

def Sampling.record (sampling : Sampling) (initial position : Int) (score : UInt64) : Sampling :=
  let counted := { sampling with samples := sampling.samples + 1 }
  if better score position sampling.bestScore sampling.bestPosition initial sampling.haveBest then
    { counted with bestScore := score, bestPosition := position, haveBest := true }
  else counted

/-- `sample_position`; none when an operation fails. -/
def samplePosition (ops : Ops World) (lens : Lens World) (position initial : Int)
    (sampling : Sampling) : Lens World × Option Sampling :=
  let moved := lens.move ops position
  if moved.2 = false then (moved.1, none)
  else
    let measured := moved.1.measure ops
    match measured.2 with
    | none => (measured.1, none)
    | some score => (measured.1, some (sampling.record initial position score))

/-! ### The passes -/

/-- How a pass ends. -/
inductive PassEnd where
  | overflow
  | failed
  | done (sampling : Sampling)

/-- The loop of the coarse pass; none when the fuel does not last. -/
def coarsePass (ops : Ops World) (maximum initial step : Int) :
    Nat → Lens World → Int → Sampling → Option (Lens World × PassEnd)
  | 0, _, _, _ => none
  | fuel + 1, lens, position, sampling =>
    match samplePosition ops lens position initial sampling with
    | (lens, none) => some (lens, .failed)
    | (lens, some sampling) =>
      if position = maximum then some (lens, .done sampling)
      else
        match checked (maximum - position) with
        | none => some (lens, .overflow)
        | some left =>
          if left ≤ step then coarsePass ops maximum initial step fuel lens maximum sampling
          else
            match checked (position + step) with
            | none => some (lens, .overflow)
            | some next => coarsePass ops maximum initial step fuel lens next sampling

def finePass (ops : Ops World) (refineMax initial : Int) :
    Nat → Lens World → Int → Sampling → Option (Lens World × PassEnd)
  | 0, _, _, _ => none
  | fuel + 1, lens, position, sampling =>
    if position ≤ refineMax then
      match samplePosition ops lens position initial sampling with
      | (lens, none) => some (lens, .failed)
      | (lens, some sampling) =>
        match checked (position + 1) with
        | none => some (lens, .overflow)
        | some next => finePass ops refineMax initial fuel lens next sampling
    else some (lens, .done sampling)

/-! ### The search -/

structure Arguments where
  minimum : Int
  maximum : Int
  initial : Int
  coarseStep : Nat
  ints : ∀ value ∈ [minimum, maximum, initial], intMin ≤ value ∧ value ≤ intMax
  unsigned : coarseStep < 4294967296

/-- The number of positions, counted in a wider type. -/
def Arguments.span (arguments : Arguments) : Nat :=
  (arguments.maximum - arguments.minimum).toNat + 1

def Arguments.Accepted (arguments : Arguments) : Prop :=
  ¬ (arguments.maximum < arguments.minimum ∨ arguments.initial < arguments.minimum ∨
    arguments.maximum < arguments.initial ∨ arguments.coarseStep = 0 ∨
    arguments.span < arguments.coarseStep ∨ intMax < arguments.coarseStep)

instance Arguments.decidableAccepted (arguments : Arguments) : Decidable arguments.Accepted :=
  inferInstanceAs (Decidable (¬ _))

/-- `struct ca_autofocus_result`. -/
structure Result where
  position : Int
  score : UInt64
  samples : UInt32

/-- What the search returns, unless an operation of its own overflows. -/
inductive Outcome where
  | rejected
  | overflow
  | failed
  | found (result : Result)

/-- The way out of a search that fails. -/
def giveUp (ops : Ops World) (arguments : Arguments) (lens : Lens World) : Lens World × Outcome :=
  ((lens.move ops arguments.initial).1, .failed)

/-- What comes after the fine pass. -/
def finish (ops : Ops World) (arguments : Arguments) :
    Lens World × PassEnd → Lens World × Outcome
  | (lens, .overflow) => (lens, .overflow)
  | (lens, .failed) => giveUp ops arguments lens
  | (lens, .done sampling) =>
    let moved := lens.move ops sampling.bestPosition
    if moved.2 = false then giveUp ops arguments moved.1
    else
      (moved.1, .found
        { position := sampling.bestPosition
          score := sampling.bestScore
          samples := sampling.samples })

/-- What comes after the coarse pass. -/
def refine (ops : Ops World) (arguments : Arguments) (fuel : Nat) (lens : Lens World)
    (sampling : Sampling) : Option (Lens World × Outcome) :=
  match checked (sampling.bestPosition - arguments.coarseStep),
    checked (sampling.bestPosition + arguments.coarseStep) with
  | some low, some high =>
    let refineMin := if low < arguments.minimum then arguments.minimum else low
    let refineMax := if arguments.maximum < high then arguments.maximum else high
    (finePass ops refineMax arguments.initial fuel lens refineMin
      { sampling with haveBest := false }).map (finish ops arguments)
  | _, _ => some (lens, .overflow)

/-- `ca_autofocus_search`, for pointers that are not null. -/
def search (ops : Ops World) (arguments : Arguments) (fuel : Nat) (world : World) :
    Option (Lens World × Outcome) :=
  if arguments.Accepted then
    match coarsePass ops arguments.maximum arguments.initial arguments.coarseStep fuel
      { world, events := [] } arguments.minimum
      { bestScore := 0, bestPosition := arguments.initial, haveBest := false, samples := 0 } with
    | none => none
    | some (lens, .overflow) => some (lens, .overflow)
    | some (lens, .failed) => some (giveUp ops arguments lens)
    | some (lens, .done sampling) => refine ops arguments fuel lens sampling
  else some ({ world, events := [] }, .rejected)

end Autofocus
