/-
This file proves the dead-man of the Z1-Mini. The pose that is held, the rates in force and the
bytes that wait follow from the history alone, and the backend adds to its history only what they
allow. How far a rate moves the gimbal is then a fact about histories.

A pose that was taken from the feedback may lie outside of the limits of travel. The first step of a
rate brings it back to the limit, however slow the rate is.
-/

import CameraGimbal.Z1Control
import CameraGimbal.Transition

namespace Z1Control

open List

open Siyi (byteAt)
open Transition (Along along_append)

/-! ### The two axes -/

/-- The axes that rates move. -/
inductive Axis where
  | pitch
  | yaw

def Axis.low : Axis → Rat
  | .pitch => pitchMin
  | .yaw => yawMin

def Axis.high : Axis → Rat
  | .pitch => pitchMax
  | .yaw => yawMax

def Pose.at (pose : Pose) : Axis → Rat
  | .pitch => pose.pitch
  | .yaw => pose.yaw

/-- By how much an entry moves an axis. -/
def Entry.travel (axis : Axis) : Entry → Rat
  | .moved _ _ pitch yaw => (Pose.mk 0 pitch yaw).at axis
  | _ => 0

/-- The moment at which an accepted command was found to have fresh feedback. -/
def Entry.commanded : Entry → Option Nat
  | .angles checked _ _ => some checked
  | .rates checked _ _ _ => some checked
  | _ => none

def Entry.isRates : Entry → Bool
  | .rates _ _ _ _ => true
  | _ => false

/-- How far an angle lies outside of the limits. -/
def outside (position low high : Rat) : Rat := max 0 (max (position - high) (low - position))

/-! ### What a history says -/

/-- What the entries of a history amount to. -/
structure Held where
  feedback : Option Nat
  pose : Pose
  pitchRate : Rat
  yawRate : Rat
  rateTime : Nat
  lastTx : Nat
  pending : Bytes

def Held.start : Held where
  feedback := none
  pose := ⟨0, 0, 0⟩
  pitchRate := 0
  yawRate := 0
  rateTime := 0
  lastTx := 0
  pending := []

/-- The last feedback frame is at most 250 ms old. -/
def Held.fresh (held : Held) (now : Nat) : Bool :=
  held.feedback.any fun stamped => decide (now - stamped ≤ freshMs)

def Held.rate (held : Held) : Axis → Rat
  | .pitch => held.pitchRate
  | .yaw => held.yawRate

/-- Feedback behind a gap is taken over as the pose, without rates and without the rest of a
frame. -/
def Held.resynchronised (held : Held) (stamped : Nat) (frame : Bytes) : Held :=
  { held with
    feedback := some stamped
    pose := feedbackPose frame
    pitchRate := 0
    yawRate := 0
    pending := [] }

/-- What an entry changes. -/
def Held.next (held : Held) : Entry → Held
  | .feedback checked stamped frame =>
    if held.fresh checked then { held with feedback := some stamped }
    else held.resynchronised stamped frame
  | .angles _ pitch yaw =>
    { held with pose := ⟨held.pose.roll, pitch, yaw⟩, pitchRate := 0, yawRate := 0 }
  | .rates _ time pitch yaw =>
    { held with pitchRate := pitch, yawRate := yaw, rateTime := time }
  | .moved now _ pitch yaw =>
    { held with
      pose := ⟨held.pose.roll, held.pose.pitch + pitch, held.pose.yaw + yaw⟩
      lastTx := now }
  | .composed _ frame => { held with pending := frame }
  | .wrote bytes => { held with pending := held.pending.drop bytes.length }

def Held.of (log : List Entry) : Held := log.foldl Held.next .start

/-- The rates in force may move the gimbal in this way. -/
structure Held.Drives (held : Held) (now checked : Nat) (motion : Entry) : Prop where
  fresh : held.fresh checked = true
  started : held.rateTime ≤ now
  young : now ≤ held.rateTime + rateTimeoutMs
  integrated : ∀ axis, motion.travel axis =
    advance (held.pose.at axis) (held.rate axis) (seconds held.lastTx now) axis.low axis.high -
      held.pose.at axis

/-- What the backend may add to a history. -/
def Allowed (held : Held) : Entry → Prop
  | .feedback _ _ frame => windowVerdict frame = .frame frameSize
  | .angles checked pitch yaw =>
    (∃ stamped, held.feedback = some stamped ∧ stamped ≤ checked ∧ checked ≤ stamped + freshMs) ∧
      (pitchMin ≤ pitch ∧ pitch ≤ pitchMax) ∧ yawMin ≤ yaw ∧ yaw ≤ yawMax
  | .rates checked _ pitch yaw =>
    (∃ stamped, held.feedback = some stamped ∧ stamped ≤ checked ∧ checked ≤ stamped + freshMs) ∧
      (-rateMax ≤ pitch ∧ pitch ≤ rateMax) ∧ -rateMax ≤ yaw ∧ yaw ≤ rateMax
  | .moved now checked pitch yaw =>
    held.lastTx ≤ now ∧
      ((∀ axis, (Entry.moved now checked pitch yaw).travel axis = 0) ∨
        held.Drives now checked (.moved now checked pitch yaw))
  | .composed checked frame =>
    frame = commandFrame (!held.fresh checked) held.pose ∧ held.pending = []
  | .wrote bytes => bytes ≠ [] ∧ bytes <+: held.pending

open Held

@[simp] theorem Held.of_append (log later : List Entry) :
    of (log ++ later) = later.foldl Held.next (of log) := foldl_append

/-! ### The backend keeps to it -/

/-- The history says what the backend holds. Rates that are not in force any more may be zero
already. -/
structure Agrees (held : Held) (backend : Backend) : Prop where
  feedback : held.feedback = if backend.initialized then some backend.timestamp else none
  pose : held.pose = backend.pose
  rates : backend.pitchRate = 0 ∧ backend.yawRate = 0 ∨
    backend.pitchRate = held.pitchRate ∧ backend.yawRate = held.yawRate
  rateTime : held.rateTime = backend.rateTime
  lastTx : held.lastTx = backend.lastTx
  pending : held.pending = backend.tx.drop (backend.tx.length - backend.txPending)
  room : backend.txPending ≤ backend.tx.length

/-- The invariant of a run, with the readings of the clock that are still to come. -/
structure Sound (backend : Backend) (readings : List Nat) : Prop where
  along : Along Held.next Allowed .start backend.log
  agrees : Agrees (Held.of backend.log) backend
  past : ∀ reading ∈ readings,
    backend.timestamp ≤ reading ∧ backend.rateTime ≤ reading ∧ backend.lastTx ≤ reading

theorem Sound.opened (readings : List Nat) : Sound .opened readings where
  along := trivial
  agrees := ⟨rfl, rfl, .inl ⟨rfl, rfl⟩, rfl, rfl, rfl, Nat.zero_le _⟩
  past := fun _ _ => ⟨Nat.zero_le _, Nat.zero_le _, Nat.zero_le _⟩

theorem Agrees.fresh {held : Held} {backend : Backend} (agrees : Agrees held backend) (now : Nat) :
    held.fresh now = backend.fresh now := by
  unfold Held.fresh Backend.fresh
  rw [agrees.feedback]
  cases backend.initialized <;> rfl

section Steps

variable {backend next : Backend} {entry : Entry} {readings later : List Nat} {checked : Nat}

/-- Clock readings that are not to come need not be looked at. -/
theorem Sound.mono (sound : Sound backend readings) (fewer : later ⊆ readings) :
    Sound backend later :=
  ⟨sound.along, sound.agrees, fun reading member => sound.past reading (fewer member)⟩

/-- An entry that is allowed, logged with what it changes, keeps the backend to its log. -/
theorem Sound.record (sound : Sound backend readings) (logged : next.log = backend.log ++ [entry])
    (allowed : Allowed (of backend.log) entry)
    (agrees : Agrees ((of backend.log).next entry) next) (past : ∀ reading ∈ later,
      next.timestamp ≤ reading ∧ next.rateTime ≤ reading ∧ next.lastTx ≤ reading) :
    Sound next later where
  along := by
    rw [logged]
    exact along_append.mpr ⟨sound.along, allowed, trivial⟩
  agrees := by
    rw [logged, of_append]
    exact agrees
  past := past

/-- Feedback that is fresh was stamped at most 250 ms ago. -/
theorem Sound.recent (sound : Sound backend (checked :: readings))
    (fresh : backend.fresh checked = true) :
    ∃ stamped, (of backend.log).feedback = some stamped ∧ stamped ≤ checked ∧
      checked ≤ stamped + freshMs := by
  obtain ⟨initialized, young⟩ := Bool.and_eq_true_iff.mp fresh
  have stamped := (sound.past checked mem_cons_self).1
  have feedback := sound.agrees.feedback
  rw [if_pos initialized] at feedback
  have young := of_decide_eq_true young
  exact ⟨backend.timestamp, feedback, stamped, by omega⟩

/-- A frame of feedback is logged with its clock readings. -/
theorem Sound.accept {stamped : Nat} {frame : Bytes}
    (sound : Sound backend (checked :: stamped :: readings))
    (ordered : (stamped :: readings).Pairwise (· ≤ ·))
    (valid : windowVerdict frame = .frame frameSize) :
    Sound (backend.accept checked stamped frame) readings := by
  have agrees := sound.agrees
  have past : ∀ reading ∈ readings,
      stamped ≤ reading ∧ backend.rateTime ≤ reading ∧ backend.lastTx ≤ reading :=
    fun reading member =>
      ⟨rel_of_pairwise_cons ordered member,
        (sound.past reading (mem_cons_of_mem _ (mem_cons_of_mem _ member))).2⟩
  unfold Backend.accept
  by_cases fresh : backend.fresh checked = true
  · have held := (agrees.fresh checked).trans fresh
    rw [if_pos fresh]
    refine sound.record rfl valid ?_ past
    rw [Held.next, if_pos held]
    refine ⟨?_, agrees.pose, agrees.rates, agrees.rateTime, agrees.lastTx, agrees.pending,
      agrees.room⟩
    exact (if_pos (Bool.and_eq_true_iff.mp fresh).1).symm
  · have held : ¬ (of backend.log).fresh checked = true := by rwa [agrees.fresh checked]
    rw [if_neg fresh]
    refine sound.record rfl valid ?_ past
    rw [Held.next, if_neg held]
    refine ⟨rfl, rfl, .inl ⟨rfl, rfl⟩, agrees.rateTime, agrees.lastTx, ?_, Nat.zero_le _⟩
    exact (drop_length).symm

theorem Sound.window (sound : Sound backend readings) (rx : Bytes) :
    Sound { backend with rx } readings :=
  ⟨sound.along,
    ⟨sound.agrees.feedback, sound.agrees.pose, sound.agrees.rates, sound.agrees.rateTime,
      sound.agrees.lastTx, sound.agrees.pending, sound.agrees.room⟩,
    sound.past⟩

theorem Sound.take {arrival : Arrival}
    (sound : Sound backend (arrival.checked :: arrival.stamped :: readings))
    (ordered : (arrival.stamped :: readings).Pairwise (· ≤ ·)) :
    Sound (backend.take arrival) readings := by
  have unread : readings ⊆ arrival.checked :: arrival.stamped :: readings :=
    fun _ member => mem_cons_of_mem _ (mem_cons_of_mem _ member)
  unfold Backend.take
  split
  · exact sound.mono unread
  · exact (sound.window _).mono unread
  · next found => exact (sound.window _).accept ordered (receive_found found)

/-- Reading logs every frame of feedback it accepts. -/
theorem Sound.handleFd (data : List Arrival)
    (sound : Sound backend ((Event.read data).readings ++ readings))
    (ordered : ((Event.read data).readings ++ readings).Pairwise (· ≤ ·)) :
    Sound (backend.handleFd data) readings := by
  induction data generalizing backend with
  | nil => exact sound
  | cons arrival rest hypothesis =>
    have tail := List.Pairwise.tail ordered
    exact hypothesis (sound.take tail) (List.Pairwise.tail tail)

theorem clamp_bounds {value low high : Rat} (proper : low ≤ high) :
    low ≤ clamp value low high ∧ clamp value low high ≤ high :=
  ⟨le_min proper (le_max_left _ _), min_le_left _ _⟩

theorem limits_proper : pitchMin ≤ pitchMax ∧ yawMin ≤ yawMax ∧ -rateMax ≤ rateMax := by
  decide +kernel

/-- An angle command is taken behind fresh feedback only, and sets no rate. -/
theorem Sound.setGimbalAngles (sound : Sound backend (checked :: readings))
    (pitch yaw : Option Rat) : Sound (backend.setGimbalAngles checked pitch yaw).1 readings := by
  have unread : readings ⊆ checked :: readings := fun _ member => mem_cons_of_mem _ member
  have agrees := sound.agrees
  unfold Backend.setGimbalAngles
  by_cases fresh : backend.fresh checked = true
  · rw [if_neg (by rw [fresh]; decide)]
    split
    · refine sound.record rfl ⟨sound.recent fresh, ?_, ?_⟩ ?_ fun reading member =>
        sound.past reading (unread member)
      · exact clamp_bounds limits_proper.1
      · exact clamp_bounds limits_proper.2.1
      · refine ⟨agrees.feedback, ?_, .inl ⟨rfl, rfl⟩, agrees.rateTime, agrees.lastTx,
          agrees.pending, agrees.room⟩
        rw [Held.next, agrees.pose]
        rfl
    · exact sound.mono unread
  · rw [if_pos (by rw [Bool.eq_false_iff.mpr fresh]; rfl)]
    exact sound.mono unread

/-- A rate command is taken behind fresh feedback only, and starts its 300 ms. -/
theorem Sound.setGimbalRates {time : Nat} (sound : Sound backend (checked :: time :: readings))
    (ordered : (time :: readings).Pairwise (· ≤ ·)) (pitch yaw : Option Rat) :
    Sound (backend.setGimbalRates checked time pitch yaw).1 readings := by
  have unread : readings ⊆ checked :: time :: readings :=
    fun _ member => mem_cons_of_mem _ (mem_cons_of_mem _ member)
  have agrees := sound.agrees
  unfold Backend.setGimbalRates
  by_cases fresh : backend.fresh checked = true
  · rw [if_neg (by rw [fresh]; decide)]
    split
    · refine sound.record rfl ⟨sound.recent fresh, ?_, ?_⟩ ?_ fun reading member =>
        ⟨(sound.past reading (unread member)).1, rel_of_pairwise_cons ordered member,
          (sound.past reading (unread member)).2.2⟩
      · exact clamp_bounds limits_proper.2.2
      · exact clamp_bounds limits_proper.2.2
      · exact ⟨agrees.feedback, agrees.pose, .inr ⟨rfl, rfl⟩, rfl, agrees.lastTx,
          agrees.pending, agrees.room⟩
    · exact sound.mono unread
  · rw [if_pos (by rw [Bool.eq_false_iff.mpr fresh]; rfl)]
    exact sound.mono unread

theorem Sound.stopped (sound : Sound backend readings) : Sound backend.stopped readings :=
  ⟨sound.along,
    ⟨sound.agrees.feedback, sound.agrees.pose, .inl ⟨rfl, rfl⟩, sound.agrees.rateTime,
      sound.agrees.lastTx, sound.agrees.pending, sound.agrees.room⟩,
    sound.past⟩

theorem Sound.write (sound : Sound backend readings) (taken : Nat) :
    Sound (backend.write taken) readings := by
  have agrees := sound.agrees
  have room := agrees.room
  unfold Backend.write
  dsimp only
  split
  · next some =>
    refine sound.record rfl ⟨?_, ?_⟩ ⟨agrees.feedback, agrees.pose, agrees.rates, agrees.rateTime,
      agrees.lastTx, ?_, ?_⟩ sound.past
    · refine ne_nil_of_length_pos ?_
      rw [length_take, length_drop]
      omega
    · rw [agrees.pending]
      exact take_prefix _ _
    · rw [Held.next, agrees.pending, drop_drop, length_take, length_drop]
      dsimp only
      congr 1
      omega
    · exact (Nat.sub_le _ _).trans room
  · exact sound

theorem Backend.integrate_eq (now : Nat) :
    ∃ pitchRate yawRate,
      (pitchRate = 0 ∧ yawRate = 0 ∨
        pitchRate = backend.pitchRate ∧ yawRate = backend.yawRate ∧
          now - backend.rateTime ≤ rateTimeoutMs) ∧
      let elapsed := seconds backend.lastTx now
      let pitch := advance backend.pitch pitchRate elapsed pitchMin pitchMax
      let yaw := advance backend.yaw yawRate elapsed yawMin yawMax
      backend.integrate now checked =
        { backend with
          pitch, yaw, pitchRate, yawRate
          lastTx := now
          log := backend.log ++
            [.moved now checked (pitch - backend.pitch) (yaw - backend.yaw)] } := by
  unfold Backend.integrate
  by_cases old : rateTimeoutMs < now - backend.rateTime
  · refine ⟨0, 0, .inl ⟨rfl, rfl⟩, ?_⟩
    dsimp only
    rw [if_pos old]
    rfl
  · refine ⟨backend.pitchRate, backend.yawRate, .inr ⟨rfl, rfl, Nat.le_of_not_lt old⟩, ?_⟩
    dsimp only
    rw [if_neg old]

theorem advance_zero (position elapsed low high : Rat) :
    advance position 0 elapsed low high = position := if_neg fun moving => moving rfl

/-- An integration moves by the rates that are still alive, within the limits. -/
theorem Sound.integrate {now : Nat} (sound : Sound backend (now :: checked :: readings))
    (ordered : (now :: checked :: readings).Pairwise (· ≤ ·))
    (ready : backend.fresh checked = true ∨ backend.pitchRate = 0 ∧ backend.yawRate = 0) :
    Sound (backend.integrate now checked) (checked :: readings) := by
  obtain ⟨-, started, sent⟩ := sound.past now mem_cons_self
  have agrees := sound.agrees
  obtain ⟨pitchRate, yawRate, rates, equal⟩ := @Backend.integrate_eq backend checked now
  rw [equal]
  refine sound.record rfl ⟨agrees.lastTx.le.trans sent, ?_⟩ ⟨agrees.feedback, ?_, ?_,
    agrees.rateTime, rfl, agrees.pending, agrees.room⟩ fun reading member => ?_
  · by_cases still : pitchRate = 0 ∧ yawRate = 0
    · left
      obtain ⟨rfl, rfl⟩ := still
      intro axis
      rw [advance_zero, advance_zero, sub_self, sub_self]
      cases axis <;> rfl
    · right
      obtain ⟨rfl, rfl, young⟩ := rates.resolve_left still
      obtain ⟨pitch, yaw⟩ := agrees.rates.resolve_left still
      refine ⟨(agrees.fresh checked).trans (ready.resolve_right still), ?_, ?_, ?_⟩
      · exact agrees.rateTime.le.trans started
      · rw [agrees.rateTime]
        omega
      · intro axis
        rw [agrees.pose, agrees.lastTx]
        cases axis
        · rw [rate, ← pitch]
          rfl
        · rw [rate, ← yaw]
          rfl
  · rw [Held.next, agrees.pose]
    dsimp only [Backend.pose]
    rw [add_sub_cancel, add_sub_cancel]
  · rcases rates with still | ⟨rfl, rfl, -⟩
    · exact .inl still
    · exact agrees.rates
  · have before := sound.past reading (mem_cons_of_mem _ member)
    exact ⟨before.1, before.2.1, rel_of_pairwise_cons ordered member⟩

/-- A frame is composed of the pose, once nothing is pending. -/
theorem Sound.compose (sound : Sound backend (checked :: readings))
    (done : backend.txPending = 0) : Sound (backend.compose checked) readings := by
  have agrees := sound.agrees
  have empty : (of backend.log).pending = [] := by
    rw [agrees.pending, done]
    exact drop_length
  refine sound.record rfl ⟨?_, empty⟩ ⟨agrees.feedback, agrees.pose, agrees.rates,
    agrees.rateTime, agrees.lastTx, ?_, le_rfl⟩ fun reading member =>
      sound.past reading (mem_cons_of_mem _ member)
  · rw [agrees.fresh, agrees.pose]
  · rw [Backend.compose, Nat.sub_self]
    rfl

/-- A periodic step is a write, an integration and a composition, as far as it gets. -/
theorem Sound.periodic {now : Nat} (sound : Sound backend (now :: checked :: readings))
    (ordered : (now :: checked :: readings).Pairwise (· ≤ ·)) (taken : Nat) :
    Sound (backend.periodic now checked taken) readings := by
  have unread : readings ⊆ now :: checked :: readings :=
    fun _ member => mem_cons_of_mem _ (mem_cons_of_mem _ member)
  have ready : ∃ ready, Sound ready (now :: checked :: readings) ∧
      (ready.fresh checked = true ∨ ready.pitchRate = 0 ∧ ready.yawRate = 0) ∧
      (if backend.fresh checked then backend else backend.stopped) = ready := by
    by_cases fresh : backend.fresh checked = true
    · exact ⟨backend, sound, .inl fresh, if_pos fresh⟩
    · exact ⟨backend.stopped, sound.stopped, .inr ⟨rfl, rfl⟩, if_neg fresh⟩
  obtain ⟨ready, sound, rates, equal⟩ := ready
  unfold Backend.periodic
  rw [equal]
  dsimp only
  split
  · exact (sound.write taken).mono unread
  next done =>
  split
  · exact sound.mono unread
  · refine ((sound.integrate ordered rates).compose ?_).write taken
    obtain ⟨pitchRate, yawRate, -, integrated⟩ := @Backend.integrate_eq ready checked now
    rw [integrated]
    exact Decidable.of_not_not done

end Steps

/-- Every event keeps the backend to its log. -/
theorem Sound.step {backend : Backend} {readings : List Nat} (event : Event)
    (sound : Sound backend (event.readings ++ readings))
    (ordered : (event.readings ++ readings).Pairwise (· ≤ ·)) :
    Sound (step backend event) readings := by
  cases event with
  | read data => exact sound.handleFd data ordered
  | angles checked pitch yaw => exact sound.setGimbalAngles pitch yaw
  | rates checked time pitch yaw =>
    exact sound.setGimbalRates (List.Pairwise.tail ordered) pitch yaw
  | neutral checked => exact sound.setGimbalAngles (some 0) (some 0)
  | periodic now checked taken => exact sound.periodic ordered taken

theorem Sound.events {backend : Backend} (events : List Event)
    (sound : Sound backend (events.flatMap Event.readings))
    (ordered : (events.flatMap Event.readings).Pairwise (· ≤ ·)) :
    Sound (events.foldl Z1Control.step backend) [] := by
  induction events generalizing backend with
  | nil => exact sound
  | cons event rest hypothesis =>
    rw [flatMap_cons] at sound ordered
    exact hypothesis (sound.step event ordered) (pairwise_append.mp ordered).2.1

/-- Every entry of a run is allowed behind those before it. -/
theorem run_along (events : List Event)
    (ordered : (events.flatMap Event.readings).Pairwise (· ≤ ·)) :
    Along next Allowed .start (run events).log :=
  ((Sound.opened _).events events ordered).along

/-! ### How far a rate moves -/

theorem outside_nonneg (position low high : Rat) : 0 ≤ outside position low high := le_max_left _ _

theorem outside_eq_zero {position low high : Rat} (above : low ≤ position)
    (below : position ≤ high) : outside position low high = 0 :=
  max_eq_left (max_le (sub_nonpos.mpr below) (sub_nonpos.mpr above))

theorem Axis.low_le_high (axis : Axis) : axis.low ≤ axis.high := by
  cases axis with
  | pitch => exact limits_proper.1
  | yaw => exact limits_proper.2.1

/-- A step moves by its rate, and back to the limits from outside them. -/
theorem abs_advance_le (position rate elapsed low high : Rat) (forward : 0 ≤ elapsed) :
    |advance position rate elapsed low high - position| ≤
      |rate| * elapsed + outside position low high := by
  have above : position - high ≤ outside position low high :=
    (le_max_left _ _).trans (le_max_right _ _)
  have below : low - position ≤ outside position low high :=
    (le_max_right _ _).trans (le_max_right _ _)
  have inside := outside_nonneg position low high
  have motion : |rate * elapsed| = |rate| * elapsed := by rw [abs_mul, abs_of_nonneg forward]
  have up := le_abs_self (rate * elapsed)
  have down := neg_abs_le (rate * elapsed)
  have some := abs_nonneg (rate * elapsed)
  rw [← motion]
  unfold advance
  split
  · rw [abs_le]
    constructor
    · have least : min high (position + rate * elapsed) ≤
          clamp (position + rate * elapsed) low high := min_le_min le_rfl (le_max_right _ _)
      rcases min_choice high (position + rate * elapsed) with equal | equal
      · linarith
      · linarith
    · have most : clamp (position + rate * elapsed) low high ≤
          max low (position + rate * elapsed) := min_le_right _ _
      rcases max_choice low (position + rate * elapsed) with equal | equal
      · linarith
      · linarith
  · rw [sub_self, abs_zero]
    linarith

theorem seconds_nonneg (since now : Nat) : 0 ≤ seconds since now :=
  le_min (mul_nonneg (Nat.cast_nonneg _) (by norm_num)) (by norm_num)

/-- For so many milliseconds the rates may still move the gimbal. -/
def Held.remaining (held : Held) : Nat :=
  if held.lastTx < held.rateTime then 350 else held.rateTime + rateTimeoutMs - held.lastTx

/-- So far the rates may still move an axis. -/
def Held.reach (held : Held) (axis : Axis) : Rat :=
  if held.rate axis = 0 then 0
  else |held.rate axis| * (held.remaining * (1 / 1000)) +
    outside (held.pose.at axis) axis.low axis.high

theorem Held.reach_nonneg (held : Held) (axis : Axis) : 0 ≤ held.reach axis := by
  unfold reach
  split
  · exact le_rfl
  · have time : (0 : Rat) ≤ held.remaining * (1 / 1000) :=
      mul_nonneg (Nat.cast_nonneg _) (by norm_num)
    exact add_nonneg (mul_nonneg (abs_nonneg _) time) (outside_nonneg _ _ _)

theorem Held.reach_eq_zero {held : Held} {axis : Axis} (still : held.rate axis = 0) :
    held.reach axis = 0 := if_pos still

/-- No rate lives for more than 350 ms. -/
theorem Held.remaining_le (held : Held) : held.remaining ≤ 350 := by
  unfold remaining
  split
  · exact le_rfl
  · have timeout : rateTimeoutMs = 300 := rfl
    omega

section Motion

variable {held : Held} {now checked : Nat} {pitch yaw : Rat}

theorem seconds_add_remaining (sent : held.lastTx ≤ now) (started : held.rateTime ≤ now)
    (young : now ≤ held.rateTime + rateTimeoutMs) :
    seconds held.lastTx now + (held.next (.moved now checked pitch yaw)).remaining * (1 / 1000) ≤
      held.remaining * (1 / 1000) := by
  have timeout : rateTimeoutMs = 300 := rfl
  have after : (held.next (.moved now checked pitch yaw)).remaining =
      held.rateTime + rateTimeoutMs - now := if_neg (not_lt.mpr started)
  rw [after]
  unfold remaining seconds
  split
  · have rest : ((held.rateTime + rateTimeoutMs - now : Nat) : Rat) ≤ 300 := by
      have : held.rateTime + rateTimeoutMs - now ≤ 300 := by omega
      exact_mod_cast this
    have capped : min (((now - held.lastTx : Nat) : Rat) * (1 / 1000)) (1 / 20) ≤ 1 / 20 :=
      min_le_right _ _
    push_cast
    linarith
  · have total : ((now - held.lastTx : Nat) : Rat) +
        ((held.rateTime + rateTimeoutMs - now : Nat) : Rat) ≤
          ((held.rateTime + rateTimeoutMs - held.lastTx : Nat) : Rat) := by
      have : (now - held.lastTx) + (held.rateTime + rateTimeoutMs - now) ≤
          held.rateTime + rateTimeoutMs - held.lastTx := by omega
      exact_mod_cast this
    have elapsed : min (((now - held.lastTx : Nat) : Rat) * (1 / 1000)) (1 / 20) ≤
        ((now - held.lastTx : Nat) : Rat) * (1 / 1000) := min_le_left _ _
    linarith

/-- An integration gives no rate a longer life. -/
theorem remaining_moved_le (sent : held.lastTx ≤ now) :
    (held.next (.moved now checked pitch yaw)).remaining ≤ held.remaining := by
  have timeout : rateTimeoutMs = 300 := rfl
  show (if now < held.rateTime then 350 else held.rateTime + rateTimeoutMs - now) ≤
    if held.lastTx < held.rateTime then 350 else held.rateTime + rateTimeoutMs - held.lastTx
  split <;> split <;> omega

end Motion

/-- What an entry moves by is taken off what the rates can still move by. -/
theorem travel_add_reach {held : Held} {entry : Entry} (allowed : Allowed held entry)
    (kept : entry.isRates = false) (axis : Axis) :
    |entry.travel axis| + (held.next entry).reach axis ≤ held.reach axis := by
  have rest (next : Held) (same : next.reach axis ≤ held.reach axis) :
      |(0 : Rat)| + next.reach axis ≤ held.reach axis := by rwa [abs_zero, zero_add]
  cases entry with
  | feedback checked stamped frame =>
    refine rest _ ?_
    unfold Held.next
    dsimp only
    split
    · exact le_rfl
    · refine le_of_eq_of_le (reach_eq_zero ?_) (held.reach_nonneg axis)
      cases axis <;> rfl
  | angles checked pitch yaw =>
    refine rest _ (le_of_eq_of_le (reach_eq_zero ?_) (held.reach_nonneg axis))
    cases axis <;> rfl
  | rates checked time pitch yaw => cases kept
  | composed checked frame => exact rest _ le_rfl
  | wrote bytes => exact rest _ le_rfl
  | moved now checked pitch yaw =>
    obtain ⟨sent, motion⟩ := allowed
    have rate : (held.next (.moved now checked pitch yaw)).rate axis = held.rate axis := by
      cases axis <;> rfl
    have position : (held.next (.moved now checked pitch yaw)).pose.at axis =
        held.pose.at axis + (Entry.moved now checked pitch yaw).travel axis := by
      cases axis <;> rfl
    by_cases still : held.rate axis = 0
    · have none : (Entry.moved now checked pitch yaw).travel axis = 0 := by
        rcases motion with none | drives
        · exact none axis
        · rw [drives.integrated axis, still, advance_zero, sub_self]
      rw [none, reach_eq_zero (rate.trans still), reach_eq_zero still, abs_zero, add_zero]
    · unfold reach
      rw [rate, if_neg still, if_neg still, position]
      have size := abs_nonneg (held.rate axis)
      rcases motion with none | drives
      · have time : ((held.next (.moved now checked pitch yaw)).remaining : Rat) * (1 / 1000) ≤
            held.remaining * (1 / 1000) := by
          refine mul_le_mul_of_nonneg_right ?_ (by norm_num)
          exact_mod_cast remaining_moved_le sent
        rw [none axis, abs_zero, zero_add, add_zero]
        exact add_le_add (mul_le_mul_of_nonneg_left time size) le_rfl
      · have time := mul_le_mul_of_nonneg_left
          (@seconds_add_remaining held now checked pitch yaw sent drives.started drives.young) size
        have far := abs_advance_le (held.pose.at axis) (held.rate axis)
          (seconds held.lastTx now) axis.low axis.high (seconds_nonneg _ _)
        rw [drives.integrated axis, add_sub_cancel]
        have bounds : axis.low ≤ advance (held.pose.at axis) (held.rate axis)
            (seconds held.lastTx now) axis.low axis.high ∧ advance (held.pose.at axis)
            (held.rate axis) (seconds held.lastTx now) axis.low axis.high ≤ axis.high := by
          rw [advance, if_pos still]
          exact clamp_bounds axis.low_le_high
        rw [outside_eq_zero bounds.1 bounds.2]
        linarith

variable {log : List Entry}

section

variable {held : Held} (along : Along Held.next Allowed held log)
  (kept : ∀ entry ∈ log, entry.isRates = false)

include along kept

/-- Until the next rate command an axis moves by what its rate can reach. -/
theorem travel_le (axis : Axis) :
    (log.map fun entry => |entry.travel axis|).sum ≤ held.reach axis := by
  induction log generalizing held with
  | nil => exact held.reach_nonneg axis
  | cons entry rest hypothesis =>
    obtain ⟨allowed, later⟩ := along
    obtain ⟨keptFirst, keptRest⟩ := forall_mem_cons.mp kept
    have first := travel_add_reach allowed keptFirst axis
    have others := hypothesis later keptRest
    rw [map_cons, sum_cons]
    linarith

/-- An axis that can reach nothing does not move. -/
theorem travel_eq_zero {axis : Axis} (still : held.reach axis = 0) :
    ∀ entry ∈ log, entry.travel axis = 0 := by
  induction log generalizing held with
  | nil => exact nofun
  | cons entry rest hypothesis =>
    obtain ⟨allowed, later⟩ := along
    obtain ⟨keptFirst, keptRest⟩ := forall_mem_cons.mp kept
    have first := travel_add_reach allowed keptFirst axis
    have moved := abs_nonneg (entry.travel axis)
    have reach := (held.next entry).reach_nonneg axis
    refine forall_mem_cons.mpr ⟨abs_eq_zero.mp ?_, hypothesis later keptRest ?_⟩
    · linarith
    · linarith

end

/-! ### The dead-man -/

/-- The feedback that is known was received in a whole frame. -/
theorem feedback_mem (along : Along Held.next Allowed .start log) {stamped : Nat}
    (known : (of log).feedback = some stamped) :
    ∃ seen frame, Entry.feedback seen stamped frame ∈ log ∧
      windowVerdict frame = .frame frameSize := by
  induction log using reverseRecOn with
  | nil => cases known
  | append_singleton log entry hypothesis =>
    obtain ⟨before, allowed, -⟩ := along_append.mp along
    have earlier (same : (of log).feedback = some stamped) :
        ∃ seen frame, Entry.feedback seen stamped frame ∈ log ++ [entry] ∧
          windowVerdict frame = .frame frameSize := by
      obtain ⟨seen, frame, member, valid⟩ := hypothesis before same
      exact ⟨seen, frame, mem_append_left _ member, valid⟩
    rw [of_append] at known
    cases entry with
    | feedback seen last frame =>
      have newest : (((of log).next (.feedback seen last frame))).feedback = some last := by
        unfold Held.next
        dsimp only
        split <;> rfl
      obtain rfl : last = stamped := Option.some.inj (newest.symm.trans known)
      exact ⟨seen, frame, mem_append_right _ (mem_singleton_self _), allowed⟩
    | angles checked pitch yaw => exact earlier known
    | rates checked time pitch yaw => exact earlier known
    | moved now checked pitch yaw => exact earlier known
    | composed checked frame => exact earlier known
    | wrote bytes => exact earlier known

/-- With nothing pending at first, what is pending is the end of a frame composed since. -/
theorem pending_composed {held : Held} (empty : held.pending = []) (log : List Entry) :
    (log.foldl Held.next held).pending = [] ∨
      ∃ checked frame, Entry.composed checked frame ∈ log ∧
        (log.foldl Held.next held).pending <:+ frame := by
  induction log using reverseRecOn with
  | nil => exact .inl empty
  | append_singleton log entry hypothesis =>
    have shorter {pending : Bytes} (ending : pending <:+ (log.foldl Held.next held).pending) :
        pending = [] ∨ ∃ checked frame, Entry.composed checked frame ∈ log ++ [entry] ∧
          pending <:+ frame := by
      rcases hypothesis with nothing | ⟨checked, frame, member, within⟩
      · exact .inl (suffix_nil.mp (nothing ▸ ending))
      · exact .inr ⟨checked, frame, mem_append_left _ member, ending.trans within⟩
    rw [foldl_append]
    cases entry with
    | feedback checked stamped frame =>
      rw [foldl_cons, foldl_nil, Held.next]
      split
      · exact shorter suffix_rfl
      · exact .inl rfl
    | angles checked pitch yaw => exact shorter suffix_rfl
    | rates checked time pitch yaw => exact shorter suffix_rfl
    | moved now checked pitch yaw => exact shorter suffix_rfl
    | composed checked frame =>
      exact .inr ⟨checked, frame, mem_append_right _ (mem_singleton_self _), suffix_rfl⟩
    | wrote bytes => exact shorter (drop_suffix _ _)

/-- What the history of a dead-man looks like, when the motion of accepted rates may go beyond them
by some slack that depends on the pose they find. -/
structure DeadMan (slack : Axis → Pose → Rat) (log : List Entry) : Prop where
  /-- A motion command is accepted only with a valid feedback frame of the last 250 ms. -/
  accepted : ∀ before entry after checked, log = before ++ entry :: after →
    entry.commanded = some checked → ∃ seen stamped frame,
      Entry.feedback seen stamped frame ∈ before ∧ windowVerdict frame = .frame frameSize ∧
        stamped ≤ checked ∧ checked ≤ stamped + freshMs
  /-- A frame carries the pose that follows from the history, and behind a gap none. -/
  carried : ∀ before checked frame after, log = before ++ .composed checked frame :: after →
    frame = commandFrame (!(Held.of before).fresh checked) (Held.of before).pose
  asleep : ∀ before checked frame after, log = before ++ .composed checked frame :: after →
    (Held.of before).fresh checked = false → ∀ index ∈ [8, 9, 11, 12], byteAt frame index = 0
  /-- Only the rates that were accepted last move the pose. -/
  driven : ∀ before now checked pitch yaw after,
    log = before ++ .moved now checked pitch yaw :: after →
      pitch = 0 ∧ yaw = 0 ∨ (Held.of before).Drives now checked (.moved now checked pitch yaw)
  /-- All that accepted rates move is at most the motion of 350 ms. -/
  bounded : ∀ before checked time pitch yaw during after,
    log = before ++ .rates checked time pitch yaw :: (during ++ after) →
      (∀ entry ∈ during, entry.isRates = false) → ∀ axis,
        (during.map fun entry => |entry.travel axis|).sum ≤
          |(Pose.mk 0 pitch yaw).at axis| * (350 / 1000) + slack axis (Held.of before).pose
  /-- Feedback behind a gap cuts off everything before it. -/
  severed : ∀ before checked stamped frame after,
    log = before ++ .feedback checked stamped frame :: after →
      (Held.of before).fresh checked = false →
        (Held.of (before ++ [.feedback checked stamped frame])).pose = feedbackPose frame ∧
        (∀ during later, after = during ++ later → (∀ entry ∈ during, entry.isRates = false) →
          ∀ entry ∈ during, ∀ axis, entry.travel axis = 0) ∧
        ∀ middle bytes later, after = middle ++ .wrote bytes :: later →
          ∃ composedAt command, Entry.composed composedAt command ∈ middle ∧ bytes <:+: command

/-- What rates may move beyond themselves: back to the limits. -/
def backToLimits (axis : Axis) (pose : Pose) : Rat := outside (pose.at axis) axis.low axis.high

/-- A rate command can reach its rate over 350 ms, and the way back to the limits. -/
theorem Held.reach_rates_le (held : Held) (checked time : Nat) (pitch yaw : Rat) (axis : Axis) :
    (held.next (.rates checked time pitch yaw)).reach axis ≤
      |(Pose.mk 0 pitch yaw).at axis| * (350 / 1000) + backToLimits axis held.pose := by
  have rate : (held.next (.rates checked time pitch yaw)).rate axis =
      (Pose.mk 0 pitch yaw).at axis := by
    cases axis <;> rfl
  have size := abs_nonneg ((Pose.mk 0 pitch yaw).at axis)
  have beyond : 0 ≤ backToLimits axis held.pose := outside_nonneg _ _ _
  have most : ((held.next (.rates checked time pitch yaw)).remaining : Rat) * (1 / 1000) ≤
      350 / 1000 := by
    have cast : ((held.next (.rates checked time pitch yaw)).remaining : Rat) ≤ 350 :=
      mod_cast remaining_le _
    linarith
  unfold reach
  rw [rate]
  split
  · exact add_nonneg (mul_nonneg size (by norm_num)) beyond
  · exact add_le_add (mul_le_mul_of_nonneg_left most size) le_rfl

/-- A log whose entries are allowed is that of a dead-man. -/
theorem DeadMan.of_along (along : Along Held.next Allowed .start log) :
    DeadMan backToLimits log where
  accepted := by
    rintro before entry after checked rfl commanded
    have earlier := (along_append.mp along).1
    have allowed := along.split.1
    have recent : ∃ stamped, (of before).feedback = some stamped ∧ stamped ≤ checked ∧
        checked ≤ stamped + freshMs := by
      cases entry with
      | angles moment pitch yaw =>
        cases commanded
        exact allowed.1
      | rates moment time pitch yaw =>
        cases commanded
        exact allowed.1
      | feedback | moved | composed | wrote => cases commanded
    obtain ⟨stamped, known, arrived, young⟩ := recent
    obtain ⟨seen, frame, member, valid⟩ := feedback_mem earlier known
    exact ⟨seen, stamped, frame, member, valid, arrived, young⟩
  carried := by
    rintro before checked frame after rfl
    exact along.split.1.1
  asleep := by
    rintro before checked frame after rfl stale index place
    rw [along.split.1.1]
    change byteAt (commandFrame (!(of before).fresh checked) _) index = 0
    rw [stale]
    simp only [mem_cons, not_mem_nil, or_false] at place
    rcases place with rfl | rfl | rfl | rfl <;> rfl
  driven := by
    rintro before now checked pitch yaw after rfl
    exact along.split.1.2.imp_left fun none => ⟨none .pitch, none .yaw⟩
  bounded := by
    rintro before checked time pitch yaw during after rfl kept axis
    have since := (along_append.mp along.split.2).1
    exact (travel_le since kept axis).trans (reach_rates_le _ _ _ _ _ _)
  severed := by
    rintro before checked stamped frame after rfl stale
    have since := along.split.2
    have old : ¬ (of before).fresh checked = true := Bool.eq_false_iff.mp stale
    have resynchronised : (of before).next (.feedback checked stamped frame) =
        (of before).resynchronised stamped frame := if_neg old
    change Along Held.next Allowed ((of before).next (.feedback checked stamped frame)) after
      at since
    rw [resynchronised] at since
    refine ⟨?_, ?_, ?_⟩
    · rw [of_append, foldl_cons, foldl_nil, resynchronised]
      rfl
    · rintro during later rfl kept entry member axis
      refine travel_eq_zero (along_append.mp since).1 kept (reach_eq_zero ?_) entry member
      cases axis <;> rfl
    · rintro middle bytes later rfl
      obtain ⟨nonempty, taken⟩ := since.split.1
      have cut : ((of before).resynchronised stamped frame).pending = [] := rfl
      rcases pending_composed cut middle with nothing | ⟨composedAt, command, member, ending⟩
      · rw [nothing] at taken
        exact absurd (prefix_nil.mp taken) nonempty
      · exact ⟨composedAt, command, member, taken.isInfix.trans ending.isInfix⟩

/-- In every run, however it is timed and written, the rates are dead after 300 ms or behind a
gap. -/
theorem deadMan (events : List Event)
    (ordered : (events.flatMap Event.readings).Pairwise (· ≤ ·)) :
    DeadMan backToLimits (run events).log := .of_along (run_along events ordered)

def downFrame : Bytes :=
  [0xb5, 0x9a] ++ List.replicate 12 0 ++ [0x20, 0xd1] ++ List.replicate 8 0 ++ [0x19, 0x51]

/-- This frame, a slow rate, and a step. -/
def lowered : List Event :=
  [.read (downFrame.map fun byte => ⟨byte, 1000, 1000⟩),
    .rates 1000 1000 (some (1 / 1000)) (some 0),
    .periodic 1040 1040 40]

theorem lowered_ordered : (lowered.flatMap Event.readings).Pairwise (· ≤ ·) := by decide

theorem deadMan_lowered : DeadMan backToLimits (run lowered).log := deadMan lowered lowered_ordered

/-- The step moves the pitch by 30 degrees, to the limit. -/
theorem rates_move_beyond_themselves :
    ¬ ∀ events, (events.flatMap Event.readings).Pairwise (· ≤ ·) →
      DeadMan (fun _ _ => 0) (run events).log := by
  intro claimed
  have bounded := (claimed lowered lowered_ordered).bounded
  have small := bounded ((run lowered).log.take 1) 1000 1000 (1 / 1000) 0
    ((run lowered).log.drop 2) [] (by decide +kernel) (by decide +kernel) .pitch
  exact absurd small (by decide +kernel)

end Z1Control
