/-
This file models manual control from the web page: a lease that one browser
holds by its token, and the rate pulses it moves the gimbal with.

Every pulse arms a deadline at which the gimbal is stopped, and a stop that
fails arms the next one. The file proves that a gimbal set in motion on behalf
of a web client always has such a deadline until a stop, or a move to neutral,
has succeeded.
-/

import Mathlib.Algebra.Order.Ring.Rat
import Mathlib.Data.List.Basic

namespace ManualControl

open List

/-- A magic number that starts every packet. -/
def manualMagic : UInt32 := 0x4d434131

def packetSize : Nat := 32

/-- How long a lease lasts without being renewed. -/
def leaseMs : Nat := 5000

/-- How long a rate pulse lasts. -/
def pulseMs : Nat := 180

/-- How long a failed stop waits for the next attempt. -/
def retryMs : Nat := 20

/-- The random 16 bytes that identify a lease. -/
abbrev Token := BitVec 128

inductive Action where
  | acquire
  | renew
  | release
  | left
  | right
  | up
  | down
  | center
  | zoom
  | unknown
  deriving DecidableEq, Repr

/-- A packet of the web server. A value that is not finite is `none`. -/
structure Packet where
  magic : UInt32
  action : Action
  token : Token
  value : Option Rat
  deriving DecidableEq

/-- The result a packet is answered with. -/
inductive Result where
  | ok
  | busy
  | ioError
  | accessDenied
  | invalid
  deriving DecidableEq, Repr

/-- A call to the gimbal backend and whether it failed. Rates are in degrees per second. -/
inductive Call where
  | rates (pitch yaw : Rat) (failed : Bool)
  | neutral (failed : Bool)
  | zoom (ratio : Option Rat) (failed : Bool)
  deriving DecidableEq

/-- The lease, the stop deadline (zero when there is none), and the calls made so far, which
are its history. -/
structure Control where
  isOpen : Bool
  active : Bool
  executing : Bool
  token : Token
  expiresMs : Nat
  stopMs : Nat
  zoomMax : Rat
  suspensions : Nat
  calls : List Call

/-- The control after `ca_manual_control_open`. -/
def start (zoomMax : Rat) : Control where
  isOpen := true
  active := false
  executing := false
  token := 0
  expiresMs := 0
  stopMs := 0
  zoomMax := zoomMax
  suspensions := 0
  calls := []

/-- The outcome of a stop: whether the gimbal call failed, and the clock afterwards. -/
structure Attempt where
  failed : Bool
  now : Nat
  deriving DecidableEq

/-- What the clock, the random numbers and the gimbal do while a command is handled. -/
structure Circumstances where
  now : Nat
  fresh : Option Token
  stop : Attempt
  failed : Bool

/-! ### The functions -/

variable (control : Control)

/-- Stop the gimbal; a stop that fails is due again soon. -/
def stopMotion (attempt : Attempt) : Control :=
  { control with
    executing := false
    stopMs := if attempt.failed then attempt.now + retryMs else 0
    calls := control.calls ++ [.rates 0 0 attempt.failed] }

/-- A packet moves the gimbal at a rate. -/
def isPulse : Action → Bool
  | .left | .right | .up | .down => true
  | _ => false

/-- The rate of a pulse in pitch and yaw. -/
def pulseRates (action : Action) (rate : Rat) : Rat × Rat :=
  (match action with
    | .up => rate
    | .down => -rate
    | _ => 0,
   match action with
    | .right => rate
    | .left => -rate
    | _ => 0)

/-- A value is a number between two bounds. -/
def within (low high : Rat) : Option Rat → Bool
  | some value => decide (low ≤ value) && decide (value ≤ high)
  | none => false

/-- A free lease is acquired with a stop and a new token. -/
def acquire (given : Token) (around : Circumstances) : Control × Result × Token :=
  if control.active then (control, .busy, given)
  else
    match around.fresh with
    | none => (control, .ioError, given)
    | some token =>
      let stopped := stopMotion { control with token } around.stop
      if around.stop.failed then (stopped, .ioError, given)
      else
        ({ stopped with
            suspensions := stopped.suspensions + 1
            active := true
            expiresMs := around.now + leaseMs }, .ok, token)

/-- The gimbal call of a command, with the lease checked and the value in range. -/
def execute (packet : Packet) (around : Circumstances) : Control × Result :=
  let result := if around.failed then Result.ioError else .ok
  if isPulse packet.action then
    let rates := pulseRates packet.action (packet.value.getD 0)
    ({ control with
        executing := false
        -- the deadline is armed even when the call fails: part of it may have been sent
        stopMs := around.now + pulseMs
        calls := control.calls ++ [.rates rates.1 rates.2 around.failed] }, result)
  else
    match packet.action with
    | .center =>
      ({ control with
          executing := false
          stopMs := if around.failed then control.stopMs else 0
          calls := control.calls ++ [.neutral around.failed] }, result)
    | .zoom =>
      ({ control with
          executing := false
          calls := control.calls ++ [.zoom packet.value around.failed] }, result)
    | _ => (control, .ioError)

/-- Handle a command. The token of the reply is that of the packet, or the new one. -/
def command (packet : Packet) (around : Circumstances) : Control × Result × Token :=
  if packet.action = .acquire then acquire control packet.token around
  else if !control.active || control.token != packet.token then
    (control, .accessDenied, packet.token)
  else if packet.action = .release then
    let stopped := stopMotion control around.stop
    if around.stop.failed then (stopped, .ioError, packet.token)
    else ({ stopped with active := false, token := 0 }, .ok, packet.token)
  else if packet.action = .renew then
    ({ control with expiresMs := around.now + leaseMs }, .ok, packet.token)
  else if isPulse packet.action && !within 5 60 packet.value then
    (control, .invalid, packet.token)
  else if packet.action = .zoom ∧ !within 1 control.zoomMax packet.value then
    (control, .invalid, packet.token)
  else
    let (executed, result) := execute control packet around
    (executed, result, packet.token)

/-- A datagram on the control socket. -/
structure Datagram where
  size : Nat
  loopback : Bool
  packet : Packet
  around : Circumstances

/-- Handle one datagram; others than packets of the web server are ignored. -/
def receive (datagram : Datagram) : Control :=
  if datagram.size ≠ packetSize ∨ !datagram.loopback then control
  else if datagram.packet.magic ≠ manualMagic then control
  else (command control datagram.packet datagram.around).1

/-- What an update finds: the clock, the outcomes of the stops it may attempt, and the
datagrams that wait. -/
structure Tick where
  now : Nat
  expiry : Attempt
  due : Attempt
  datagrams : List Datagram

/-- A lease that has expired ends with a stop, whether that succeeds or not. -/
def expire (tick : Tick) : Control :=
  if control.active && decide (control.expiresMs ≤ tick.now) then
    { stopMotion control tick.expiry with active := false, token := 0 }
  else control

def stopDue (tick : Tick) : Control :=
  if control.stopMs ≠ 0 ∧ control.stopMs ≤ tick.now then stopMotion control tick.due
  else control

/-- The deadlines an update looks at before it reads any datagram. -/
def checkDeadlines (tick : Tick) : Control :=
  stopDue (expire control tick) tick

/-- `ca_manual_control_update`: at most 16 datagrams are read at a time. -/
def update (tick : Tick) : Control :=
  let checked := checkDeadlines control tick
  if checked.isOpen then (tick.datagrams.take 16).foldl receive checked else checked

/-- `ca_manual_control_close`. -/
def close (attempt : Attempt) : Control :=
  let stopped :=
    if control.active || control.stopMs != 0 then stopMotion control attempt else control
  { stopped with active := false, isOpen := false }

/-- The entry points, in any order. -/
inductive Event where
  | command (packet : Packet) (around : Circumstances)
  | update (tick : Tick)
  | close (attempt : Attempt)

def handle : Event → Control
  | .command packet around => (command control packet around).1
  | .update tick => update control tick
  | .close attempt => close control attempt

def run (events : List Event) : Control :=
  events.foldl handle control

/-! ### A moving gimbal has a stop deadline -/

/-- What a call leaves of a motion: a rate other than zero starts one, even when the call
fails; a zero rate or a move to neutral ends it when the call succeeds. -/
def moves (moving : Bool) : Call → Bool
  | .rates pitch yaw failed => decide (pitch ≠ 0 ∨ yaw ≠ 0) || (moving && failed)
  | .neutral failed => moving && failed
  | .zoom _ _ => moving

/-- The gimbal is moving on behalf of a web client. -/
def Moving (calls : List Call) : Bool :=
  calls.foldl moves false

/-- A moving gimbal has a stop deadline. -/
def Armed : Prop :=
  Moving control.calls = true → control.stopMs ≠ 0

theorem Moving_append (calls : List Call) (call : Call) :
    Moving (calls ++ [call]) = moves (Moving calls) call := by
  rw [Moving, foldl_append]
  rfl

theorem Armed.start (zoomMax : Rat) : Armed (start zoomMax) := by
  intro moving
  cases moving

theorem Armed.stopMotion (control : Control) (attempt : Attempt) :
    Armed (stopMotion control attempt) := by
  intro moving
  simp only [ManualControl.stopMotion] at moving ⊢
  rw [Moving_append] at moving
  cases failed : attempt.failed with
  | true =>
    rw [if_pos rfl]
    unfold retryMs
    omega
  | false => simp [moves, failed] at moving

variable {control : Control}

theorem Armed.acquire (armed : Armed control) (given : Token) (around : Circumstances) :
    Armed (acquire control given around).1 := by
  unfold ManualControl.acquire
  split
  · exact armed
  split
  · exact armed
  · next token _ =>
    have stopped := Armed.stopMotion { control with token } around.stop
    split
    · exact stopped
    · exact stopped

theorem Armed.execute (armed : Armed control) (packet : Packet) (around : Circumstances) :
    Armed (execute control packet around).1 := by
  unfold ManualControl.execute
  simp only
  split
  · intro _
    simp only
    unfold pulseMs
    omega
  · split
    · intro moving
      simp only [Moving_append] at moving ⊢
      cases failed : around.failed with
      | true =>
        rw [if_pos rfl]
        simp only [moves, failed, Bool.and_true] at moving
        exact armed moving
      | false => simp [moves, failed] at moving
    · intro moving
      simp only [Moving_append, moves] at moving ⊢
      exact armed moving
    · exact armed

theorem Armed.command (armed : Armed control) (packet : Packet) (around : Circumstances) :
    Armed (command control packet around).1 := by
  unfold ManualControl.command
  split
  · exact armed.acquire packet.token around
  split
  · exact armed
  split
  · have stopped := Armed.stopMotion control around.stop
    split <;> exact stopped
  split
  · exact armed
  split
  · exact armed
  split
  · exact armed
  · exact armed.execute packet around

theorem Armed.expire (armed : Armed control) (tick : Tick) : Armed (expire control tick) := by
  unfold ManualControl.expire
  split
  · exact Armed.stopMotion control tick.expiry
  · exact armed

theorem Armed.checkDeadlines (armed : Armed control) (tick : Tick) :
    Armed (checkDeadlines control tick) := by
  unfold ManualControl.checkDeadlines stopDue
  split
  · exact Armed.stopMotion _ tick.due
  · exact armed.expire tick

theorem Armed.receive (armed : Armed control) (datagram : Datagram) :
    Armed (receive control datagram) := by
  unfold ManualControl.receive
  split
  · exact armed
  split
  · exact armed
  · exact armed.command datagram.packet datagram.around

theorem Armed.update (armed : Armed control) (tick : Tick) : Armed (update control tick) := by
  have checked := armed.checkDeadlines tick
  unfold ManualControl.update
  simp only
  split
  · exact foldlRecOn _ _ checked fun _ earlier datagram _ => earlier.receive datagram
  · exact checked

theorem Armed.close (armed : Armed control) (attempt : Attempt) :
    Armed (close control attempt) := by
  unfold ManualControl.close
  split
  · exact Armed.stopMotion control attempt
  · exact armed

theorem Armed.handle (armed : Armed control) (event : Event) : Armed (handle control event) := by
  cases event with
  | command packet around => exact armed.command packet around
  | update tick => exact armed.update tick
  | close attempt => exact armed.close attempt

theorem run_armed (zoomMax : Rat) (events : List Event) : Armed (run (start zoomMax) events) :=
  foldlRecOn _ _ (.start zoomMax) fun _ armed event _ => armed.handle event

/-! ### The first update at the deadline -/

/-- The deadlines have been attended to: a stop was attempted, and when the last attempt
failed, the next one is due soon after it. -/
def StopAttempted (before after : Control) (attempts : List Attempt) : Prop :=
  ∃ tried : List Attempt, tried ≠ [] ∧ tried.Sublist attempts ∧
    after.calls = before.calls ++ tried.map (fun attempt => .rates 0 0 attempt.failed) ∧
    ∀ attempt ∈ tried.getLast?,
      after.stopMs = if attempt.failed then attempt.now + retryMs else 0

variable {tick : Tick}

theorem checkDeadlines_attempts (armed : control.stopMs ≠ 0)
    (due : control.stopMs ≤ tick.now) :
    StopAttempted control (checkDeadlines control tick) [tick.expiry, tick.due] := by
  unfold checkDeadlines stopDue expire
  by_cases expired : (control.active && decide (control.expiresMs ≤ tick.now)) = true
  · simp only [expired, if_true]
    split
    · exact ⟨[tick.expiry, tick.due], by simp, Sublist.refl _, by simp [stopMotion],
        by simp [stopMotion]⟩
    · exact ⟨[tick.expiry], by simp, by simp, by simp [stopMotion], by simp [stopMotion]⟩
  · simp only [expired, if_false, Bool.false_eq_true]
    rw [if_pos ⟨armed, due⟩]
    exact ⟨[tick.due], by simp, by simp, by simp [stopMotion], by simp [stopMotion]⟩

/-! ### Who may move the gimbal -/

/-- This token holds the lease. -/
def Holds (control : Control) (token : Token) : Prop :=
  control.active = true ∧ control.token = token

theorem command_without_lease {packet : Packet} (stranger : ¬ Holds control packet.token)
    (around : Circumstances) :
    (control.active = true → (command control packet around).1 = control) ∧
      ∃ stops : List Attempt, (command control packet around).1.calls =
        control.calls ++ stops.map (fun attempt => .rates 0 0 attempt.failed) := by
  have denied : packet.action ≠ .acquire → (command control packet around).1 = control := by
    intro other
    unfold command
    rw [if_neg other, if_pos]
    unfold Holds at stranger
    cases isActive : control.active with
    | false => rfl
    | true =>
      have different : control.token ≠ packet.token := fun same => stranger ⟨isActive, same⟩
      simpa using different
  by_cases isAcquire : packet.action = .acquire
  · unfold command acquire
    rw [if_pos isAcquire]
    refine ⟨fun isActive => by rw [if_pos isActive], ?_⟩
    split
    · exact ⟨[], by simp⟩
    split
    · exact ⟨[], by simp⟩
    · simp only
      split <;> exact ⟨[around.stop], rfl⟩
  · rw [denied isAcquire]
    exact ⟨fun _ => rfl, [], by simp⟩

theorem command_ok {packet : Packet} {around : Circumstances}
    (succeeded : (command control packet around).2.1 = .ok) :
    Holds control packet.token ∨
      (control.active = false ∧
        Holds (command control packet around).1 (command control packet around).2.2) := by
  by_cases isAcquire : packet.action = .acquire
  · right
    unfold command acquire at succeeded ⊢
    rw [if_pos isAcquire] at succeeded ⊢
    split at succeeded
    · cases succeeded
    next free =>
    split at succeeded
    · cases succeeded
    split at succeeded
    · cases succeeded
    next token fresh stopped =>
    simp only [if_neg stopped]
    rw [if_neg free]
    exact ⟨by simpa using free, rfl, rfl⟩
  · left
    unfold command at succeeded
    rw [if_neg isAcquire] at succeeded
    split at succeeded
    · cases succeeded
    · next holder =>
      simpa [Holds] using holder

section

variable (idle : control.executing = false)

include idle

theorem command_executing (packet : Packet)
    (around : Circumstances) : (command control packet around).1.executing = false := by
  unfold command
  split
  · unfold acquire
    split
    · exact idle
    split
    · exact idle
    · simp only
      split <;> rfl
  split
  · exact idle
  split
  · simp only
    split <;> rfl
  split
  · exact idle
  split
  · exact idle
  split
  · exact idle
  · simp only [execute]
    split
    · rfl
    split
    · rfl
    · rfl
    · exact idle

theorem receive_executing (datagram : Datagram) :
    (receive control datagram).executing = false := by
  unfold receive
  split
  · exact idle
  split
  · exact idle
  · exact command_executing idle datagram.packet datagram.around

theorem checkDeadlines_executing (tick : Tick) :
    (checkDeadlines control tick).executing = false := by
  have expired : (expire control tick).executing = false := by
    unfold expire
    split
    · rfl
    · exact idle
  unfold checkDeadlines stopDue
  split
  · rfl
  · exact expired

theorem close_executing (attempt : Attempt) :
    (close control attempt).executing = false := by
  unfold close
  split
  · rfl
  · exact idle

end

theorem command_acquires (free : control.active = false) {packet : Packet} {around : Circumstances}
    (active : (command control packet around).1.active = true) :
    control.suspensions < (command control packet around).1.suspensions := by
  by_cases isAcquire : packet.action = .acquire
  · unfold command acquire at active ⊢
    rw [if_pos isAcquire, free, if_neg Bool.false_ne_true] at active ⊢
    split at active
    · rw [free] at active
      cases active
    split at active
    · cases active
    · next stopped =>
      rw [if_neg stopped]
      exact Nat.lt_succ_self control.suspensions
  · unfold command at active
    rw [if_neg isAcquire, free, if_pos (by rfl), free] at active
    cases active

/-! ### The update as a whole -/

/-- What was done is kept, and a lease that nobody held is held only once it is acquired. -/
structure Extends (before after : Control) : Prop where
  calls : before.calls <+: after.calls
  suspensions : before.suspensions ≤ after.suspensions
  acquired : before.active = false → after.active = true → before.suspensions < after.suspensions

theorem Extends.refl (control : Control) : Extends control control where
  calls := prefix_rfl
  suspensions := le_rfl
  acquired free active := by
    rw [free] at active
    cases active

theorem Extends.trans {first second third : Control} (left : Extends first second)
    (right : Extends second third) : Extends first third where
  calls := left.calls.trans right.calls
  suspensions := left.suspensions.trans right.suspensions
  acquired free active := by
    cases middle : second.active with
    | false => exact lt_of_le_of_lt left.suspensions (right.acquired middle active)
    | true => exact lt_of_lt_of_le (left.acquired free middle) right.suspensions

theorem acquire_keeps (given : Token) (around : Circumstances) :
    control.calls <+: (acquire control given around).1.calls ∧
      control.suspensions ≤ (acquire control given around).1.suspensions := by
  unfold acquire
  split
  · exact ⟨prefix_rfl, le_rfl⟩
  split
  · exact ⟨prefix_rfl, le_rfl⟩
  · simp only
    split
    · exact ⟨prefix_append _ _, le_rfl⟩
    · exact ⟨prefix_append _ _, Nat.le_succ _⟩

theorem execute_keeps (packet : Packet) (around : Circumstances) :
    control.calls <+: (execute control packet around).1.calls ∧
      control.suspensions ≤ (execute control packet around).1.suspensions := by
  simp only [execute]
  split
  · exact ⟨prefix_append _ _, le_rfl⟩
  split
  · exact ⟨prefix_append _ _, le_rfl⟩
  · exact ⟨prefix_append _ _, le_rfl⟩
  · exact ⟨prefix_rfl, le_rfl⟩

theorem command_keeps (packet : Packet) (around : Circumstances) :
    control.calls <+: (command control packet around).1.calls ∧
      control.suspensions ≤ (command control packet around).1.suspensions := by
  unfold command
  split
  · exact acquire_keeps packet.token around
  split
  · exact ⟨prefix_rfl, le_rfl⟩
  split
  · simp only
    split <;> exact ⟨prefix_append _ _, le_rfl⟩
  split
  · exact ⟨prefix_rfl, le_rfl⟩
  split
  · exact ⟨prefix_rfl, le_rfl⟩
  split
  · exact ⟨prefix_rfl, le_rfl⟩
  · exact execute_keeps packet around

theorem receive_extends (datagram : Datagram) : Extends control (receive control datagram) := by
  unfold receive
  split
  · exact .refl control
  split
  · exact .refl control
  · obtain ⟨calls, suspensions⟩ := @command_keeps control datagram.packet datagram.around
    exact ⟨calls, suspensions, fun free active => command_acquires free active⟩

/-- Reading datagrams keeps what was done before, however many there are. -/
theorem receiveAll_extends (checked : Control) (datagrams : List Datagram) :
    Extends checked (datagrams.foldl receive checked) :=
  foldlRecOn _ _ (.refl checked) fun _ earlier datagram _ =>
    earlier.trans (receive_extends datagram)

/-- An update leaves what the datagrams make of this state: at most 16 are read, and none
when the socket is closed. -/
def Receives (tick : Tick) (checked after : Control) : Prop :=
  after = if checked.isOpen then (tick.datagrams.take 16).foldl receive checked else checked

theorem Receives.extends {checked after : Control}
    (receives : Receives tick checked after) : Extends checked after := by
  unfold Receives at receives
  split at receives
  · rw [receives]
    exact receiveAll_extends checked _
  · rw [receives]
    exact .refl checked

/-- An update at the deadline attempts the stop before it reads any datagram. -/
theorem update_attempts (armed : control.stopMs ≠ 0)
    (due : control.stopMs ≤ tick.now) :
    ∃ checked, StopAttempted control checked [tick.expiry, tick.due] ∧
      checked.calls <+: (update control tick).calls ∧
      Receives tick checked (update control tick) :=
  have receives : Receives tick (checkDeadlines control tick) (update control tick) := rfl
  ⟨checkDeadlines control tick, checkDeadlines_attempts armed due, receives.extends.calls, receives⟩

/-- A release whose stop succeeds, an expiry and a close leave nobody holding the lease. An
update that finds the lease expired clears it before it reads any datagram, so that afterwards
it is held only when a datagram has acquired it anew. -/
def LeaseCleared (control : Control) : Prop :=
  (∀ packet around, Holds control packet.token → packet.action = .release →
      around.stop.failed = false → (command control packet around).1.active = false) ∧
    (∀ tick, control.active = true → control.expiresMs ≤ tick.now →
      (∃ checked, checked.active = false ∧ Receives tick checked (update control tick)) ∧
        ((update control tick).active = true →
          control.suspensions < (update control tick).suspensions)) ∧
    ∀ attempt, (close control attempt).active = false

theorem checkDeadlines_expired (isActive : control.active = true)
    (expired : control.expiresMs ≤ tick.now) :
    (checkDeadlines control tick).active = false ∧
      (checkDeadlines control tick).suspensions = control.suspensions := by
  unfold checkDeadlines stopDue expire
  simp only [isActive, expired, decide_true, Bool.and_self, if_true]
  split <;> exact ⟨rfl, rfl⟩

theorem leaseCleared (control : Control) : LeaseCleared control := by
  refine ⟨fun packet around holds isRelease stops => ?_, fun tick isActive expired => ?_,
    fun attempt => rfl⟩
  · obtain ⟨isActive, same⟩ := holds
    unfold command
    rw [if_neg (by simp [isRelease]), if_neg (by simp [isActive, same]), if_pos isRelease]
    simp [stops]
  · obtain ⟨cleared, same⟩ := checkDeadlines_expired isActive expired
    have receives : Receives tick (checkDeadlines control tick) (update control tick) := rfl
    refine ⟨⟨_, cleared, receives⟩, fun active => ?_⟩
    rw [← same]
    exact receives.extends.acquired cleared active

/-- In every reachable state: a gimbal set in motion for a web client has a stop deadline; an
update at or after the deadline attempts the stop before anything else, and arms the next
attempt when it fails; a command whose token does not hold the lease moves nothing, two
tokens never hold it, and success is answered to its holder only; and a release whose stop
succeeds, an expiry and a close clear the holder. -/
theorem manual_control_ends_in_stop (zoomMax : Rat) (events : List Event) :
    let control := run (start zoomMax) events
    (Moving control.calls = true → control.stopMs ≠ 0) ∧
      (∀ tick, control.stopMs ≠ 0 → control.stopMs ≤ tick.now →
        ∃ checked, StopAttempted control checked [tick.expiry, tick.due] ∧
          checked.calls <+: (update control tick).calls ∧
          Receives tick checked (update control tick)) ∧
      (∀ first second, Holds control first → Holds control second → first = second) ∧
      (∀ packet around, ¬ Holds control packet.token →
        (control.active = true → (command control packet around).1 = control) ∧
          ∃ stops : List Attempt, (command control packet around).1.calls =
            control.calls ++ stops.map (fun attempt => .rates 0 0 attempt.failed)) ∧
      (∀ packet around, (command control packet around).2.1 = .ok →
        Holds control packet.token ∨ (control.active = false ∧
          Holds (command control packet around).1 (command control packet around).2.2)) ∧
      LeaseCleared control :=
  ⟨run_armed zoomMax events, fun _ armed due => update_attempts armed due,
    fun _ _ first second => first.2.symm.trans second.2,
    fun _ around stranger => command_without_lease stranger around,
    fun _ _ succeeded => command_ok succeeded, leaseCleared _⟩

/-- A gimbal call that succeeds at time zero, with a token to give out. -/
def smooth : Circumstances :=
  { now := 0, fresh := some 7, stop := { failed := false, now := 0 }, failed := false }

/-- A packet with this action and the token of the lease. -/
def request (action : Action) : Packet :=
  { magic := manualMagic, action, token := 7, value := none }

/-- A release whose stop fails leaves the lease with its holder, so that it can be tried
again. -/
theorem release_with_failed_stop_keeps_lease :
    let held := run (start 6) [.command (request .acquire) smooth]
    let released := command held (request .release)
      { smooth with stop := { failed := true, now := 0 } }
    Holds held 7 ∧ released.2.1 = .ioError ∧ Holds released.1 7 := by
  refine ⟨⟨?_, ?_⟩, ?_, ?_, ?_⟩ <;> decide

end ManualControl
