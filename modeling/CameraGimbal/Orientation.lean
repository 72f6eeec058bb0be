/-
This file is about the orientation of the picture, which each of the three cameras sets channel by
channel, and about the crop that one of them sets with it.

All three skip a call that asks for the orientation that was last set with success. When a channel
cannot be set, the calls leave different things behind. The A8 keeps what it was asked for, and the
next call that writes the channels writes it; the MT11 keeps the channels that it has turned; the
ZR10 turns the channels back.
-/

import CameraGimbal.Sweep

namespace Orientation

open Sweep List

structure Rect where
  x : UInt16
  y : UInt16
  width : UInt16
  height : UInt16
  deriving DecidableEq, Repr

/-- Mirroring and flipping of a channel. -/
structure Turn where
  mirror : Bool
  flip : Bool
  deriving DecidableEq, Repr

/-- An inverted picture is mirrored and flipped. -/
def Turn.of (inverted : Bool) : Turn := ⟨inverted, inverted⟩

/-! ### The A8 -/

namespace A8

/-- `CA_A8_VENC_COUNT`. -/
def vencCount : Nat := 3

/-- A port of the scaler. A crop of zeros is the whole sensor. -/
structure Port where
  crop : Rect
  turn : Turn
  deriving DecidableEq, Repr

/-- `struct a8_pipeline` and the ports behind it. -/
structure Pipeline where
  started : Bool
  inverted : Bool
  zoomCrop : Rect
  ports : List Port
  deriving DecidableEq, Repr

/-- The port without a crop and upright. -/
def Port.plain : Port := ⟨⟨0, 0, 0, 0⟩, .of false⟩

/-- The pipeline when it has been opened. -/
def opened : Pipeline where
  started := true
  inverted := false
  zoomCrop := ⟨0, 0, 0, 0⟩
  ports := List.replicate vencCount .plain

/-- `scl_port_config`. A port whose configuration fails is as before. -/
def sclPortConfig (p : Pipeline) (fails : Nat → Bool) (port : Nat) (old : Port) : Port × Bool :=
  if fails port then (old, false) else (⟨p.zoomCrop, .of p.inverted⟩, true)

def configurePorts (p : Pipeline) (fails : Nat → Bool) : Pipeline × Bool :=
  ({ p with ports := (sweep (sclPortConfig p fails) 0 p.ports).1 },
    (sweep (sclPortConfig p fails) 0 p.ports).2.isNone)

variable {Ratio : Type} (cropOf : Ratio → Option Rect)

/-- `ca_a8_set_zoom`. The crop of a ratio is its floating-point part; there is none for a ratio out
of range. -/
def setZoom (p : Pipeline) (ratio : Ratio) (fails : Nat → Bool) : Pipeline × Bool :=
  if p.started then
    match cropOf ratio with
    | some crop => configurePorts { p with zoomCrop := crop } fails
    | none => (p, false)
  else (p, false)

/-- `ca_a8_set_inverted`. -/
def setInverted (p : Pipeline) (inverted : Bool) (fails : Nat → Bool) : Pipeline × Bool :=
  if p.started then configurePorts { p with inverted } fails else (p, false)

/-- The media: the orientation and the zoom that were last set with success. -/
structure Media (Ratio : Type) where
  inverted : Bool
  zoom : Ratio
  pipeline : Pipeline

/-- `ca_media_impl_set_zoom`. -/
def Media.setZoom (m : Media Ratio) (zoom : Ratio) (fails : Nat → Bool) : Media Ratio × Bool :=
  match A8.setZoom cropOf m.pipeline zoom fails with
  | (pipeline, true) => ({ m with pipeline, zoom }, true)
  | (pipeline, false) => ({ m with pipeline }, false)

/-- `ca_media_impl_set_inverted`: nothing is done when the picture is believed to be so already. -/
def Media.setInverted (m : Media Ratio) (inverted : Bool) (fails : Nat → Bool) :
    Media Ratio × Bool :=
  if m.inverted = inverted then (m, true)
  else
    match A8.setInverted m.pipeline inverted fails with
    | (pipeline, true) => ({ m with pipeline, inverted }, true)
    | (pipeline, false) => ({ m with pipeline }, false)

/-- A call, and the ports whose configuration fails in it. -/
inductive Call (Ratio : Type) where
  | zoom (ratio : Ratio) (fails : Nat → Bool)
  | invert (inverted : Bool) (fails : Nat → Bool)

def step (m : Media Ratio) : Call Ratio → Media Ratio × Bool
  | .zoom ratio fails => m.setZoom cropOf ratio fails
  | .invert inverted fails => m.setInverted inverted fails

def Call.asks : Call Ratio → Port → Port
  | .zoom ratio _, port => match cropOf ratio with
    | some crop => { port with crop }
    | none => port
  | .invert inverted _, port => { port with turn := .of inverted }

def Call.fails : Call Ratio → Nat → Bool
  | .zoom _ fails | .invert _ fails => fails

/-- A call to turn the picture to where it was last turned with success. -/
def Call.skips (last : Port) : Call Ratio → Bool
  | .zoom _ _ => false
  | .invert inverted _ => decide (last.turn = .of inverted)

/-- A call that configures the ports: it is not skipped, and its ratio is in range. -/
def Call.writes (last : Port) : Call Ratio → Bool
  | .zoom ratio _ => (cropOf ratio).isSome
  | .invert inverted _ => !decide (last.turn = .of inverted)

/-- The port is configured: its configuration does not fail, nor does one in front of it. -/
def reaches (fails : Nat → Bool) (port : Nat) : Bool :=
  (List.range' 0 (port + 1)).all (!fails ·)

/-- All of the ports are configured. -/
def completes (fails : Nat → Bool) : Bool := (List.range' 0 vencCount).all (!fails ·)

/-- Every port shows it. -/
def Shared (m : Media Ratio) (port : Port) : Prop := ∀ shown ∈ m.pipeline.ports, shown = port

/-- Whenever a call that configures the ports succeeds, what was asked for by all such calls so far
is what was asked for by those that succeeded. Whenever a call is skipped, each port was last
reached by a call that asked for what was last asked for with success. -/
def Settled : Port → (Nat → Port) → Port → List (Call Ratio) → Prop
  | _, _, _, [] => True
  | asked, reached, last, call :: later =>
    if call.writes cropOf last then
      (completes call.fails = true → call.asks cropOf asked = call.asks cropOf last) ∧
        Settled (call.asks cropOf asked)
          (fun port => if reaches call.fails port then call.asks cropOf asked else reached port)
          (if completes call.fails then call.asks cropOf last else last) later
    else
      (call.skips last = true → ∀ port < vencCount, reached port = last) ∧
        Settled asked reached last later

/-- What the next configuration of a port is. -/
def Pipeline.kept (p : Pipeline) : Port := ⟨p.zoomCrop, .of p.inverted⟩

theorem Turn.of_inj {left right : Bool} : Turn.of left = .of right ↔ left = right :=
  ⟨congrArg Turn.mirror, congrArg Turn.of⟩

/-- The ports show what they were last reached for, and the orientation that was last set with
success is remembered. -/
structure Carries (m : Media Ratio) (asked : Port) (reached : Nat → Port) (last : Port) :
    Prop where
  started : m.pipeline.started = true
  kept : m.pipeline.kept = asked
  turned : last.turn = .of m.inverted
  ports : m.pipeline.ports = (List.range' 0 vencCount).map reached

variable {m : Media Ratio} {asked last : Port} {reached : Nat → Port}

theorem Carries.shared (carries : Carries m asked reached last) (port : Port) :
    Shared m port ↔ ∀ number < vencCount, reached number = port := by
  unfold Shared
  rw [carries.ports, forall_mem_map]
  simp only [mem_range'_1, Nat.zero_le, true_and, Nat.zero_add]

theorem configurePorts_reached {p : Pipeline}
    (ports : p.ports = (range' 0 vencCount).map reached) (fails : Nat → Bool) :
    configurePorts p fails =
      ({ p with ports := (range' 0 vencCount).map fun port =>
          if reaches fails port then p.kept else reached port },
        completes fails) := by
  have given : ∀ number cell, sclPortConfig p fails number cell =
      if !fails number then (p.kept, true) else (cell, false) := by
    intro number cell
    unfold sclPortConfig
    cases fails number with
    | true => rfl
    | false => rfl
  unfold configurePorts
  rw [ports, sweep_reached given, sweep_complete (fun number cell => ?_)]
  · rw [length_map, length_range']
    rfl
  · rw [given]
    cases fails number with
    | true => rfl
    | false => rfl

theorem Media.setZoom_eq (m : Media Ratio) (zoom : Ratio) (fails : Nat → Bool) :
    m.setZoom cropOf zoom fails =
      ({ m with
          pipeline := (A8.setZoom cropOf m.pipeline zoom fails).1
          zoom := if (A8.setZoom cropOf m.pipeline zoom fails).2 then zoom else m.zoom },
        (A8.setZoom cropOf m.pipeline zoom fails).2) := by
  unfold Media.setZoom
  obtain ⟨pipeline, _ | _⟩ := A8.setZoom cropOf m.pipeline zoom fails
  · rfl
  · rfl

theorem Media.setInverted_eq {inverted : Bool} (other : ¬ m.inverted = inverted)
    (fails : Nat → Bool) :
    m.setInverted inverted fails =
      ({ m with
          pipeline := (A8.setInverted m.pipeline inverted fails).1
          inverted := if (A8.setInverted m.pipeline inverted fails).2 then inverted
            else m.inverted },
        (A8.setInverted m.pipeline inverted fails).2) := by
  unfold Media.setInverted
  rw [if_neg other]
  obtain ⟨pipeline, _ | _⟩ := A8.setInverted m.pipeline inverted fails
  · rfl
  · rfl

section

variable (carries : Carries m asked reached last)

include carries

/-- A call that configures the ports. -/
theorem step_writes {call : Call Ratio}
    (writes : call.writes cropOf last = true) :
    (step cropOf m call).2 = completes call.fails ∧
      Carries (step cropOf m call).1 (call.asks cropOf asked)
        (fun port => if reaches call.fails port then call.asks cropOf asked else reached port)
        (if completes call.fails then call.asks cropOf last else last) := by
  obtain ⟨started, rfl, turned, ports⟩ := carries
  cases call with
  | zoom ratio fails =>
    obtain ⟨crop, found⟩ := Option.isSome_iff_exists.mp writes
    have asks : ∀ port, (Call.zoom ratio fails).asks cropOf port = { port with crop } := by
      intro port
      rw [Call.asks, found]
    have result : A8.setZoom cropOf m.pipeline ratio fails =
        configurePorts { m.pipeline with zoomCrop := crop } fails := by
      rw [A8.setZoom, if_pos started, found]
    have configured :=
      configurePorts_reached (p := { m.pipeline with zoomCrop := crop }) ports fails
    rw [show step cropOf m (.zoom ratio fails) = m.setZoom cropOf ratio fails from rfl,
      Media.setZoom_eq, result, configured, asks, asks]
    refine ⟨rfl, started, rfl, ?_, rfl⟩
    split
    · exact turned
    · exact turned
  | invert inverted fails =>
    have other : ¬ m.inverted = inverted := by
      rw [Call.writes, turned, Bool.not_eq_true', decide_eq_false_iff_not, Turn.of_inj] at writes
      exact writes
    have result : A8.setInverted m.pipeline inverted fails =
        configurePorts { m.pipeline with inverted } fails := if_pos started
    have configured := configurePorts_reached (p := { m.pipeline with inverted }) ports fails
    rw [show step cropOf m (.invert inverted fails) = m.setInverted inverted fails from rfl,
      Media.setInverted_eq other, result, configured]
    refine ⟨rfl, started, rfl, ?_, rfl⟩
    show (if completes fails then _ else last).turn = Turn.of (if completes fails then _ else _)
    split
    · rfl
    · exact turned

/-- A call that does not configure the ports leaves everything as it is; it succeeds when it is
skipped. -/
theorem step_rests {call : Call Ratio}
    (rests : call.writes cropOf last = false) :
    (step cropOf m call).2 = call.skips last ∧ (step cropOf m call).1 = m ∧
      (call.skips last = true → call.asks cropOf last = last) := by
  cases call with
  | zoom ratio fails =>
    have refused : cropOf ratio = none := Option.not_isSome_iff_eq_none.mp (by
      rw [Call.writes] at rests
      rw [rests]
      exact Bool.false_ne_true)
    have result : A8.setZoom cropOf m.pipeline ratio fails = (m.pipeline, false) :=
      (if_pos carries.started).trans (by rw [refused])
    rw [show step cropOf m (.zoom ratio fails) = m.setZoom cropOf ratio fails from rfl,
      Media.setZoom_eq, result]
    exact ⟨rfl, rfl, nofun⟩
  | invert inverted fails =>
    have same : last.turn = .of inverted := by
      rw [Call.writes, Bool.not_eq_false', decide_eq_true_eq] at rests
      exact rests
    have skipped : m.inverted = inverted := Turn.of_inj.mp (carries.turned.symm.trans same)
    have result : step cropOf m (.invert inverted fails) = (m, true) := if_pos skipped
    rw [result]
    refine ⟨(decide_eq_true same).symm, rfl, fun _ => ?_⟩
    rw [Call.asks, ← same]

theorem shows_iff_settled (calls : List (Call Ratio)) :
    Shows (step cropOf) (Call.asks cropOf) Shared m last calls ↔
      Settled cropOf asked reached last calls := by
  induction calls generalizing m asked reached last with
  | nil => exact Iff.rfl
  | cons call later hypothesis =>
    unfold Shows Settled
    cases writes : call.writes cropOf last with
    | true =>
      obtain ⟨succeeds, after⟩ := step_writes cropOf carries writes
      rw [if_pos rfl, succeeds]
      refine and_congr (forall_congr' fun complete => ?_) (hypothesis after)
      have reaches : ∀ port < vencCount, reaches call.fails port = true := by
        intro port small
        refine all_eq_true.mpr fun number member => ?_
        refine all_eq_true.mp complete number ?_
        simp only [mem_range'_1] at member ⊢
        omega
      rw [after.shared]
      refine ⟨fun shows => ?_, fun same port small => ?_⟩
      · have first := shows 0 (Nat.succ_pos 2)
        rwa [if_pos (reaches 0 (Nat.succ_pos 2))] at first
      · rw [if_pos (reaches port small)]
        exact same
    | false =>
      obtain ⟨skips, same, asks⟩ := step_rests cropOf carries writes
      rw [if_neg Bool.false_ne_true, skips, same]
      cases skipped : call.skips last with
      | false =>
        exact and_congr (iff_of_true nofun nofun) (hypothesis carries)
      | true =>
        rw [if_pos rfl, asks skipped]
        exact and_congr (forall_congr' fun _ => carries.shared last) (hypothesis carries)

end

end A8

/-! ### The ZR10 -/

namespace Zr10

/-- `CA_ZR10_VENC_COUNT`. -/
def vencCount : Nat := 3

/-- The pipeline and the ports behind it. -/
structure Pipeline where
  vpeUp : Bool
  inverted : Bool
  ports : List Turn

/-- The media: the orientation and the zoom that were last set with success. -/
structure Media (Ratio : Type) where
  inverted : Bool
  zoom : Ratio
  pipeline : Pipeline

/-- `MI_VPE_SetPortMode`. A port whose mode cannot be set is as before. -/
def setPortMode (inverted : Bool) (fails : Nat → Bool) (port : Nat) (old : Turn) : Turn × Bool :=
  if fails port then (old, false) else (.of inverted, true)

/-- `ca_zr10_set_inverted`. The ports in front of one that fails are set back; that this fails too
is left out. -/
def setInverted (p : Pipeline) (value : Bool) (fails : Nat → Bool) : Pipeline × Bool :=
  if p.vpeUp then
    match sweep (setPortMode value fails) 0 p.ports with
    | (ports, none) => ({ p with ports, inverted := value }, true)
    | (ports, some failed) =>
      ({ p with
          ports := (sweep (setPortMode p.inverted fun _ => false) 0 (ports.take failed)).1 ++
            ports.drop failed },
        false)
  else (p, false)

variable {Ratio : Type}

/-- `ca_media_impl_set_inverted`: nothing is done when the picture is believed to be so already. -/
def Media.setInverted (m : Media Ratio) (inverted : Bool) (fails : Nat → Bool) :
    Media Ratio × Bool :=
  if m.inverted = inverted then (m, true)
  else
    match Zr10.setInverted m.pipeline inverted fails with
    | (pipeline, true) => ({ m with pipeline, inverted }, true)
    | (pipeline, false) => ({ m with pipeline }, false)

/-- `ca_media_impl_set_zoom`: the lens zooms, and no port is touched. -/
def Media.setZoom (inRange : Ratio → Bool) (m : Media Ratio) (zoom : Ratio) :
    Media Ratio × Bool :=
  if inRange zoom then ({ m with zoom }, true) else (m, false)

/-- A call, and the ports whose mode cannot be set in it. -/
inductive Call (Ratio : Type) where
  | zoom (ratio : Ratio)
  | invert (inverted : Bool) (fails : Nat → Bool)

def step (inRange : Ratio → Bool) (m : Media Ratio) : Call Ratio → Media Ratio × Bool
  | .zoom ratio => m.setZoom inRange ratio
  | .invert inverted fails => m.setInverted inverted fails

def Call.asks : Call Ratio → Bool → Bool
  | .zoom _, inverted => inverted
  | .invert inverted _, _ => inverted

/-- Every port shows it. -/
def Shared (m : Media Ratio) (inverted : Bool) : Prop :=
  ∀ port ∈ m.pipeline.ports, port = .of inverted

/-- The ports show what the pipeline keeps. -/
def Kept (p : Pipeline) (inverted : Bool) : Prop :=
  p.inverted = inverted ∧ ∀ port ∈ p.ports, port = .of inverted

theorem sweep_shared {inverted : Bool} {fails : Nat → Bool} {number : Nat} {ports : List Turn}
    (complete : (sweep (setPortMode inverted fails) number ports).2 = none) :
    ∀ port ∈ (sweep (setPortMode inverted fails) number ports).1, port = .of inverted := by
  refine sweep_written (fun number cell success => ?_) complete
  unfold setPortMode at success ⊢
  by_cases failed : fails number = true
  · rw [if_pos failed] at success
    cases success
  · rw [if_neg failed]

theorem setInverted_kept {p : Pipeline} {last : Bool} (kept : Kept p last) (value : Bool)
    (fails : Nat → Bool) :
    Kept (setInverted p value fails).1 (if (setInverted p value fails).2 then value else last) := by
  obtain ⟨rfl, shared⟩ := kept
  unfold setInverted
  by_cases up : p.vpeUp = true
  · rw [if_pos up]
    have complete := @sweep_shared value fails 0 p.ports
    have behind := @sweep_behind _ (setPortMode value fails) 0 (by
      intro number cell failed
      unfold setPortMode at failed ⊢
      by_cases refuses : fails number = true
      · rw [if_pos refuses]
      · rw [if_neg refuses] at failed
        exact absurd failed.symm Bool.false_ne_true) p.ports
    generalize sweep (setPortMode value fails) 0 p.ports = swept at complete behind
    obtain ⟨ports, _ | failed⟩ := swept
    · exact ⟨rfl, complete rfl⟩
    · obtain ⟨-, same⟩ := behind rfl
      refine ⟨rfl, forall_mem_append.mpr ⟨?_, ?_⟩⟩
      · refine sweep_shared ?_
        have given := @sweep_complete _ (setPortMode p.inverted fun _ => false) (fun _ => true)
          (fun _ _ => rfl) 0 (ports.take failed)
        rw [all_eq_true.mpr fun _ _ => rfl] at given
        exact Option.isNone_iff_eq_none.mp given
      · rw [Nat.sub_zero] at same
        rw [same]
        exact fun port member => shared port (mem_of_mem_drop member)
  · rw [if_neg up]
    exact ⟨rfl, shared⟩

theorem shows_kept (inRange : Ratio → Bool) {m : Media Ratio} {last : Bool}
    (kept : m.inverted = last ∧ Kept m.pipeline last) (calls : List (Call Ratio)) :
    Shows (step inRange) Call.asks Shared m last calls := by
  refine shows_of_invariant (fun (m : Media Ratio) last => m.inverted = last ∧ Kept m.pipeline last)
    (fun m last call kept => ?_) (fun m last kept => kept.2.2) calls kept
  cases call with
  | zoom ratio =>
    show _ = (if (m.setZoom inRange ratio).2 then last else last) ∧
      Kept _ (if (m.setZoom inRange ratio).2 then last else last)
    rw [ite_self]
    show (m.setZoom inRange ratio).1.inverted = _ ∧ Kept (m.setZoom inRange ratio).1.pipeline _
    unfold Media.setZoom
    split
    · exact kept
    · exact kept
  | invert inverted fails =>
    obtain ⟨rfl, kept⟩ := kept
    show (m.setInverted inverted fails).1.inverted =
        (if (m.setInverted inverted fails).2 then inverted else m.inverted) ∧
      Kept (m.setInverted inverted fails).1.pipeline
        (if (m.setInverted inverted fails).2 then inverted else m.inverted)
    unfold Media.setInverted
    by_cases same : m.inverted = inverted
    · rw [if_pos same, ← same]
      exact ⟨rfl, kept⟩
    · have after := setInverted_kept kept inverted fails
      rw [if_neg same]
      generalize Zr10.setInverted m.pipeline inverted fails = result at after
      obtain ⟨pipeline, _ | _⟩ := result
      · exact ⟨rfl, after⟩
      · exact ⟨rfl, after⟩

end Zr10

/-! ### The MT11 -/

namespace Mt11

/-- The groups of channels: `CA_MT11_ZOOM_GROUP` and `CA_MT11_WIDE_GROUP`. -/
inductive Group where
  | zoom
  | wide
  deriving DecidableEq, Repr

def channelsOfGroup : Nat := 3

def channelCount : Nat := 2 * channelsOfGroup

/-- Which calls for a channel succeed. -/
structure Results where
  disable : Bool
  get : Bool
  set : Bool
  enable : Bool

/-- The attributes of the channel are set. -/
def Results.written (results : Results) : Bool := results.disable && results.get && results.set

def Results.succeed (results : Results) : Bool := results.written && results.enable

/-- The digital zoom of a group. -/
structure View (Ratio : Type) where
  ratio : Ratio
  crop : Option Rect

/-- The zoom of the media. -/
structure Zooms (Ratio : Type) where
  zoom : Ratio
  views : Group → View Ratio

/-- The media, and the channels behind it in the order in which they are written. -/
structure Media (Ratio : Type) where
  inverted : Bool
  outputInverted : Bool
  channels : List Turn
  zooms : Zooms Ratio

/-- The floating-point part of the zoom: the group of a ratio in range, its digital ratio, when two
of them count as one, and the crop. -/
structure Optics (Ratio : Type) where
  group : Ratio → Option Group
  digital : Ratio → Ratio
  near : Ratio → Ratio → Bool
  crop : Ratio → Option Rect

/-- Which parts of a zoom succeed. -/
structure ZoomResults where
  optical : Bool
  crop : Bool
  lens : Bool
  sources : Bool

/-- The attributes of a channel are read and written while it is disabled. -/
def writeChannel (inverted : Bool) (results : Nat → Nat → Results) (number : Nat) (old : Turn) :
    Turn × Bool :=
  let result := results (number / channelsOfGroup) (number % channelsOfGroup)
  (if result.written then .of inverted else old, result.succeed)

variable {Ratio : Type}

/-- `ca_media_impl_set_inverted` with `ca_mt11_set_inverted`. -/
def setInverted (m : Media Ratio) (inverted : Bool) (results : Nat → Nat → Results) :
    Media Ratio × Bool :=
  if m.inverted = inverted then (m, true)
  else
    match sweep (writeChannel inverted results) 0 m.channels with
    | (channels, none) => ({ m with channels, outputInverted := inverted, inverted }, true)
    | (channels, some _) => ({ m with channels }, false)

variable (optics : Optics Ratio)

/-- `ca_mt11_set_digital_zoom`, when the digital ratio of the group changes. -/
def Zooms.setView (zooms : Zooms Ratio) (group : Group) (ratio : Ratio) (succeeds : Bool) :
    Zooms Ratio × Bool :=
  if optics.near ratio (zooms.views group).ratio then (zooms, true)
  else if succeeds then
    ({ zooms with
        views := fun other => if other = group then ⟨ratio, optics.crop ratio⟩
          else zooms.views other },
      true)
  else (zooms, false)

/-- `ca_media_impl_set_zoom`. It sets the crop of a group, and no channel. -/
def Zooms.set (zooms : Zooms Ratio) (zoom : Ratio) (results : ZoomResults) :
    Zooms Ratio × Bool :=
  match optics.group zoom with
  | none => (zooms, false)
  | some group =>
    if results.optical then
      match zooms.setView optics group (optics.digital zoom) results.crop with
      | (zooms, false) => (zooms, false)
      | (zooms, true) =>
        if results.lens && results.sources then ({ zooms with zoom }, true) else (zooms, false)
    else (zooms, false)

inductive Call (Ratio : Type) where
  | zoom (ratio : Ratio) (results : ZoomResults)
  | invert (inverted : Bool) (results : Nat → Nat → Results)

def step (m : Media Ratio) : Call Ratio → Media Ratio × Bool
  | .zoom ratio results =>
    ({ m with zooms := (m.zooms.set optics ratio results).1 },
      (m.zooms.set optics ratio results).2)
  | .invert inverted results => setInverted m inverted results

def Call.asks : Call Ratio → Bool → Bool
  | .zoom _ _, inverted => inverted
  | .invert inverted _, _ => inverted

/-- Every channel shows it, and so does the thermal picture. -/
def Shared (m : Media Ratio) (inverted : Bool) : Prop :=
  m.outputInverted = inverted ∧ ∀ channel ∈ m.channels, channel = .of inverted

/-- All of the channels are written. -/
def completes (results : Nat → Nat → Results) : Bool :=
  (List.range' 0 channelCount).all fun number =>
    (results (number / channelsOfGroup) (number % channelsOfGroup)).succeed

/-- Whenever a call succeeds without writing the channels, no call that has failed since they were
all written had turned the first of them. -/
def Unturned : Bool → Bool → Zooms Ratio → List (Call Ratio) → Prop
  | _, _, _, [] => True
  | last, turned, zooms, .zoom ratio results :: later =>
    ((zooms.set optics ratio results).2 = true → turned = false) ∧
      Unturned last turned (zooms.set optics ratio results).1 later
  | last, turned, zooms, .invert inverted results :: later =>
    if last = inverted then turned = false ∧ Unturned last turned zooms later
    else if completes results then Unturned inverted false zooms later
    else Unturned last (turned || (results 0 0).written) zooms later

/-- The channels show the orientation that was asked for with success, or the first of them is
turned the other way. -/
structure Carries (m : Media Ratio) (last turned : Bool) : Prop where
  count : m.channels.length = channelCount
  kept : m.inverted = last
  output : m.outputInverted = last
  upright : turned = false → ∀ channel ∈ m.channels, channel = .of last
  first : turned = true → m.channels.head? = some (.of !last)

variable {m : Media Ratio} {last turned : Bool}

theorem Carries.shared (carries : Carries m last turned) : Shared m last ↔ turned = false := by
  refine ⟨fun shared => ?_, fun upright => ⟨carries.output, carries.upright upright⟩⟩
  cases turned with
  | false => rfl
  | true =>
    have first := carries.first rfl
    have same := shared.2 _ (mem_of_mem_head? first)
    have inverted := congrArg Turn.mirror same
    cases last with
    | false => cases inverted
    | true => cases inverted

theorem sweep_upright {inverted : Bool} {results : Nat → Nat → Results} {number : Nat}
    {channels : List Turn}
    (complete : (sweep (writeChannel inverted results) number channels).2 = none) :
    ∀ channel ∈ (sweep (writeChannel inverted results) number channels).1,
      channel = .of inverted := by
  refine sweep_written (fun number old succeeds => ?_) complete
  exact if_pos (Bool.and_eq_true_iff.mp succeeds).1

theorem sweep_first {inverted : Bool} {results : Nat → Nat → Results} {channels : List Turn}
    {failed : Nat} (fails : (sweep (writeChannel inverted results) 0 channels).2 = some failed) :
    if (results 0 0).written then
      (sweep (writeChannel inverted results) 0 channels).1.head? = some (.of inverted)
    else (sweep (writeChannel inverted results) 0 channels).1 = channels := by
  cases channels with
  | nil => cases fails
  | cons first later =>
    by_cases written : (results 0 0).written = true
    · have first_eq : (writeChannel inverted results 0 first).1 = .of inverted := if_pos written
      rw [if_pos written]
      cases succeeds : (writeChannel inverted results 0 first).2 with
      | false =>
        rw [sweep_fails succeeds, first_eq]
        rfl
      | true =>
        rw [sweep_succeeds succeeds, first_eq]
        rfl
    · have first_eq : (writeChannel inverted results 0 first).1 = first := if_neg written
      have unwritten := eq_false_of_ne_true written
      have refused : (writeChannel inverted results 0 first).2 = false := by
        show ((results 0 0).written && (results 0 0).enable) = false
        rw [unwritten, Bool.false_and]
      rw [if_neg written, sweep_fails refused, first_eq]

theorem setInverted_carries (carries : Carries m last turned) {inverted : Bool}
    (other : last ≠ inverted) (results : Nat → Nat → Results) :
    (setInverted m inverted results).2 = completes results ∧
      if completes results then Carries (setInverted m inverted results).1 inverted false
      else Carries (setInverted m inverted results).1 last (turned || (results 0 0).written) := by
  have differs : ¬ m.inverted = inverted := by
    rw [carries.kept]
    exact other
  have complete := @sweep_complete _ (writeChannel inverted results) _ (fun _ _ => rfl) 0 m.channels
  have length := length_sweep (writeChannel inverted results) 0 m.channels
  have upright := @sweep_upright inverted results 0 m.channels
  have head := @sweep_first inverted results m.channels
  rw [carries.count] at complete length
  unfold setInverted
  rw [if_neg differs]
  generalize sweep (writeChannel inverted results) 0 m.channels = swept
    at complete length upright head
  have complete : swept.2.isNone = completes results := complete
  obtain ⟨channels, _ | failed⟩ := swept
  · rw [← complete]
    exact ⟨rfl, length, rfl, rfl, fun _ => upright rfl, nofun⟩
  · rw [← complete]
    refine ⟨rfl, ?_⟩
    show Carries { m with channels } last (turned || (results 0 0).written)
    have head := @head failed rfl
    by_cases written : (results 0 0).written = true
    · rw [if_pos written] at head
      rw [written, Bool.or_true]
      have opposite : inverted = !last := by
        cases last with
        | false => exact eq_true_of_ne_false (Ne.symm other)
        | true => exact eq_false_of_ne_true (Ne.symm other)
      rw [opposite] at head
      exact ⟨length, carries.kept, carries.output, nofun, fun _ => head⟩
    · rw [if_neg written] at head
      rw [eq_false_of_ne_true written, Bool.or_false]
      have same : channels = m.channels := head
      rw [same]
      exact ⟨carries.count, carries.kept, carries.output, carries.upright, carries.first⟩

theorem setInverted_zooms (m : Media Ratio) (inverted : Bool)
    (results : Nat → Nat → Results) : (setInverted m inverted results).1.zooms = m.zooms := by
  unfold setInverted
  split
  · rfl
  · generalize sweep (writeChannel inverted results) 0 m.channels = swept
    obtain ⟨channels, _ | failed⟩ := swept
    · rfl
    · rfl

theorem shows_iff_unturned (carries : Carries m last turned) (calls : List (Call Ratio)) :
    Shows (step optics) Call.asks Shared m last calls ↔
      Unturned optics last turned m.zooms calls := by
  induction calls generalizing m last turned with
  | nil => exact Iff.rfl
  | cons call later hypothesis =>
    cases call with
    | zoom ratio results =>
      have after : Carries { m with zooms := (m.zooms.set optics ratio results).1 } last turned :=
        ⟨carries.count, carries.kept, carries.output, carries.upright, carries.first⟩
      refine and_congr (forall_congr' fun _ => after.shared) ?_
      show Shows _ _ _ _ (if (m.zooms.set optics ratio results).2 then last else last) later ↔ _
      rw [ite_self]
      exact hypothesis after
    | invert inverted results =>
      unfold Shows Unturned
      by_cases same : last = inverted
      · have skipped : step optics m (.invert inverted results) = (m, true) :=
          if_pos (carries.kept.trans same)
        rw [skipped, if_pos same, if_pos rfl]
        show (true = true → Shared m inverted) ∧ Shows _ _ _ m inverted later ↔ _
        rw [← same]
        exact and_congr (forall_prop_of_true rfl |>.trans carries.shared) (hypothesis carries)
      · obtain ⟨succeeds, after⟩ := setInverted_carries carries same results
        have result : step optics m (.invert inverted results) =
            setInverted m inverted results := rfl
        rw [if_neg same, result, succeeds]
        by_cases complete : completes results = true
        · rw [if_pos complete] at after ⊢
          rw [if_pos complete]
          refine (and_iff_right fun _ => after.shared.mpr rfl).trans ?_
          rw [← setInverted_zooms m inverted results]
          exact hypothesis after
        · rw [if_neg complete] at after ⊢
          rw [if_neg complete]
          refine (and_iff_right fun success => absurd success complete).trans ?_
          rw [← setInverted_zooms m inverted results]
          exact hypothesis after

end Mt11

/-! ### The cameras -/

variable {Ratio : Type}

def A8.Media.opened (zoom : Ratio) : A8.Media Ratio := ⟨false, zoom, A8.opened⟩

def Zr10.Media.opened (zoom : Ratio) : Zr10.Media Ratio where
  inverted := false
  zoom
  pipeline := ⟨true, false, List.replicate Zr10.vencCount (.of false)⟩

def Mt11.opened (zooms : Mt11.Zooms Ratio) : Mt11.Media Ratio where
  inverted := false
  outputInverted := false
  channels := List.replicate Mt11.channelCount (.of false)
  zooms

/-- In every run of calls some of which fail, the channels of the ZR10 share the orientation that
was asked for with success after each call that succeeds. The ports of the A8 do so, with the crop,
just when a call that writes them succeeds only with nothing else asked for, and a call is skipped
only with every port last reached for what was set with success. The channels of the MT11 do so just
when no call that failed has left the first of them turned. -/
theorem channels_share (cropOf : Ratio → Option Rect) (inRange : Ratio → Bool)
    (optics : Mt11.Optics Ratio) (zoom : Ratio) (zooms : Mt11.Zooms Ratio) :
    (∀ calls, Shows (A8.step cropOf) (A8.Call.asks cropOf) A8.Shared (A8.Media.opened zoom) .plain
          calls ↔
        A8.Settled cropOf .plain (fun _ => .plain) .plain calls) ∧
      (∀ calls, Shows (Zr10.step inRange) Zr10.Call.asks Zr10.Shared (Zr10.Media.opened zoom) false
        calls) ∧
      ∀ calls, Shows (Mt11.step optics) Mt11.Call.asks Mt11.Shared (Mt11.opened zooms) false calls ↔
        Mt11.Unturned optics false false zooms calls := by
  refine ⟨fun calls => ?_, fun calls => ?_, fun calls => ?_⟩
  · exact A8.shows_iff_settled cropOf ⟨rfl, rfl, rfl, rfl⟩ calls
  · have shown : ∀ port ∈ List.replicate Zr10.vencCount (Turn.of false), port = .of false :=
      fun port member => List.eq_of_mem_replicate member
    exact Zr10.shows_kept inRange ⟨rfl, rfl, shown⟩ calls
  · have carries : Mt11.Carries (Mt11.opened zooms) false false :=
      ⟨rfl, rfl, rfl, fun _ channel member => List.eq_of_mem_replicate member, nofun⟩
    exact Mt11.shows_iff_unturned optics carries calls

/-- On the A8 the picture is turned by a zoom behind a call to turn it that has failed, and a call
to turn it upright is skipped behind such a call with the first port turned. On the MT11 it is
skipped likewise, with the first channel turned. -/
theorem channels_differ :
    let cropOf := fun ratio : Nat => some (Rect.mk ratio.toUInt16 0 0 0)
    ¬ Shows (A8.step cropOf) (A8.Call.asks cropOf) A8.Shared (A8.Media.opened 1) .plain
        [.invert true (· = 1), .zoom 2 fun _ => false] ∧
      ¬ Shows (A8.step cropOf) (A8.Call.asks cropOf) A8.Shared (A8.Media.opened 1) .plain
        [.invert true (· = 1), .invert false fun _ => false] ∧
      ¬ Shows (Mt11.step ⟨fun _ : Nat => some .wide, id, fun _ _ => true, fun _ => none⟩)
        Mt11.Call.asks Mt11.Shared (Mt11.opened ⟨1, fun _ => ⟨1, none⟩⟩) false
        [.invert true fun _ channel => ⟨channel = 0, true, true, true⟩,
          .invert false fun _ _ => ⟨true, true, true, true⟩] := by
  refine ⟨fun shows => ?_, fun shows => ?_, fun shows => ?_⟩
  · have turned := shows.2.1 rfl _ List.mem_cons_self
    exact absurd turned (by decide)
  · have turned := shows.2.1 rfl _ List.mem_cons_self
    exact absurd turned (by decide)
  · have turned := (shows.2.1 rfl).2 _ List.mem_cons_self
    exact absurd turned (by decide)

end Orientation
