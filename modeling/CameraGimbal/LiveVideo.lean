/-
This file is about the live video server: the publishers that put the newest frame of a stream in
its slot, and the threads that copy it from there to their viewers.

A viewer takes whatever is in the slot when it is ready. It begins with a key frame, but a frame it
has missed does not make it wait for the next one, so that what it is sent can be decoded as long as
no other frame is put in the slot before it has taken the one that was published just before.
-/

import CameraGimbal.Transition
import Mathlib.Order.Nat

namespace LiveVideo

open List Function

variable {Content : Type}

/-! ### The model -/

/-- A frame that was published; which one of its stream it is, is its history. -/
structure Frame (Content : Type) where
  content : Content
  keyFrame : Bool
  number : Nat
  deriving DecidableEq, Repr

/-- A stream's slot, and the copy that a call of `ca_live_video_server_publish` has made between its
two lock sections. How often it was called is the history. The generations are 64-bit counters,
which do not come round. -/
structure Stream (Content : Type) where
  frame : Option (Frame Content)
  generation : Nat
  configGeneration : Nat
  h264 : Bool
  configured : Bool
  copying : Option (Frame Content)
  published : Nat
  deriving DecidableEq, Repr

/-- Where the thread of a viewer is: before its selection, in the loop, behind it, or gone. -/
inductive Phase where
  | choosing
  | watching
  | leaving
  | gone
  deriving DecidableEq, Repr

/-- A viewer and its thread, with the frame it has copied and not written yet. The frames written
to it are its history. -/
structure Viewer (Content : Type) where
  phase : Phase
  selection : Fin 2
  configGeneration : Nat
  generation : Nat
  started : Bool
  pending : Option (Frame Content)
  written : List (Frame Content)
  deriving DecidableEq, Repr

structure Server (Content : Type) where
  streams : Fin 2 → Stream Content
  clients : Nat
  viewers : List (Viewer Content)

def Stream.init : Stream Content where
  frame := none
  generation := 0
  configGeneration := 0
  h264 := false
  configured := false
  copying := none
  published := 0

/-- `ca_live_video_server_open`. -/
def Server.init : Server Content where
  streams := fun _ => Stream.init
  clients := 0
  viewers := []

/-- A viewer that was accepted. -/
def Viewer.init : Viewer Content where
  phase := .choosing
  selection := 0
  configGeneration := 0
  generation := 0
  started := false
  pending := none
  written := []

def Server.setStream (server : Server Content) (stream : Fin 2) (state : Stream Content) :
    Server Content :=
  { server with streams := Function.update server.streams stream state }

def Server.viewerStep (server : Server Content) (index : Nat)
    (step : Viewer Content → Viewer Content) : Server Content :=
  match server.viewers[index]? with
  | some viewer => { server with viewers := server.viewers.set index (step viewer) }
  | none => server

/-! ### The thread of a viewer -/

def Server.accept (server : Server Content) : Server Content :=
  { server with
    clients := server.clients + 1
    viewers := server.viewers ++ [Viewer.init] }

/-- The selection has been received. -/
def Viewer.select (streams : Fin 2 → Stream Content) (selection : UInt8)
    (viewer : Viewer Content) : Viewer Content :=
  if viewer.phase ≠ .choosing then viewer
  else if inside : selection.toNat < 2 then
    let stream := streams ⟨selection.toNat, inside⟩
    if ¬ stream.configured ∨ ¬ stream.h264 then { viewer with phase := .leaving }
    else
      { viewer with
        phase := .watching
        selection := ⟨selection.toNat, inside⟩
        configGeneration := stream.configGeneration }
  else { viewer with phase := .leaving }

/-- The lock section of the loop, when the viewer does not wait in it, and what is decided on the
frame that was copied. -/
def Viewer.take (streams : Fin 2 → Stream Content) (viewer : Viewer Content) : Viewer Content :=
  let stream := streams viewer.selection
  if viewer.phase ≠ .watching ∨ viewer.pending ≠ none then viewer
  else if stream.configGeneration ≠ viewer.configGeneration then
    { viewer with phase := .leaving }
  else if stream.generation = viewer.generation then viewer
  else
    match stream.frame with
    | none => viewer
    | some frame =>
      let started := viewer.started || frame.keyFrame
      { viewer with
        generation := stream.generation
        started
        pending := if started then some frame else none }

/-- The frame has been written. -/
def Viewer.write (viewer : Viewer Content) : Viewer Content :=
  { viewer with
    written := viewer.written ++ viewer.pending.toList
    pending := none }

/-- Something fails, or the server stops, and the viewer breaks out of its loop. -/
def Viewer.fail (viewer : Viewer Content) : Viewer Content :=
  match viewer.phase with
  | .choosing | .watching => { viewer with phase := .leaving, pending := none }
  | .leaving | .gone => viewer

/-- `client_finished`. -/
def Server.finish (server : Server Content) (index : Nat) : Server Content :=
  match server.viewers[index]? with
  | some viewer =>
    if viewer.phase = .leaving then
      { server with
        clients := server.clients - 1
        viewers := server.viewers.set index { viewer with phase := .gone } }
    else server
  | none => server

/-! ### The publishers -/

/-- `ca_live_video_server_configure`. -/
def Stream.configure (h264 : Bool) (stream : Stream Content) : Stream Content :=
  { stream with
    h264
    configured := true
    configGeneration := stream.configGeneration + 1
    generation := 0 }

/-- `ca_live_video_server_publish`, up to the copy: nothing is copied when there are no clients, or
when the stream is not to be shown. -/
def Stream.beginPublish (clients : Nat) (content : Content) (keyFrame : Bool)
    (stream : Stream Content) : Stream Content :=
  match stream.copying with
  | some _ => stream
  | none =>
    if clients = 0 ∨ ¬ stream.configured ∨ ¬ stream.h264 then
      { stream with published := stream.published + 1 }
    else
      { stream with
        copying := some { content, keyFrame, number := stream.published }
        published := stream.published + 1 }

/-- There is no memory for the copy. -/
def Stream.failPublish (stream : Stream Content) : Stream Content :=
  { stream with copying := none }

/-- `ca_live_video_server_publish`, from the copy on. -/
def Stream.endPublish (stream : Stream Content) : Stream Content :=
  match stream.copying with
  | none => stream
  | some frame =>
    if ¬ stream.configured ∨ ¬ stream.h264 then { stream with copying := none }
    else
      { stream with
        frame := some frame
        generation := stream.generation + 1
        copying := none }

/-! ### Runs -/

/-- A lock section, or what one of the threads does between two of them. -/
inductive Event (Content : Type) where
  | accept
  | select (viewer : Nat) (selection : UInt8)
  | take (viewer : Nat)
  | write (viewer : Nat)
  | fail (viewer : Nat)
  | finish (viewer : Nat)
  | configure (stream : Fin 2) (h264 : Bool)
  | beginPublish (stream : Fin 2) (content : Content) (keyFrame : Bool)
  | failPublish (stream : Fin 2)
  | endPublish (stream : Fin 2)
  deriving DecidableEq, Repr

def Server.step (server : Server Content) : Event Content → Server Content
  | .accept => server.accept
  | .select viewer selection => server.viewerStep viewer (Viewer.select server.streams selection)
  | .take viewer => server.viewerStep viewer (Viewer.take server.streams)
  | .write viewer => server.viewerStep viewer Viewer.write
  | .fail viewer => server.viewerStep viewer Viewer.fail
  | .finish viewer => server.finish viewer
  | .configure stream h264 => server.setStream stream ((server.streams stream).configure h264)
  | .beginPublish stream content keyFrame =>
    server.setStream stream
      ((server.streams stream).beginPublish server.clients content keyFrame)
  | .failPublish stream => server.setStream stream (server.streams stream).failPublish
  | .endPublish stream => server.setStream stream (server.streams stream).endPublish

def run (events : List (Event Content)) : Server Content :=
  events.foldl Server.step Server.init

/-! ### What can be decoded -/

/-- Every frame is a key frame, or stands behind the one that was published just before it. -/
def Decodable (frames : List (Frame Content)) : Prop :=
  ∀ earlier frame later, frames = earlier ++ frame :: later →
    frame.keyFrame = true ∨ ∃ before ∈ earlier, before.number + 1 = frame.number

/-- The frames the viewer has written or is going to write. -/
def Viewer.taken (viewer : Viewer Content) : List (Frame Content) :=
  viewer.written ++ viewer.pending.toList

/-- A viewer that sends what is published on a stream as it is configured now. -/
structure Sends (streams : Fin 2 → Stream Content) (stream : Fin 2) (viewer : Viewer Content) :
    Prop where
  watching : viewer.phase = .watching
  selection : viewer.selection = stream
  current : viewer.configGeneration = (streams stream).configGeneration
  started : viewer.started = true

/-- A viewer keeps up: while it is being sent a stream, a frame that is not a key frame is put in
the slot only when it has taken the frame that was published just before. -/
def KeepsUp (index : Nat) (server : Server Content) : Event Content → Prop
  | .endPublish stream =>
    ∀ frame ∈ (server.streams stream).copying, frame.keyFrame = false →
      ∀ viewer ∈ server.viewers[index]?, Sends server.streams stream viewer →
        ∃ before ∈ viewer.taken, before.number + 1 = frame.number
  | _ => True

/-! ### One viewer -/

/-- What holds of a viewer: what it took can be decoded, and so can what is in its slot behind
that. -/
structure Sound (streams : Fin 2 → Stream Content) (viewer : Viewer Content) : Prop where
  decodable : Decodable viewer.taken
  fresh : viewer.phase = .choosing → viewer.started = false
  configured : viewer.phase = .watching →
    viewer.configGeneration ≤ (streams viewer.selection).configGeneration
  next : ∀ stream, Sends streams stream viewer →
    viewer.generation ≠ (streams stream).generation →
      ∀ frame ∈ (streams stream).frame,
        frame.keyFrame = true ∨ ∃ before ∈ viewer.taken, before.number + 1 = frame.number

variable {streams : Fin 2 → Stream Content} {viewer : Viewer Content}

theorem Decodable.nil : Decodable ([] : List (Frame Content)) := by
  intro earlier frame later split
  exact absurd split.symm (append_ne_nil_of_right_ne_nil _ (cons_ne_nil _ _))

theorem Decodable.of_append {first second : List (Frame Content)}
    (decodable : Decodable (first ++ second)) : Decodable first := by
  intro earlier frame later split
  refine decodable earlier frame (later ++ second) ?_
  rw [split, append_assoc, cons_append]

theorem Decodable.push {frames : List (Frame Content)} (decodable : Decodable frames)
    {frame : Frame Content}
    (follows : frame.keyFrame = true ∨ ∃ before ∈ frames, before.number + 1 = frame.number) :
    Decodable (frames ++ [frame]) := by
  intro earlier last later split
  exact Transition.follows_push (fun (earlier : List (Frame Content)) frame =>
    frame.keyFrame = true ∨ ∃ before ∈ earlier, before.number + 1 = frame.number) decodable
    follows split

theorem Sound.init : Sound streams Viewer.init :=
  ⟨.nil, fun _ => rfl, nofun, fun _ sends => nomatch sends.watching⟩

theorem Sound.leave {left : Viewer Content} {rest : List (Frame Content)}
    (sound : Sound streams viewer) (took : viewer.taken = left.taken ++ rest)
    (gone : left.phase = .leaving ∨ left.phase = .gone) : Sound streams left := by
  have loop : left.phase ≠ .choosing ∧ left.phase ≠ .watching := by
    cases gone with
    | inl leaving => exact ⟨leaving ▸ nofun, leaving ▸ nofun⟩
    | inr gone => exact ⟨gone ▸ nofun, gone ▸ nofun⟩
  refine ⟨.of_append (took ▸ sound.decodable), ?_, ?_, fun _ sends => ?_⟩
  · exact fun choosing => absurd choosing loop.1
  · exact fun watching => absurd watching loop.2
  · exact absurd sends.watching loop.2

theorem Sound.select (sound : Sound streams viewer) (selection : UInt8) :
    Sound streams (viewer.select streams selection) := by
  unfold Viewer.select
  split
  · exact sound
  next choosing =>
  split
  · simp only
    split
    · exact sound.leave (append_nil _).symm (.inl rfl)
    · refine ⟨sound.decodable, nofun, fun _ => le_rfl, fun _ sends => ?_⟩
      exact absurd (sound.fresh (not_not.mp choosing)).symm (sends.started ▸ nofun)
  · exact sound.leave (append_nil _).symm (.inl rfl)

theorem Sound.write (sound : Sound streams viewer) : Sound streams viewer.write := by
  have took : viewer.write.taken = viewer.taken := append_nil _
  obtain ⟨decodable, fresh, configured, next⟩ := sound
  refine ⟨took ▸ decodable, fresh, configured, fun stream sends behind => ?_⟩
  rw [took]
  exact next stream ⟨sends.watching, sends.selection, sends.current, sends.started⟩ behind

theorem Sound.fail (sound : Sound streams viewer) : Sound streams viewer.fail := by
  have took : viewer.taken =
      { viewer with phase := .leaving, pending := none }.taken ++ viewer.pending.toList := by
    unfold Viewer.taken
    rw [append_assoc]
    rfl
  unfold Viewer.fail
  split
  · exact sound.leave took (.inl rfl)
  · exact sound.leave took (.inl rfl)
  · exact sound
  · exact sound

theorem Sound.take (sound : Sound streams viewer) : Sound streams (viewer.take streams) := by
  unfold Viewer.take
  simp only
  split
  · exact sound
  next loop =>
  obtain ⟨watching, ready⟩ := not_or.mp loop
  have watching := not_not.mp watching
  have ready := not_not.mp ready
  split
  · exact sound.leave (append_nil _).symm (.inl rfl)
  next current =>
  split
  · exact sound
  next newer =>
  split
  · exact sound
  next frame slot =>
  have upToDate : ∀ stream, Sends streams stream
      { viewer with
        generation := (streams viewer.selection).generation
        started := viewer.started || frame.keyFrame
        pending := if viewer.started || frame.keyFrame then some frame else none } →
        (streams viewer.selection).generation = (streams stream).generation :=
    fun stream sends => congrArg (fun stream => (streams stream).generation) sends.selection
  refine ⟨?_, fun choosing => ?_, fun _ => sound.configured watching, fun stream sends behind => ?_⟩
  · have before : viewer.taken = viewer.written := by
      unfold Viewer.taken
      rw [ready]
      exact append_nil _
    have decodable := sound.decodable
    rw [before] at decodable
    cases started : viewer.started || frame.keyFrame with
    | false =>
      show Decodable (viewer.written ++ [])
      rw [append_nil]
      exact decodable
    | true =>
      refine decodable.push ?_
      cases Bool.or_eq_true_iff.mp started with
      | inl already =>
        rw [← before]
        exact sound.next viewer.selection ⟨watching, rfl, (not_not.mp current).symm, already⟩
          (Ne.symm newer) frame slot
      | inr key => exact .inl key
  · exact absurd (watching.symm.trans choosing) nofun
  · exact absurd (upToDate stream sends) behind

/-! ### The streams -/

theorem Sound.of_slot {after : Fin 2 → Stream Content} (sound : Sound streams viewer)
    (frame : ∀ stream, (after stream).frame = (streams stream).frame)
    (generation : ∀ stream, (after stream).generation = (streams stream).generation)
    (config : ∀ stream, (after stream).configGeneration = (streams stream).configGeneration) :
    Sound after viewer := by
  obtain ⟨decodable, fresh, configured, next⟩ := sound
  refine ⟨decodable, fresh, fun watching => ?_, fun stream sends behind => ?_⟩
  · rw [config]
    exact configured watching
  · rw [frame]
    refine next stream ⟨sends.watching, sends.selection, ?_, sends.started⟩ ?_
    · exact sends.current.trans (config stream)
    · rw [← generation]
      exact behind

theorem Sound.configure (sound : Sound streams viewer) (stream : Fin 2) (h264 : Bool) :
    Sound (update streams stream ((streams stream).configure h264)) viewer := by
  obtain ⟨decodable, fresh, configured, next⟩ := sound
  refine ⟨decodable, fresh, fun watching => ?_, fun other sends behind => ?_⟩
  · by_cases same : viewer.selection = stream
    · rw [same, update_self, ← same]
      exact (configured watching).trans (Nat.le_succ _)
    · rw [update_of_ne same]
      exact configured watching
  · by_cases same : other = stream
    · subst same
      have current := sends.current
      rw [update_self] at current
      have before := configured sends.watching
      rw [sends.selection] at before
      exact absurd (current.ge.trans before) (Nat.not_succ_le_self _)
    · rw [update_of_ne same] at behind ⊢
      refine next other ⟨sends.watching, sends.selection, ?_, sends.started⟩ behind
      rw [sends.current, update_of_ne same]

theorem Sound.endPublish (sound : Sound streams viewer) (stream : Fin 2)
    (keepsUp : ∀ frame ∈ (streams stream).copying, frame.keyFrame = false →
      Sends streams stream viewer → ∃ before ∈ viewer.taken, before.number + 1 = frame.number) :
    Sound (update streams stream (streams stream).endPublish) viewer := by
  have config : (streams stream).endPublish.configGeneration =
      (streams stream).configGeneration := by
    unfold Stream.endPublish
    split
    · rfl
    · split <;> rfl
  have configs (other : Fin 2) :
      (update streams stream (streams stream).endPublish other).configGeneration =
        (streams other).configGeneration := by
    by_cases same : other = stream
    · rw [same, update_self, config]
    · rw [update_of_ne same]
  have sendsBefore {other : Fin 2}
      (sends : Sends (update streams stream (streams stream).endPublish) other viewer) :
      Sends streams other viewer :=
    ⟨sends.watching, sends.selection, sends.current.trans (configs other), sends.started⟩
  obtain ⟨decodable, fresh, configured, next⟩ := sound
  refine ⟨decodable, fresh, fun watching => ?_, fun other sends behind => ?_⟩
  · rw [configs]
    exact configured watching
  · by_cases same : other = stream
    · subst same
      rw [update_self] at behind ⊢
      unfold Stream.endPublish at behind ⊢
      split at behind
      · exact next other (sendsBefore sends) behind
      next frame copying =>
      split at behind
      · next hidden =>
        rw [if_pos hidden]
        exact next other (sendsBefore sends) behind
      · next shown =>
        rw [if_neg shown]
        intro newest same
        obtain rfl := Option.mem_some.mp same
        cases key : frame.keyFrame with
        | true => exact .inl rfl
        | false => exact .inr (keepsUp frame copying key (sendsBefore sends))
    · rw [update_of_ne same] at behind ⊢
      exact next other (sendsBefore sends) behind

theorem beginPublish_slot (clients : Nat) (content : Content) (keyFrame : Bool)
    (stream : Stream Content) :
    (stream.beginPublish clients content keyFrame).frame = stream.frame ∧
      (stream.beginPublish clients content keyFrame).generation = stream.generation ∧
      (stream.beginPublish clients content keyFrame).configGeneration =
        stream.configGeneration := by
  unfold Stream.beginPublish
  split
  · exact ⟨rfl, rfl, rfl⟩
  · split
    · exact ⟨rfl, rfl, rfl⟩
    · exact ⟨rfl, rfl, rfl⟩

theorem Sound.update (sound : Sound streams viewer) {stream : Fin 2} {state : Stream Content}
    (same : state.frame = (streams stream).frame ∧
      state.generation = (streams stream).generation ∧
      state.configGeneration = (streams stream).configGeneration) :
    Sound (Function.update streams stream state) viewer := by
  have kept {Field : Type} (field : Stream Content → Field)
      (keeps : field state = field (streams stream)) (other : Fin 2) :
      field (Function.update streams stream state other) = field (streams other) := by
    by_cases same : other = stream
    · rw [same, Function.update_self, keeps]
    · rw [Function.update_of_ne same]
  exact sound.of_slot (kept Stream.frame same.1) (kept Stream.generation same.2.1)
    (kept Stream.configGeneration same.2.2)

/-! ### Every run -/

/-- What holds of the viewer at an index. -/
def SoundAt (index : Nat) (server : Server Content) : Prop :=
  ∀ viewer ∈ server.viewers[index]?, Sound server.streams viewer

section

variable {server : Server Content} {index : Nat} (soundAt : SoundAt index server)
include soundAt

theorem SoundAt.set {stepped : Nat} {before after : Viewer Content}
    (found : server.viewers[stepped]? = some before)
    (keeps : Sound server.streams before → Sound server.streams after) :
    ∀ viewer ∈ (server.viewers.set stepped after)[index]?, Sound server.streams viewer := by
  intro viewer member
  by_cases same : stepped = index
  · subst same
    rw [getElem?_set_self (List.getElem?_eq_some_iff.mp found).1] at member
    obtain rfl := Option.mem_some.mp member
    exact keeps (soundAt before found)
  · rw [getElem?_set_ne same] at member
    exact soundAt viewer member

theorem SoundAt.viewerStep (stepped : Nat) {step : Viewer Content → Viewer Content}
    (keeps : ∀ viewer, Sound server.streams viewer → Sound server.streams (step viewer)) :
    SoundAt index (server.viewerStep stepped step) := by
  unfold Server.viewerStep
  split
  · next viewer found => exact soundAt.set found (keeps viewer)
  · exact soundAt

theorem SoundAt.finish (finished : Nat) : SoundAt index (server.finish finished) := by
  unfold Server.finish
  split
  · next viewer found =>
    split
    · exact soundAt.set found fun sound => sound.leave (append_nil _).symm (.inr rfl)
    · exact soundAt
  · exact soundAt

theorem SoundAt.accept : SoundAt index server.accept := by
  intro viewer member
  unfold Server.accept at member
  rw [getElem?_append] at member
  split at member
  · exact soundAt viewer member
  · rw [mem_singleton.mp (mem_of_getElem? member)]
    exact Sound.init

theorem SoundAt.step (event : Event Content) (keepsUp : KeepsUp index server event) :
    SoundAt index (server.step event) := by
  cases event with
  | accept => exact soundAt.accept
  | select viewer selection =>
    exact soundAt.viewerStep viewer fun _ sound => sound.select selection
  | take viewer => exact soundAt.viewerStep viewer fun _ sound => sound.take
  | write viewer => exact soundAt.viewerStep viewer fun _ sound => sound.write
  | fail viewer => exact soundAt.viewerStep viewer fun _ sound => sound.fail
  | finish viewer => exact soundAt.finish viewer
  | configure stream h264 =>
    exact fun viewer member => (soundAt viewer member).configure stream h264
  | beginPublish stream content keyFrame =>
    exact fun viewer member => (soundAt viewer member).update (beginPublish_slot _ _ _ _)
  | failPublish stream =>
    exact fun viewer member => (soundAt viewer member).update ⟨rfl, rfl, rfl⟩
  | endPublish stream =>
    exact fun viewer member => (soundAt viewer member).endPublish stream
      fun frame copying delta => keepsUp frame copying delta viewer member

end

/-- As long as a viewer keeps up, what is written to it can be decoded, however slow the others
are: it begins with a key frame, and every other frame stands behind the one that was published just
before it. -/
theorem viewers_decode (events : List (Event Content)) (index : Nat)
    (keepsUp : Transition.Along Server.step (KeepsUp index) Server.init events) :
    ∀ viewer ∈ (run events).viewers[index]?, Decodable viewer.written := by
  have soundAt : SoundAt index (run events) :=
    Transition.foldl_keeps (fun server event keepsUp (soundAt : SoundAt index server) =>
      soundAt.step event keepsUp)
      (fun _ member => absurd (mem_of_getElem? member) List.not_mem_nil) keepsUp
  exact fun viewer member => (soundAt viewer member).decodable.of_append

/-- A viewer takes a key frame and the frame behind it, beside one that is busy with the key
frame. -/
def twoFrames : List (Event String) :=
  [.configure 0 true, .accept, .accept, .select 0 0, .select 1 0, .beginPublish 0 "key" true,
    .endPublish 0, .take 0, .take 1, .write 0, .beginPublish 0 "delta" false, .endPublish 0,
    .take 0, .write 0]

theorem viewers_decode_two :
    ∃ viewer, (run twoFrames).viewers[0]? = some viewer ∧
      viewer.written = [⟨"key", true, 0⟩, ⟨"delta", false, 1⟩] ∧ Decodable viewer.written := by
  refine ⟨_, rfl, rfl, viewers_decode twoFrames 0 ⟨trivial, trivial, trivial, trivial, trivial,
    trivial, ?_, trivial, trivial, trivial, trivial, ?_, trivial, trivial, trivial⟩ _ rfl⟩
  · intro frame copying delta
    obtain rfl := Option.mem_some.mp copying
    cases delta
  · intro frame copying delta viewer member sends
    obtain rfl := Option.mem_some.mp copying
    obtain rfl := Option.mem_some.mp member
    exact ⟨_, List.mem_singleton.mpr rfl, rfl⟩

/-- A viewer that is busy while two frames are published is sent the second of them. -/
theorem viewers_skip : ¬ ∀ events : List (Event String),
    ∀ viewer ∈ (run events).viewers, Decodable viewer.written := by
  intro decode
  have skipped := decode [.configure 0 true, .accept, .select 0 0, .beginPublish 0 "key" true,
    .endPublish 0, .take 0, .write 0, .beginPublish 0 "missed" false, .endPublish 0,
    .beginPublish 0 "delta" false, .endPublish 0, .take 0, .write 0] _ (List.mem_singleton.mpr rfl)
    [⟨"key", true, 0⟩] ⟨"delta", false, 2⟩ [] rfl
  cases skipped with
  | inl key => cases key
  | inr follows =>
    obtain ⟨before, member, number⟩ := follows
    obtain rfl := List.mem_singleton.mp member
    cases number

end LiveVideo
