/-
This file proves that the encoder channels of the MT11 are bound to the sources of the selected
view after every change of the view, wherever in the change a call of the SDK fails, as long as
the calls that compensate for it succeed.
-/

import CameraGimbal.Mt11Media

namespace Mt11Media

open Config Optics CameraMedia Function

/-! ### Calls of the SDK -/

variable (pipeline : Pipeline) (source : Source) (encoder : Encoder)

theorem bind_bound :
    (pipeline.bind source encoder true).bound encoder = some source :=
  update_self ..

variable {encoder other : Encoder}

theorem bind_bound_of_ne (succeeds : Bool) (different : other ≠ encoder) :
    (pipeline.bind source encoder succeeds).bound other = pipeline.bound other := by
  unfold Pipeline.bind
  split
  · exact update_of_ne different _ _
  · rfl

theorem unBind_bound_of_ne (succeeds : Bool) (different : other ≠ encoder) :
    (pipeline.unBind source encoder succeeds).bound other = pipeline.bound other := by
  unfold Pipeline.unBind
  split
  · exact update_of_ne different _ _
  · rfl

section

variable (encoder : Encoder) (succeeds : Bool)

@[simp]
theorem bind_attributes :
    (pipeline.bind source encoder succeeds).attributes = pipeline.attributes := by
  unfold Pipeline.bind
  split <;> rfl

@[simp]
theorem bind_receiving :
    (pipeline.bind source encoder succeeds).receiving = pipeline.receiving := by
  unfold Pipeline.bind
  split <;> rfl

@[simp]
theorem unBind_attributes :
    (pipeline.unBind source encoder succeeds).attributes = pipeline.attributes := by
  unfold Pipeline.unBind
  split <;> rfl

@[simp]
theorem unBind_receiving :
    (pipeline.unBind source encoder succeeds).receiving = pipeline.receiving := by
  unfold Pipeline.unBind
  split <;> rfl

end

theorem receive_receiving (receiving : Bool) :
    (pipeline.receive encoder receiving true).receiving encoder = receiving :=
  update_self ..

theorem receive_receiving_of_ne (receiving succeeds : Bool) (different : other ≠ encoder) :
    (pipeline.receive encoder receiving succeeds).receiving other = pipeline.receiving other := by
  unfold Pipeline.receive
  split
  · exact update_of_ne different _ _
  · rfl

theorem setAttributes_attributes (attributes : Attributes) :
    (pipeline.setAttributes encoder attributes true).attributes encoder = attributes :=
  update_self ..

theorem setAttributes_attributes_of_ne (attributes : Attributes) (succeeds : Bool)
    (different : other ≠ encoder) :
    (pipeline.setAttributes encoder attributes succeeds).attributes other =
      pipeline.attributes other := by
  unfold Pipeline.setAttributes
  split
  · exact update_of_ne different _ _
  · rfl

@[simp]
theorem receive_attributes (receiving succeeds : Bool) :
    (pipeline.receive encoder receiving succeeds).attributes = pipeline.attributes := by
  unfold Pipeline.receive
  split <;> rfl

@[simp]
theorem receive_bound (receiving succeeds : Bool) :
    (pipeline.receive encoder receiving succeeds).bound = pipeline.bound := by
  unfold Pipeline.receive
  split <;> rfl

section

variable (encoder : Encoder) (attributes : Attributes) (succeeds : Bool)

@[simp]
theorem setAttributes_receiving :
    (pipeline.setAttributes encoder attributes succeeds).receiving = pipeline.receiving := by
  unfold Pipeline.setAttributes
  split <;> rfl

@[simp]
theorem setAttributes_bound :
    (pipeline.setAttributes encoder attributes succeeds).bound = pipeline.bound := by
  unfold Pipeline.setAttributes
  split <;> rfl

end

/-! ### Compensating calls -/

/-- The calls that compensate in `select_lens_locked` succeed. -/
structure LensCalls.Compensate (calls : LensCalls) : Prop where
  undoRtsp : calls.undoRtsp = true
  undoRecord : calls.undoRecord = true
  rebindRtsp : calls.rebindRtsp = true
  rebindRecord : calls.rebindRecord = true

/-- The calls that compensate in `reconfigure_rtsp_venc` succeed. -/
structure EncoderCalls.Compensate (calls : EncoderCalls) : Prop where
  setOld : calls.setOld = true
  restart : calls.restart = true

/-- All the calls of `reconfigure_rtsp_venc` up to the new start succeed. -/
structure EncoderCalls.Succeed (calls : EncoderCalls) : Prop where
  stop : calls.stop = true
  set : calls.set = true
  start : calls.start = true

/-- The calls that compensate in `switch_rtsp_sources_locked` succeed. -/
structure SourceCalls.Compensate (calls : SourceCalls) : Prop where
  main : calls.main.Compensate
  sub : calls.sub.Compensate
  undoMain : calls.undoMain = true
  restoreMain : calls.restoreMain.Succeed
  restoreSub : calls.restoreSub.Succeed
  rebindMain : calls.rebindMain = true
  rebindSub : calls.rebindSub = true

structure Calls.Compensate {Number : Type} (calls : Calls Number) : Prop where
  lens : calls.lens.Compensate
  sources : calls.sources.Compensate

variable {Number : Type}

/-! ### The prescribed bindings -/

/-- Width and height of the picture that an encoder makes. -/
def Attributes.size (attributes : Attributes) : Nat × Nat :=
  (attributes.picWidth, attributes.picHeight)

/-- The encoders run with the attributes that the program has noted for them. -/
structure Encodes (media : Impl Number) : Prop where
  attributes : media.pipeline.attributes = media.vencAttr
  receiving : ∀ encoder, media.pipeline.receiving encoder = true

/-- Every encoder is bound to the source that the selected lens and the main view prescribe, and
runs with a picture of the prescribed size. -/
structure Prescribed (media : Impl Number) : Prop where
  selected : media.selectedGroup = groupOf media.lens
  main : media.pipeline.bound .main = some (mainSource media.selectedGroup media.thermalMain)
  sub : media.pipeline.bound .sub = some (subSource media.selectedGroup media.thermalMain)
  record : media.pipeline.bound .rgbRecord = some ⟨media.selectedGroup, .record⟩
  thermalRecord : media.pipeline.bound .thermalRecord = some ⟨.thermal, .sub⟩
  encodes : Encodes media
  mainSize : (media.vencAttr .main).size =
    streamSize media.config.settings media.thermalMain .main
  subSize : (media.vencAttr .sub).size =
    streamSize media.config.settings media.thermalMain .sub

/-! ### Choosing a lens -/

variable {media : Impl Number}

/-- Once the record encoder and the one that shows the lens are bound to a group, and the others
are left alone, every encoder is bound as that group prescribes. -/
theorem Prescribed.reselect (prescribed : Prescribed media) {pipeline : Pipeline} {group : Group}
    {lens : Lens} (hfov : Number) (selected : group = groupOf lens)
    (rtsp : pipeline.bound (rtspEncoder media.thermalMain) =
      some ⟨group, rtspChannel media.thermalMain⟩)
    (record : pipeline.bound .rgbRecord = some ⟨group, .record⟩)
    (others : ∀ encoder, encoder ≠ rtspEncoder media.thermalMain → encoder ≠ .rgbRecord →
      pipeline.bound encoder = media.pipeline.bound encoder)
    (attributes : pipeline.attributes = media.pipeline.attributes)
    (receiving : pipeline.receiving = media.pipeline.receiving) :
    Prescribed { media with pipeline, selectedGroup := group, lens, visibleHfovDeg := hfov } := by
  have encodes := prescribed.encodes
  have thermalRecord : pipeline.bound .thermalRecord = some ⟨.thermal, .sub⟩ := by
    rw [others .thermalRecord (by unfold rtspEncoder; split <;> decide) (by decide)]
    exact prescribed.thermalRecord
  refine ⟨selected, ?_, ?_, record, thermalRecord,
    ⟨attributes.trans encodes.attributes, fun encoder =>
      (congrFun receiving encoder).trans (encodes.receiving encoder)⟩,
    prescribed.mainSize, prescribed.subSize⟩
  · show pipeline.bound .main = some (mainSource group media.thermalMain)
    have main := prescribed.main
    cases shown : media.thermalMain with
    | false =>
      rw [shown] at rtsp
      exact rtsp
    | true =>
      rw [shown] at others main
      rw [others .main (by decide) (by decide)]
      exact main
  · show pipeline.bound .sub = some (subSource group media.thermalMain)
    have sub := prescribed.sub
    cases shown : media.thermalMain with
    | false =>
      rw [shown] at others sub
      rw [others .sub (by decide) (by decide)]
      exact sub
    | true =>
      rw [shown] at rtsp
      exact rtsp

variable (floats : Floats Number)

theorem selectLensLocked_prescribed (prescribed : Prescribed media) (lens : Lens)
    {calls : LensCalls} (compensates : calls.Compensate) :
    Prescribed (selectLensLocked floats media lens calls).1 := by
  have apart : rtspEncoder media.thermalMain ≠ .rgbRecord := by
    unfold rtspEncoder
    split <;> decide
  unfold selectLensLocked
  simp only
  split
  · next same =>
    exact ⟨same.symm, prescribed.main, prescribed.sub, prescribed.record,
      prescribed.thermalRecord, ⟨prescribed.encodes.attributes, prescribed.encodes.receiving⟩,
      prescribed.mainSize, prescribed.subSize⟩
  split
  · next succeeded =>
    simp only [Bool.and_eq_true] at succeeded
    obtain ⟨⟨⟨unbindRtsp, unbindRecord⟩, bindRtsp⟩, bindRecord⟩ := succeeded
    simp only [unbindRtsp, unbindRecord, bindRtsp, bindRecord, Bool.and_self]
    refine prescribed.reselect _ rfl ?_ (bind_bound ..) ?_ ?_ ?_
    · rw [bind_bound_of_ne _ _ _ apart]
      exact bind_bound ..
    · intro encoder notRtsp notRecord
      rw [bind_bound_of_ne _ _ _ notRecord, bind_bound_of_ne _ _ _ notRtsp,
        unBind_bound_of_ne _ _ _ notRecord, unBind_bound_of_ne _ _ _ notRtsp]
    · simp only [bind_attributes, unBind_attributes]
    · simp only [bind_receiving, unBind_receiving]
  · -- whichever call failed, the last two calls bind the encoders to the old group again
    rw [compensates.rebindRtsp, compensates.rebindRecord]
    refine prescribed.reselect _ prescribed.selected ?_ (bind_bound ..) ?_ ?_ ?_
    · rw [bind_bound_of_ne _ _ _ apart]
      exact bind_bound ..
    · intro encoder notRtsp notRecord
      rw [bind_bound_of_ne _ _ _ notRecord, bind_bound_of_ne _ _ _ notRtsp]
      split <;>
        simp only [bind_bound_of_ne _ _ _ notRecord, bind_bound_of_ne _ _ _ notRtsp,
          unBind_bound_of_ne _ _ _ notRecord, unBind_bound_of_ne _ _ _ notRtsp]
    · simp only [bind_attributes]
      split <;> simp only [bind_attributes, unBind_attributes]
    · simp only [bind_receiving]
      split <;> simp only [bind_receiving, unBind_receiving]

/-! ### Switching the sources of the network streams -/

/-- A state between the first and the last call of `switch_rtsp_sources_locked`: the encoders of
the network streams may be unbound, the rest is as before. -/
structure Between (before now : Impl Number) : Prop where
  config : now.config = before.config
  selectedGroup : now.selectedGroup = before.selectedGroup
  thermalMain : now.thermalMain = before.thermalMain
  lens : now.lens = before.lens
  record : now.pipeline.bound .rgbRecord = before.pipeline.bound .rgbRecord
  thermalRecord : now.pipeline.bound .thermalRecord = before.pipeline.bound .thermalRecord
  encodes : Encodes now

theorem Between.refl (encodes : Encodes media) : Between media media :=
  ⟨rfl, rfl, rfl, rfl, rfl, rfl, encodes⟩

variable {before now : Impl Number}

theorem Between.unBind (between : Between before now) (source : Source)
    (notRecord : .rgbRecord ≠ encoder) (notThermalRecord : .thermalRecord ≠ encoder)
    (succeeds : Bool) :
    Between before { now with pipeline := now.pipeline.unBind source encoder succeeds } :=
  ⟨between.config, between.selectedGroup, between.thermalMain, between.lens,
    (unBind_bound_of_ne _ _ _ notRecord).trans between.record,
    (unBind_bound_of_ne _ _ _ notThermalRecord).trans between.thermalRecord,
    (unBind_attributes ..).trans between.encodes.attributes, fun other =>
      (congrFun (unBind_receiving ..) other).trans (between.encodes.receiving other)⟩

theorem Between.bind (between : Between before now) (source : Source)
    (notRecord : .rgbRecord ≠ encoder) (notThermalRecord : .thermalRecord ≠ encoder)
    (succeeds : Bool) :
    Between before { now with pipeline := now.pipeline.bind source encoder succeeds } :=
  ⟨between.config, between.selectedGroup, between.thermalMain, between.lens,
    (bind_bound_of_ne _ _ _ notRecord).trans between.record,
    (bind_bound_of_ne _ _ _ notThermalRecord).trans between.thermalRecord,
    (bind_attributes ..).trans between.encodes.attributes, fun other =>
      (congrFun (bind_receiving ..) other).trans (between.encodes.receiving other)⟩

/-- The state behind the calls of `reconfigure_rtsp_venc`, whose last two start the encoder with
some attributes again. -/
theorem Encodes.restart (encodes : Encodes media) (encoder : Encoder)
    (vencAttr : ∀ other, other ≠ encoder → now.vencAttr other = media.vencAttr other)
    (own : now.pipeline.attributes encoder = now.vencAttr encoder)
    (attributes : ∀ other, other ≠ encoder →
      now.pipeline.attributes other = media.pipeline.attributes other)
    (starts : now.pipeline.receiving encoder = true) (receiving : ∀ other, other ≠ encoder →
      now.pipeline.receiving other = media.pipeline.receiving other) : Encodes now := by
  refine ⟨funext fun other => ?_, fun other => ?_⟩
  · by_cases same : other = encoder
    · rw [same, own]
    · rw [attributes other same, encodes.attributes, vencAttr other same]
  · by_cases same : other = encoder
    · rw [same, starts]
    · rw [receiving other same, encodes.receiving other]

theorem reconfigureRtspVenc_encodes (encodes : Encodes media) (encoder : Encoder)
    (attributes : Attributes) {calls : EncoderCalls} (ends : calls.Compensate ∨ calls.Succeed) :
    Encodes (reconfigureRtspVenc media encoder attributes calls).1 := by
  unfold reconfigureRtspVenc
  split
  · next succeeded =>
    simp only [Bool.and_eq_true] at succeeded
    obtain ⟨⟨stop, set⟩, start⟩ := succeeded
    simp only [stop, set, start, Bool.and_self]
    refine encodes.restart encoder (fun other different => ?_) ?_ (fun other different => ?_)
      (receive_receiving ..) (fun other different => ?_)
    · exact update_of_ne different _ _
    · rw [receive_attributes, setAttributes_attributes]
      exact (update_self encoder attributes media.vencAttr).symm
    · rw [receive_attributes, setAttributes_attributes_of_ne _ _ _ different, receive_attributes]
    · rw [receive_receiving_of_ne _ _ _ different, setAttributes_receiving,
        receive_receiving_of_ne _ _ _ different]
  · next failed =>
    obtain ⟨setOld, restart⟩ : calls.Compensate := by
      refine ends.resolve_right fun succeeds => failed ?_
      rw [succeeds.stop, succeeds.set, succeeds.start]
      rfl
    rw [setOld, restart]
    refine encodes.restart encoder (fun _ _ => rfl) ?_ (fun other different => ?_)
      (receive_receiving ..) (fun other different => ?_)
    · rw [receive_attributes, setAttributes_attributes]
    · rw [receive_attributes, setAttributes_attributes_of_ne _ _ _ different, receive_attributes,
        setAttributes_attributes_of_ne _ _ _ different, receive_attributes]
    · rw [receive_receiving_of_ne _ _ _ different, setAttributes_receiving,
        receive_receiving_of_ne _ _ _ different, setAttributes_receiving,
        receive_receiving_of_ne _ _ _ different]

section

variable (media : Impl Number) (encoder : Encoder) (attributes : Attributes) (calls : EncoderCalls)

theorem reconfigureRtspVenc_bound :
    (reconfigureRtspVenc media encoder attributes calls).1.pipeline.bound =
      media.pipeline.bound := by
  unfold reconfigureRtspVenc
  split <;> simp only [receive_bound, setAttributes_bound]

theorem reconfigureRtspVenc_vencAttr :
    (reconfigureRtspVenc media encoder attributes calls).1.vencAttr =
      if (reconfigureRtspVenc media encoder attributes calls).2 = true then
        update media.vencAttr encoder attributes
      else media.vencAttr := by
  unfold reconfigureRtspVenc
  split <;> rfl

end

theorem Between.reconfigure (between : Between before now) (encoder : Encoder)
    (attributes : Attributes) {calls : EncoderCalls} (ends : calls.Compensate ∨ calls.Succeed) :
    Between before (reconfigureRtspVenc now encoder attributes calls).1 := by
  have encodes := reconfigureRtspVenc_encodes between.encodes encoder attributes ends
  have bound := reconfigureRtspVenc_bound now encoder attributes calls
  refine ⟨?_, ?_, ?_, ?_, (congrFun bound _).trans between.record,
    (congrFun bound _).trans between.thermalRecord, encodes⟩
  · unfold reconfigureRtspVenc
    split <;> exact between.config
  · unfold reconfigureRtspVenc
    split <;> exact between.selectedGroup
  · unfold reconfigureRtspVenc
    split <;> exact between.thermalMain
  · unfold reconfigureRtspVenc
    split <;> exact between.lens

theorem Between.rebind (between : Between before now) (prescribed : Prescribed before)
    (main : now.vencAttr .main = before.vencAttr .main)
    (sub : now.vencAttr .sub = before.vencAttr .sub) {calls : SourceCalls}
    (compensates : calls.Compensate) : Prescribed (rebindSources now calls) := by
  unfold rebindSources
  rw [compensates.rebindMain, compensates.rebindSub]
  have rebound := (between.bind (mainSource now.selectedGroup now.thermalMain)
    (show Encoder.rgbRecord ≠ .main by decide) (by decide) true).bind
    (subSource now.selectedGroup now.thermalMain) (show Encoder.rgbRecord ≠ .sub by decide)
    (by decide) true
  refine ⟨?_, ?_, bind_bound .., ?_, rebound.thermalRecord.trans prescribed.thermalRecord,
    rebound.encodes, ?_, ?_⟩
  · show now.selectedGroup = groupOf now.lens
    rw [between.selectedGroup, between.lens]
    exact prescribed.selected
  · rw [bind_bound_of_ne _ _ _ (by decide)]
    exact bind_bound ..
  · show _ = some (Source.mk now.selectedGroup .record)
    rw [between.selectedGroup]
    exact rebound.record.trans prescribed.record
  · show (now.vencAttr .main).size = streamSize now.config.settings now.thermalMain .main
    rw [main, between.config, between.thermalMain]
    exact prescribed.mainSize
  · show (now.vencAttr .sub).size = streamSize now.config.settings now.thermalMain .sub
    rw [sub, between.config, between.thermalMain]
    exact prescribed.subSize

theorem reconfigureRtspVenc_succeeds (media : Impl Number) (encoder : Encoder)
    (attributes : Attributes) {calls : EncoderCalls} (succeed : calls.Succeed) :
    (reconfigureRtspVenc media encoder attributes calls).2 = true := by
  unfold reconfigureRtspVenc
  rw [succeed.stop, succeed.set, succeed.start]
  rfl

theorem Between.restore (between : Between before now) (prescribed : Prescribed before)
    {calls : SourceCalls} (compensates : calls.Compensate) :
    Prescribed (restoreEncoders now before.vencAttr calls) := by
  unfold restoreEncoders
  have main := between.reconfigure .main (before.vencAttr .main) (.inr compensates.restoreMain)
  have sub := main.reconfigure .sub (before.vencAttr .sub) (.inr compensates.restoreSub)
  refine sub.rebind prescribed ?_ ?_ compensates
  · rw [reconfigureRtspVenc_vencAttr,
      if_pos (reconfigureRtspVenc_succeeds _ _ _ compensates.restoreSub),
      update_of_ne (by decide), reconfigureRtspVenc_vencAttr,
      if_pos (reconfigureRtspVenc_succeeds _ _ _ compensates.restoreMain), update_self]
  · rw [reconfigureRtspVenc_vencAttr,
      if_pos (reconfigureRtspVenc_succeeds _ _ _ compensates.restoreSub), update_self]

theorem Between.switched (between : Between before now) (prescribed : Prescribed before)
    (thermalMain : Bool) (main : now.vencAttr .main = newAttributes before thermalMain .main)
    (sub : now.vencAttr .sub = newAttributes before thermalMain .sub) :
    Prescribed
      { now with
        pipeline :=
          (now.pipeline.bind (mainSource before.selectedGroup thermalMain) .main true).bind
            (subSource before.selectedGroup thermalMain) .sub true
        thermalMain } := by
  have bound := (between.bind (mainSource before.selectedGroup thermalMain)
    (show Encoder.rgbRecord ≠ .main by decide) (by decide) true).bind
    (subSource before.selectedGroup thermalMain) (show Encoder.rgbRecord ≠ .sub by decide)
    (by decide) true
  refine ⟨?_, ?_, ?_, ?_, bound.thermalRecord.trans prescribed.thermalRecord,
    ⟨bound.encodes.attributes, bound.encodes.receiving⟩, ?_, ?_⟩
  · show now.selectedGroup = groupOf now.lens
    rw [between.selectedGroup, between.lens]
    exact prescribed.selected
  · rw [bind_bound_of_ne _ _ _ (by decide), bind_bound]
    show _ = some (mainSource now.selectedGroup thermalMain)
    rw [between.selectedGroup]
  · rw [bind_bound]
    show _ = some (subSource now.selectedGroup thermalMain)
    rw [between.selectedGroup]
  · show _ = some (Source.mk now.selectedGroup .record)
    rw [between.selectedGroup]
    exact bound.record.trans prescribed.record
  · show (now.vencAttr .main).size = streamSize now.config.settings thermalMain .main
    rw [main, between.config]
    rfl
  · show (now.vencAttr .sub).size = streamSize now.config.settings thermalMain .sub
    rw [sub, between.config]
    rfl

theorem unBind_fails : pipeline.unBind source encoder false = pipeline :=
  if_neg fun succeeds => Bool.false_ne_true succeeds.1

theorem switchRtspSourcesLocked_prescribed (prescribed : Prescribed media) (thermalMain : Bool)
    {calls : SourceCalls} (compensates : calls.Compensate) :
    Prescribed (switchRtspSourcesLocked media thermalMain calls).1 := by
  have start := Between.refl prescribed.encodes
  have noMain := start.unBind (mainSource media.selectedGroup media.thermalMain)
    (show Encoder.rgbRecord ≠ .main by decide) (by decide) calls.unbindMain
  have noSub := noMain.unBind (subSource media.selectedGroup media.thermalMain)
    (show Encoder.rgbRecord ≠ .sub by decide) (by decide) calls.unbindSub
  have main := noSub.reconfigure .main (newAttributes media thermalMain .main)
    (.inl compensates.main)
  have sub := main.reconfigure .sub (newAttributes media thermalMain .sub) (.inl compensates.sub)
  have mainBound := sub.bind (mainSource media.selectedGroup thermalMain)
    (show Encoder.rgbRecord ≠ .main by decide) (by decide) calls.bindMain
  have subBound := mainBound.bind (subSource media.selectedGroup thermalMain)
    (show Encoder.rgbRecord ≠ .sub by decide) (by decide) calls.bindSub
  unfold switchRtspSourcesLocked
  simp only
  split
  · exact prescribed
  split
  · next unbindMain =>
    simp only [unbindMain, unBind_fails]
    exact prescribed
  split
  · next unbindSub =>
    rw [unbindSub, unBind_fails, compensates.rebindMain]
    have again := noMain.bind (mainSource media.selectedGroup media.thermalMain)
      (show Encoder.rgbRecord ≠ .main by decide) (by decide) true
    refine ⟨prescribed.selected, bind_bound .., ?_, again.record.trans prescribed.record,
      again.thermalRecord.trans prescribed.thermalRecord, again.encodes, prescribed.mainSize,
      prescribed.subSize⟩
    show (Pipeline.bind _ _ _ true).bound .sub = _
    rw [bind_bound_of_ne _ _ _ (by decide), unBind_bound_of_ne _ _ _ (by decide)]
    exact prescribed.sub
  split
  · next failed =>
    refine main.rebind prescribed ?_ ?_ compensates
    · rw [reconfigureRtspVenc_vencAttr, if_neg (by rw [failed]; decide)]
    · rw [reconfigureRtspVenc_vencAttr, if_neg (by rw [failed]; decide)]
  next mainSucceeded =>
  split
  · exact sub.restore prescribed compensates
  next subSucceeded =>
  split
  · exact mainBound.restore prescribed compensates
  next bindMain =>
  split
  · next bindSub =>
    rw [Bool.not_eq_false] at mainSucceeded subSucceeded bindMain
    rw [bindMain, bindSub]
    refine sub.switched prescribed thermalMain ?_ ?_
    · rw [reconfigureRtspVenc_vencAttr, if_pos subSucceeded, update_of_ne (by decide),
        reconfigureRtspVenc_vencAttr, if_pos mainSucceeded, update_self]
    · rw [reconfigureRtspVenc_vencAttr, if_pos subSucceeded, update_self]
  · exact (subBound.unBind (mainSource media.selectedGroup thermalMain) (by decide) (by decide)
      calls.undoMain).restore prescribed compensates

/-! ### Runs -/

theorem moveMotor_prescribed (prescribed : Prescribed media) (requestedOptical : Number)
    (calls : MotorCalls) : Prescribed (moveMotor floats media requestedOptical calls).1 := by
  obtain ⟨selected, main, sub, record, thermalRecord, ⟨attributes, receiving⟩, mainSize,
    subSize⟩ := prescribed
  unfold moveMotor
  split <;>
    exact ⟨selected, main, sub, record, thermalRecord, ⟨attributes, receiving⟩, mainSize, subSize⟩

theorem setDigitalZoom_prescribed (prescribed : Prescribed media) (group : Group) (ratio : Number)
    (succeeds : Bool) : Prescribed (setDigitalZoom floats media group ratio succeeds).1 := by
  obtain ⟨selected, main, sub, record, thermalRecord, ⟨attributes, receiving⟩, mainSize,
    subSize⟩ := prescribed
  unfold setDigitalZoom
  split <;>
    exact ⟨selected, main, sub, record, thermalRecord, ⟨attributes, receiving⟩, mainSize, subSize⟩

theorem crop_prescribed {moved : Impl Number} (prescribed : Prescribed moved)
    (media : Impl Number) (zoom : Number) (calls : Calls Number) :
    Prescribed (crop floats media moved zoom calls).1 := by
  unfold crop
  split
  · exact setDigitalZoom_prescribed floats prescribed ..
  · exact prescribed

variable {calls : Calls Number}

section

variable (prescribed : Prescribed media)

include prescribed

theorem showLens_prescribed (lens : Lens) (thermalMain : Bool)
    (compensates : calls.Compensate) :
    Prescribed (showLens floats media lens thermalMain calls).1 := by
  have selected := selectLensLocked_prescribed floats prescribed lens compensates.lens
  unfold showLens
  simp only
  split
  · exact selected
  · exact switchRtspSourcesLocked_prescribed selected thermalMain compensates.sources

theorem setZoom_prescribed (zoom : Number)
    (compensates : calls.Compensate) : Prescribed (setZoom floats media zoom calls).1 := by
  have moved := moveMotor_prescribed floats prescribed (zoomLensOptical floats .mt11 zoom)
    calls.motor
  unfold setZoom
  simp only
  split
  · exact prescribed
  split
  · exact moved
  have prescribedCropped := crop_prescribed floats moved media zoom calls
  have shown := showLens_prescribed floats prescribedCropped (lensFor floats .mt11 zoom)
    false compensates
  split
  · exact moveMotor_prescribed floats prescribedCropped _ _
  split
  · exact shown
  · exact ⟨shown.selected, shown.main, shown.sub, shown.record, shown.thermalRecord,
      ⟨shown.encodes.attributes, shown.encodes.receiving⟩, shown.mainSize, shown.subSize⟩

theorem setThermalMain_prescribed (thermalMain : Bool)
    (compensates : calls.Compensate) :
    Prescribed (setThermalMain floats media thermalMain calls).1 := by
  unfold setThermalMain
  split
  · exact showLens_prescribed floats prescribed .zoom true compensates
  · exact switchRtspSourcesLocked_prescribed prescribed false compensates.sources

theorem perform_prescribed {step : Step Number}
    (compensates : step.calls.Compensate) : Prescribed (perform floats media step).1 := by
  unfold perform
  cases step.control with
  | lens lens => exact showLens_prescribed floats prescribed lens false compensates
  | zoom zoom => exact setZoom_prescribed floats prescribed zoom compensates
  | thermalMain thermalMain =>
    exact setThermalMain_prescribed floats prescribed thermalMain compensates

end

theorem implOpen_prescribed {config : MediaConfig}
    (opened : implOpen floats config calls = .ok media) : Prescribed media := by
  obtain ⟨-, rfl⟩ := implOpen_ok floats opened
  exact ⟨rfl, rfl, rfl, rfl, rfl, ⟨rfl, fun _ => rfl⟩, rfl, rfl⟩

/-- After every change of the view, whether it succeeds or fails at any call of the SDK, the
main, the second and the record encoder are bound to the sources that the selected lens and the
main view prescribe, and run with pictures of the size that the main view prescribes. -/
theorem bindings_prescribed {config : MediaConfig} {opening : Calls Number}
    {media : Impl Number} (opened : implOpen floats config opening = .ok media)
    (steps : List (Step Number)) (compensated : ∀ step ∈ steps, step.calls.Compensate) :
    Prescribed (run floats media steps) :=
  List.foldlRecOn steps _ (implOpen_prescribed floats opened) fun _ prescribed step member =>
    perform_prescribed floats prescribed (compensated step member)

/-- The factory settings of the MT11. -/
def factoryConfig : MediaConfig where
  settings := defaults .mt11
  frameRate := 30

/-- A change to the thermal view that fails at the last binding. -/
def failedView : Step Rat where
  control := .thermalMain true
  calls :=
    { (Calls.working : Calls Rat) with
      sources := { (Calls.working : Calls Rat).sources with bindSub := false } }

theorem failedView_compensates : failedView.calls.Compensate :=
  ⟨⟨rfl, rfl, rfl, rfl⟩, ⟨⟨rfl, rfl⟩, ⟨rfl, rfl⟩, rfl, ⟨rfl, rfl, rfl⟩, ⟨rfl, rfl, rfl⟩, rfl, rfl⟩⟩

theorem bindings_prescribed_failed :
    ∃ media, implOpen exactFloats factoryConfig .working = .ok media ∧
      Prescribed (run exactFloats media [failedView]) :=
  ⟨_, rfl, bindings_prescribed exactFloats
    (show implOpen exactFloats factoryConfig .working = .ok _ from rfl) [failedView]
    (List.forall_mem_singleton.mpr failedView_compensates)⟩

end Mt11Media
