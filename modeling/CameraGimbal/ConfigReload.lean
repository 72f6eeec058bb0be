/-
This file models `reload_config`, with which the MAVLink server follows the configuration file, and
the events around it that use the running configuration. It derives what a reported status says
about the running settings: the live parameters and the time zone are those of the file, the other
fields keep their running values, and only a video format that the recorder holds back is pending.
-/

import CameraGimbal.RuntimeRollback

namespace RuntimeConfig

open CText Config Optics CameraMedia List Function Option

variable {Number Calls : Type} {backend : Backend Number Calls} (floats : Floats Number)

/-! ### The settings that are taken from the file -/

/-- The formats of another configuration. -/
def copyFormats (destination source : Configuration) : Configuration :=
  fun member => if member ∈ formatMembers then source member else destination member

/-- One parameter of the file, if it applies at once. -/
def takeParameter (target : Target) (desired next : Configuration) (index : Nat) :
    Configuration :=
  if liveConfigParameter target index then
    (paramAssign target next index (.finite (paramGet target desired index))).getD next
  else next

/-- The running settings with the live parameters and the time zone of the file, and the formats
as they are. -/
def liveSettings (target : Target) (settings desired : Configuration) : Configuration :=
  let next := (List.range (paramCount target)).foldl (takeParameter target desired) settings
  copyFormats (Function.update next .timezone (desired .timezone)) settings

/-- `struct ca_support_config`. -/
def supportMembers : List Member :=
  [.supportEnabled, .supportHost, .supportMavlinkPort, .supportSigning,
    .supportSigningPassphrase, .supportSigningLinkId, .supportVideo1Port, .supportVideo2Port,
    .supportVideo1Name, .supportVideo2Name, .supportPublishPassword, .supportNetworkInterface,
    .supportNetworkAddress, .supportNetworkGateway]

/-- Some field of the file needs a restart to apply. -/
def needsRestart (target : Target) (desired settings : Configuration) : Bool :=
  (supportMembers.any fun member => decide (desired member ≠ settings member)) ||
    (List.range (paramCount target)).any fun index => !liveConfigParameter target index &&
      decide (paramGet target desired index ≠ paramGet target settings index)

/-! ### Looking at the file -/

/-- What one look at the configuration file finds. -/
structure Look where
  before : Option FileStat
  file : Option Text
  hash : Option UInt64
  after : Option FileStat

/-- The calls of `reload_config`. -/
structure ReloadCalls (Calls : Type) where
  live : ApplyCalls Calls
  format : ApplyCalls Calls
  /-- The status file is written and renamed. -/
  written : Bool

/-- What `reload_config` reports. -/
inductive Report
  | notLoaded (error : LoadError)
  | notLive (errno : Errno)
  | pending
  | noFormat (errno : Errno)
  | restart
  | applied
  deriving DecidableEq

def Report.state : Report → Text
  | .notLoaded _ | .notLive _ | .noFormat _ => bytes "error"
  | .pending => bytes "pending"
  | .restart => bytes "restart"
  | .applied => bytes "applied"

def Report.message (strerror : Errno → Text) : Report → Text
  | .notLoaded error => error.text.getD (bytes "Could not read configuration")
  | .notLive errno => bytes "Could not apply saved live settings: " ++ strerror errno
  | .pending =>
    bytes "Live settings applied; video format waits until recording stops. " ++
      bytes "Restart-only changes still require restart."
  | .noFormat errno => bytes "Live settings applied; video format failed: " ++ strerror errno
  | .restart =>
    bytes "Live settings applied. Restart to apply mount, identity, transport or " ++
      bytes "SupportProxy changes."
  | .applied => bytes "All saved settings applied without restarting the camera app."

def Server.configStatus (server : Server backend) (status : Status) (written : Bool) :
    Server backend :=
  if server.configLastStatus = some status then server
  else if written then { server with configLastStatus := some status }
  else server

/-- The live parameters and the time zone of the file, applied. -/
def Server.applyLive (server : Server backend) (desired : Configuration)
    (calls : ApplyCalls Calls) : Server backend × Option Errno :=
  server.applyRuntimeConfig floats (liveSettings backend.target server.settings desired) calls

/-- The formats of the file, applied. -/
def Server.applyFormats (server : Server backend) (desired : Configuration)
    (calls : ApplyCalls Calls) : Server backend × Option Errno :=
  server.applyRuntimeConfig floats (copyFormats server.settings desired) calls

/-- The report for a file whose live settings and formats are applied. -/
def appliedReport (target : Target) (desired settings : Configuration) : Report :=
  if needsRestart target desired settings then .restart else .applied

/-- The part of `reload_config` behind the live settings. -/
def Server.followFormats (server : Server backend) (desired : Configuration)
    (calls : ApplyCalls Calls) : Server backend × Report :=
  let formatted := server.applyFormats floats desired calls
  match formatted.2 with
  | some errno =>
    if errno = busy then ({ formatted.1 with configPending := true }, .pending)
    else (formatted.1, .noFormat errno)
  | none => (formatted.1, appliedReport backend.target desired formatted.1.settings)

/-- What `reload_config` does with a file that it has looked at. -/
def Server.follow (server : Server backend) (file : Option Text) (calls : ReloadCalls Calls) :
    Server backend × Report :=
  match load backend.target (defaults backend.target) file with
  | .error error => (server, .notLoaded error)
  | .ok desired =>
    let live := { server with parameters := desired }.applyLive floats desired calls.live
    match live.2 with
    | some errno => (live.1, .notLive errno)
    | none => live.1.followFormats floats desired calls.format

def Server.reloadConfig (strerror : Errno → Text) (server : Server backend) (now : UInt64)
    (look : Look) (calls : ReloadCalls Calls) : Server backend × Option Report :=
  if now - server.configCheckMs < 500 then (server, none)
  else
    let checked := { server with configCheckMs := now }
    match look.before, look.hash, look.after with
    | some before, some hash, some after =>
      if server.configSeen && !server.configPending && decide (before = server.configStat) then
        (checked, none)
      else if before ≠ after then (checked, none)
      else
        let followed := { checked with
          configSeen := true
          configStat := after
          configPending := false }.follow floats look.file calls
        let status := Status.mk hash followed.2.state (followed.2.message strerror)
        (followed.1.configStatus status calls.written, some followed.2)
    | _, _, _ => (checked, none)

/-! ### Which members apply at once -/

/-- The parameter of an index is stored in the member. -/
def sets (target : Target) (index : Nat) (member : Member) : Bool :=
  (paramField target index).any fun field => field.member == member

/-- The member holds a parameter that applies at once. -/
def isLive (target : Target) (member : Member) : Bool :=
  (List.range (paramCount target)).any fun index =>
    liveConfigParameter target index && sets target index member

/-- The members that say how the camera is mounted, what it is called on the network and how it is
reached. -/
def restartMembers : List Member :=
  [.orientation, .uartProtocol, .mavlinkTcpPort, .mavlinkUdpPort, .mavlinkSystemId,
    .mavlinkCameraComponentId] ++ supportMembers

theorem formats_live (target : Target) : ∀ member ∈ formatMembers, isLive target member = true := by
  cases target <;> decide +kernel

theorem restart_not_live (target : Target) :
    ∀ member ∈ restartMembers, isLive target member = false ∧ member ≠ .timezone := by
  cases target <;> decide

theorem mem_configFields (member : Member) : member ∈ (configFields .mt11).map Field.member := by
  cases member <;> decide

theorem restart_cases (target : Target) (member : Member) :
    isLive target member = true ∨ member = .timezone ∨ member ∈ supportMembers ∨
      ∃ index ∈ range (paramCount target),
        liveConfigParameter target index = false ∧ sets target index member = true := by
  have rows : ∀ member ∈ (configFields .mt11).map Field.member,
      isLive target member = true ∨ member = .timezone ∨ member ∈ supportMembers ∨
        ∃ index ∈ range (paramCount target),
          liveConfigParameter target index = false ∧ sets target index member = true := by
    cases target <;> decide
  exact rows member (mem_configFields member)

variable {target : Target}

section

variable {index : Nat} {field : Field} (found : paramField target index = some field)

include found

theorem sets_iff (member : Member) : sets target index member = true ↔ field.member = member := by
  unfold sets
  rw [found]
  exact beq_iff_eq

theorem lt_paramCount :
    index < paramCount target := by
  unfold paramCount
  rw [countP_eq_length_filter]
  exact (List.getElem?_eq_some_iff.mp found).1

end

theorem live_field {index : Nat} (live : liveConfigParameter target index = true) :
    ∃ field, paramField target index = some field ∧ isLive target field.member = true := by
  cases found : paramField target index with
  | none =>
    unfold liveConfigParameter paramName at live
    rw [found] at live
    cases live
  | some field =>
    refine ⟨field, rfl, any_eq_true.mpr ⟨index, mem_range.mpr (lt_paramCount found), ?_⟩⟩
    rw [live, (sets_iff found field.member).mpr rfl]
    rfl

/-! ### The settings that are taken -/

theorem supportValid_congr {first second : Configuration}
    (same : ∀ member ∈ supportMembers, first member = second member) :
    supportValid first = supportValid second := by
  unfold supportValid
  rw [same .supportEnabled (by decide), same .supportHost (by decide),
    same .supportSigning (by decide), same .supportSigningPassphrase (by decide),
    same .supportVideo1Port (by decide), same .supportVideo2Port (by decide),
    same .supportVideo1Name (by decide), same .supportVideo2Name (by decide)]

theorem valid_mix {first second mixed : Configuration} (valid : Valid target first)
    (alsoValid : Valid target second)
    (taken : ∀ member, mixed member = first member ∨ mixed member = second member)
    (support : ∀ member ∈ supportMembers, mixed member = first member) : Valid target mixed where
  support := (supportValid_congr support).trans valid.support
  accepted := by
    intro field isRow
    rcases taken field.member with same | same
    · rw [same]
      exact valid.accepted field isRow
    · rw [same]
      exact alsoValid.accepted field isRow

variable {desired next : Configuration}

theorem takeParameter_member (valid : Valid target next) (alsoValid : Valid target desired)
    (index : Nat) :
    Valid target (takeParameter target desired next index) ∧
      ∀ member, takeParameter target desired next index member =
        if liveConfigParameter target index && sets target index member then desired member
        else next member := by
  unfold takeParameter
  cases live : liveConfigParameter target index with
  | false => exact ⟨valid, fun _ => rfl⟩
  | true =>
    obtain ⟨field, found, isLive⟩ := live_field live
    have support :
        supportValid (update next field.member (desired field.member)) = true := by
      refine (supportValid_congr fun member isSupport => ?_).trans valid.support
      refine update_of_ne ?_ _ _
      rintro rfl
      have notLive := (restart_not_live target _ (mem_append_right _ isSupport)).1
      exact absurd (isLive.symm.trans notLive) nofun
    have assigned := paramAssign_get found alsoValid support
    rw [if_pos rfl, assigned]
    refine ⟨valid.assign assigned, fun member => ?_⟩
    rw [Bool.true_and, getD_some]
    by_cases same : field.member = member
    · subst same
      rw [if_pos ((sets_iff found _).mpr rfl), update_self]
    · rw [if_neg fun isSet => same ((sets_iff found member).mp isSet),
        update_of_ne fun equal => same equal.symm]

theorem foldl_member (alsoValid : Valid target desired) (indices : List Nat)
    (valid : Valid target next) :
    Valid target (indices.foldl (takeParameter target desired) next) ∧
      ∀ member, indices.foldl (takeParameter target desired) next member =
        if indices.any fun index => liveConfigParameter target index && sets target index member
        then desired member else next member := by
  induction indices generalizing next with
  | nil => exact ⟨valid, fun _ => rfl⟩
  | cons index rest hypothesis =>
    obtain ⟨stepValid, step⟩ := takeParameter_member valid alsoValid index
    obtain ⟨restValid, steps⟩ := hypothesis stepValid
    refine ⟨restValid, fun member => ?_⟩
    rw [foldl_cons, steps member, step member, any_cons]
    cases liveConfigParameter target index && sets target index member with
    | false => rfl
    | true => exact ite_self _

variable {settings : Configuration}

section

variable (valid : Valid target settings) (alsoValid : Valid target desired)

include valid alsoValid

theorem liveSettings_member (member : Member) :
    liveSettings target settings desired member =
      if (isLive target member = true ∨ member = .timezone) ∧ member ∉ formatMembers then
        desired member
      else settings member := by
  obtain ⟨-, taken⟩ := foldl_member alsoValid (range (paramCount target)) valid
  unfold liveSettings copyFormats
  by_cases isFormat : member ∈ formatMembers
  · rw [if_pos isFormat, if_neg fun asked => asked.2 isFormat]
  · rw [if_neg isFormat]
    by_cases zone : member = .timezone
    · subst zone
      rw [update_self, if_pos ⟨.inr rfl, isFormat⟩]
    · rw [update_of_ne zone, taken member]
      show (if isLive target member then desired member else settings member) = _
      by_cases live : isLive target member = true
      · rw [if_pos live, if_pos ⟨.inl live, isFormat⟩]
      · rw [if_neg live, if_neg fun asked => asked.1.elim live zone]

theorem valid_liveSettings :
    Valid target (liveSettings target settings desired) := by
  refine valid_mix valid alsoValid (fun member => ?_) fun member isSupport => ?_
  · rw [liveSettings_member valid alsoValid]
    split
    · exact .inr rfl
    · exact .inl rfl
  · obtain ⟨notLive, notZone⟩ := restart_not_live target member (mem_append_right _ isSupport)
    rw [liveSettings_member valid alsoValid, if_neg]
    rintro ⟨live | zone, -⟩
    · exact absurd (live.symm.trans notLive) nofun
    · exact notZone zone

theorem copyFormats_member (member : Member) :
    copyFormats (liveSettings target settings desired) desired member =
      if isLive target member = true ∨ member = .timezone then desired member
      else settings member := by
  unfold copyFormats
  by_cases isFormat : member ∈ formatMembers
  · rw [if_pos isFormat, if_pos (.inl (formats_live target member isFormat))]
  · rw [if_neg isFormat, liveSettings_member valid alsoValid]
    by_cases taken : isLive target member = true ∨ member = .timezone
    · rw [if_pos taken, if_pos ⟨taken, isFormat⟩]
    · rw [if_neg taken, if_neg fun asked => taken asked.1]

theorem valid_copyFormats :
    Valid target (copyFormats settings desired) := by
  have formats : ∀ member ∈ supportMembers, member ∉ formatMembers := by decide
  refine valid_mix valid alsoValid (fun member => ?_) fun member isSupport =>
    if_neg (formats member isSupport)
  unfold copyFormats
  split
  · exact .inr rfl
  · exact .inl rfl

theorem same_of_applied (applied : needsRestart target desired settings = false) {member : Member}
    (notLive : isLive target member = false) (notZone : member ≠ .timezone) :
    settings member = desired member := by
  obtain ⟨support, params⟩ := Bool.or_eq_false_iff.mp applied
  rcases restart_cases target member with live | zone | isSupport | ⟨index, counted, other, isSet⟩
  · exact absurd (live.symm.trans notLive) nofun
  · exact absurd zone notZone
  · have same := any_eq_false.mp support member isSupport
    rw [decide_eq_true_eq, not_not] at same
    exact same.symm
  · have same := any_eq_false.mp params index counted
    rw [other, Bool.not_false, Bool.true_and, decide_eq_true_eq, not_not] at same
    unfold sets at isSet
    cases found : paramField target index with
    | none =>
      rw [found] at isSet
      cases isSet
    | some field =>
      obtain rfl := (sets_iff found member).mp (by unfold sets; exact isSet)
      obtain ⟨isRow, isParam⟩ := paramField_row found
      unfold paramGet at same
      rw [found] at same
      exact number_injective isRow rfl (number_of_param isRow isParam) (valid.accepted field isRow)
        (alsoValid.accepted field isRow) same.symm

end

/-! ### Applying -/

variable {server : Server backend}

theorem applyRuntimeConfig_refused {calls : ApplyCalls Calls}
    (refused : (server.applyRuntimeConfig floats next calls).2 ≠ none) :
    (server.applyRuntimeConfig floats next calls).1.settings = server.settings := by
  have stopped (stops : Bool) :
      (if stops then server.stopTrackingRate else server).settings = server.settings := by
    cases stops <;> rfl
  unfold Server.applyRuntimeConfig at refused ⊢
  simp only at refused ⊢
  cases taken : (server.media.configure floats next calls.configure).2 with
  | some errno => exact stopped _
  | none =>
    rw [taken] at refused
    simp only at refused ⊢
    cases worked : (adjust (server.media.configure floats next calls.configure).1 server.settings
      next server.media.recording (server.record next) calls).2 with
    | some errno => exact stopped _
    | none =>
      rw [worked] at refused
      exact absurd rfl refused

theorem applyRuntimeConfig_either (server : Server backend) (next : Configuration)
    (calls : ApplyCalls Calls) :
    (server.applyRuntimeConfig floats next calls).1.settings = next ∨
      (server.applyRuntimeConfig floats next calls).1.settings = server.settings := by
  by_cases applied : (server.applyRuntimeConfig floats next calls).2 = none
  · exact .inl (applyRuntimeConfig_settings floats applied)
  · exact .inr (applyRuntimeConfig_refused floats applied)

theorem configure_config (media : Media backend) (settings : Configuration)
    (calls : ConfigureCalls Calls) :
    ((media.configure floats settings calls).2 = none →
      (media.configure floats settings calls).1.config = { media.config with settings }) ∧
    ((media.configure floats settings calls).2 ≠ none →
      (media.configure floats settings calls).1.config = media.config) := by
  have rebuilt : ((media.rebuild floats settings calls).2 = none →
        (media.rebuild floats settings calls).1.config = { media.config with settings }) ∧
      ((media.rebuild floats settings calls).2 ≠ none →
        (media.rebuild floats settings calls).1.config = media.config) := by
    unfold Media.rebuild
    simp only
    split
    · exact ⟨fun _ => rfl, fun refused => absurd rfl refused⟩
    · exact ⟨nofun, fun _ => rfl⟩
  unfold Media.configure
  split
  · exact rebuilt
  · split
    · split
      · exact ⟨nofun, fun _ => rfl⟩
      · exact rebuilt
    · split
      · exact ⟨fun _ => rfl, fun refused => absurd rfl refused⟩
      · simp only
        split
        · exact ⟨fun _ => rfl, fun refused => absurd rfl refused⟩
        · exact ⟨nofun, fun _ => rfl⟩

theorem applyRuntimeConfig_config {calls : ApplyCalls Calls}
    (applied : (server.applyRuntimeConfig floats next calls).2 = none) :
    (server.applyRuntimeConfig floats next calls).1.media.config.settings = next := by
  obtain ⟨taken, -⟩ := configure_config floats server.media next calls.configure
  obtain ⟨configured, -, adjusted⟩ := applyRuntimeConfig_applied floats applied
  rw [adjusted, adjust_config, taken configured]

section

variable {media : Media backend} {impl : backend.Impl} (isOpen : media.impl = some impl)

include isOpen

theorem configure_formats (stopped : (backend.reading impl).recording = false)
    (desired : Configuration) (calls : ConfigureCalls Calls)
    (rebuilds : (reopen backend floats media.inverted
      { media.config with settings := copyFormats media.config.settings desired }
      (media.liveControls floats calls) calls.change).2 = none) :
    (media.configure floats (copyFormats media.config.settings desired) calls).2 = none := by
  have sameImage : imageEqual media.config.settings
      (copyFormats media.config.settings desired) = true := by
    have disjoint : ∀ member ∈ imageMembers, member ∉ formatMembers := by decide
    refine all_eq_true.mpr fun member isImage => decide_eq_true ?_
    exact (if_neg (disjoint member isImage)).symm
  unfold Media.configure Media.rebuild
  simp only [isOpen, stopped, sameImage, rebuilds, if_true, Bool.false_eq_true, if_false]
  split <;> rfl

theorem configure_same (calls : ConfigureCalls Calls) :
    media.configure floats media.config.settings calls = (media, none) := by
  have sameFormats : formatDiffers media.config.settings media.config.settings = false :=
    any_eq_false.mpr fun member _ differs => of_decide_eq_true differs rfl
  have sameImage : imageEqual media.config.settings media.config.settings = true :=
    all_eq_true.mpr fun member _ => decide_eq_true rfl
  unfold Media.configure
  simp only [isOpen, sameFormats, sameImage, Bool.false_eq_true, if_false, if_true]
  rw [← isOpen]

end

/-- A change of the formats alone involves only the media layer. -/
theorem applyRuntimeConfig_formats (server : Server backend) (calls : ApplyCalls Calls)
    (palette : next .thermalPalette = server.settings .thermalPalette)
    (autorecord : next .autorecord = server.settings .autorecord)
    (timezone : next .timezone = server.settings .timezone) :
    (server.applyRuntimeConfig floats next calls).2 =
        (server.media.configure floats next calls.configure).2 ∧
      (server.applyRuntimeConfig floats next calls).1.media =
        (server.media.configure floats next calls.configure).1 := by
  have record : server.record next = server.media.recording := if_neg (not_not.mpr autorecord)
  have colours : paletteChanges backend.target server.settings next = false := by
    unfold paletteChanges
    rw [decide_eq_false (not_not.mpr palette), Bool.false_and]
  unfold Server.applyRuntimeConfig
  simp only [record]
  unfold adjust
  rw [colours]
  simp only [Bool.false_eq_true, if_false, ne_eq, not_true_eq_false, timezone]
  cases (server.media.configure floats next calls.configure).2 with
  | none => exact ⟨rfl, rfl⟩
  | some errno => exact ⟨rfl, rfl⟩

/-! ### Following the file -/

theorem followFormats_cases (server : Server backend) (desired : Configuration)
    (calls : ApplyCalls Calls) :
    let formatted := server.applyFormats floats desired calls
    let followed := server.followFormats floats desired calls
    followed.1.media = formatted.1.media ∧
      ((followed.2 = .pending ∧ formatted.2 = some busy ∧ followed.1.configPending = true ∧
          followed.1.settings = server.settings) ∨
        (∃ errno, followed.2 = .noFormat errno ∧ formatted.2 = some errno ∧
          followed.1.settings = server.settings) ∨
        (formatted.2 = none ∧ followed.1.settings = copyFormats server.settings desired ∧
          followed.2 = appliedReport backend.target desired followed.1.settings)) := by
  unfold Server.followFormats
  simp only
  cases formatted : (server.applyFormats floats desired calls).2 with
  | some errno =>
    have same : (server.applyFormats floats desired calls).1.settings = server.settings := by
      refine applyRuntimeConfig_refused floats fun applied => ?_
      rw [Server.applyFormats, applied] at formatted
      cases formatted
    simp only
    by_cases isBusy : errno = busy
    · rw [if_pos isBusy]
      exact ⟨rfl, .inl ⟨rfl, congrArg some isBusy, rfl, same⟩⟩
    · rw [if_neg isBusy]
      exact ⟨rfl, .inr (.inl ⟨errno, rfl, rfl, same⟩)⟩
  | none => exact ⟨rfl, .inr (.inr ⟨rfl, applyRuntimeConfig_settings floats formatted, rfl⟩)⟩

theorem follow_cases (server : Server backend) (file : Option Text) (calls : ReloadCalls Calls) :
    let followed := server.follow floats file calls
    (followed.1.settings = server.settings ∧
      ((∃ error, followed.2 = .notLoaded error) ∨ ∃ errno, followed.2 = .notLive errno)) ∨
    ∃ desired, load backend.target (defaults backend.target) file = .ok desired ∧
      let live := { server with parameters := desired }.applyLive floats desired calls.live
      live.2 = none ∧
        live.1.settings = liveSettings backend.target server.settings desired ∧
        followed = live.1.followFormats floats desired calls.format := by
  unfold Server.follow
  cases loaded : load backend.target (defaults backend.target) file with
  | error error => exact .inl ⟨rfl, .inl ⟨error, rfl⟩⟩
  | ok desired =>
    simp only
    cases live : ({ server with parameters := desired }.applyLive floats desired calls.live).2 with
    | some errno =>
      refine .inl ⟨applyRuntimeConfig_refused floats fun applied => ?_, .inr ⟨errno, rfl⟩⟩
      rw [Server.applyLive, applied] at live
      cases live
    | none =>
      exact .inr ⟨desired, rfl, live, applyRuntimeConfig_settings floats live, rfl⟩

/-! ### What the status says -/

/-- A look that finds a file that stands still, and loads as the given configuration. -/
structure Look.Finds (target : Target) (look : Look) (desired : Configuration) : Prop where
  still : ∃ stat hash, look.before = some stat ∧ look.hash = some hash ∧ look.after = some stat
  loads : load target (defaults target) look.file = .ok desired

/-- A later state, in which the recorder has stopped, with another look at the same file, and calls
with which the pipeline can be rebuilt. -/
structure Resumes (server later : Server backend) (desired : Configuration) (now : UInt64)
    (look : Look) (calls : ReloadCalls Calls) : Prop where
  settings : later.settings = server.settings
  config : later.media.config = server.media.config
  pending : later.configPending = true
  stopped : ∃ impl, later.media.impl = some impl ∧ (backend.reading impl).recording = false
  due : ¬ now - later.configCheckMs < 500
  finds : look.Finds backend.target desired
  rebuilds : (reopen backend floats later.media.inverted
    { later.media.config with settings := copyFormats later.media.config.settings desired }
    (later.media.liveControls floats calls.format.configure) calls.format.configure.change).2 = none

/-- The report of `reload_config` says what has become of the file. -/
structure Truthful (strerror : Errno → Text) (server : Server backend) (now : UInt64)
    (look : Look) (calls : ReloadCalls Calls) : Prop where
  applied : (server.reloadConfig floats strerror now look calls).2 = some .applied →
    ∃ desired, look.Finds backend.target desired ∧
      (server.reloadConfig floats strerror now look calls).1.settings = desired
  restart : (server.reloadConfig floats strerror now look calls).2 = some .restart →
    let after := (server.reloadConfig floats strerror now look calls).1
    ∃ desired, look.Finds backend.target desired ∧
      after.settings .timezone = desired .timezone ∧
      (∀ member, isLive backend.target member = true → after.settings member = desired member) ∧
      ∀ member, isLive backend.target member = false → member ≠ .timezone →
        after.settings member = server.settings member
  pending : (server.reloadConfig floats strerror now look calls).2 = some .pending →
    let after := (server.reloadConfig floats strerror now look calls).1
    ∃ desired, look.Finds backend.target desired ∧
      -- the media layer, which has the live settings, refuses the formats as busy
      (∃ media : Media backend, media.config.settings = after.settings ∧
        media.configure floats (copyFormats after.settings desired) calls.format.configure =
          (after.media, some busy)) ∧
      after.settings .timezone = desired .timezone ∧
      (∀ member, isLive backend.target member = true → member ∉ formatMembers →
        after.settings member = desired member) ∧
      after.configPending = true ∧
      ∀ (later : Server backend) (next : UInt64) (again : Look) (retry : ReloadCalls Calls),
        Resumes floats after later desired next again retry →
        let last := later.reloadConfig floats strerror next again retry
        (last.2 = some .applied ∨ last.2 = some .restart) ∧
          ∀ member, isLive backend.target member = true →
            last.1.settings member = desired member
  untouched : ∀ member ∈ restartMembers,
    (server.reloadConfig floats strerror now look calls).1.settings member =
      server.settings member

theorem configStatus_fields (server : Server backend) (status : Status) (written : Bool) :
    (server.configStatus status written).settings = server.settings ∧
      (server.configStatus status written).media = server.media ∧
      (server.configStatus status written).configPending = server.configPending := by
  unfold Server.configStatus
  split
  · exact ⟨rfl, rfl, rfl⟩
  · split <;> exact ⟨rfl, rfl, rfl⟩

theorem reloadConfig_cases (strerror : Errno → Text) (server : Server backend) (now : UInt64)
    (look : Look) (calls : ReloadCalls Calls) :
    let after := server.reloadConfig floats strerror now look calls
    (after.2 = none ∧ after.1.settings = server.settings) ∨
      ∃ checked : Server backend, checked.settings = server.settings ∧
        (∃ stat hash, look.before = some stat ∧ look.hash = some hash ∧ look.after = some stat) ∧
        let followed := checked.follow floats look.file calls
        after.2 = some followed.2 ∧ after.1.settings = followed.1.settings ∧
          after.1.media = followed.1.media ∧ after.1.configPending = followed.1.configPending := by
  unfold Server.reloadConfig
  split
  · exact .inl ⟨rfl, rfl⟩
  · split
    · next before hash after isBefore isHash isAfter =>
      split
      · exact .inl ⟨rfl, rfl⟩
      · split
        · exact .inl ⟨rfl, rfl⟩
        · next same =>
          refine .inr ⟨_, ?_, ⟨before, hash, isBefore, isHash, ?_⟩, rfl, configStatus_fields _ _ _⟩
          · rfl
          · rw [isAfter, not_not.mp same]
    · exact .inl ⟨rfl, rfl⟩

theorem reloadConfig_again (strerror : Errno → Text) {later : Server backend} {now : UInt64}
    {look : Look} (calls : ReloadCalls Calls) (pending : later.configPending = true)
    (due : ¬ now - later.configCheckMs < 500)
    (still : ∃ stat hash, look.before = some stat ∧ look.hash = some hash ∧
      look.after = some stat) : ∃ checked : Server backend, checked.settings = later.settings ∧
      checked.media = later.media ∧
      let followed := checked.follow floats look.file calls
      let last := later.reloadConfig floats strerror now look calls
      last.2 = some followed.2 ∧ last.1.settings = followed.1.settings := by
  obtain ⟨stat, hash, before, hashed, after⟩ := still
  unfold Server.reloadConfig
  rw [if_neg due, before, hashed, after]
  simp only [pending, Bool.not_true, Bool.and_false, Bool.false_and, Bool.false_eq_true, if_false,
    ne_eq, not_true_eq_false]
  exact ⟨{ later with
    configCheckMs := now
    configSeen := true
    configStat := stat
    configPending := false }, rfl, rfl, rfl, (configStatus_fields _ _ _).1⟩

theorem liveSettings_self (valid : Valid target settings) (alsoValid : Valid target desired)
    (taken : ∀ member, isLive target member = true ∨ member = .timezone →
      member ∉ formatMembers → settings member = desired member) :
    liveSettings target settings desired = settings := by
  funext member
  rw [liveSettings_member valid alsoValid]
  split
  · next asked => exact (taken member asked.1 asked.2).symm
  · rfl

/-- When only the formats are left to apply, and the recorder has stopped, they are applied. -/
theorem follow_resumes {server : Server backend} {desired : Configuration}
    {file : Option Text} {calls : ReloadCalls Calls} {impl : backend.Impl}
    (valid : Valid backend.target server.settings) (alsoValid : Valid backend.target desired)
    (taken : ∀ member, isLive backend.target member = true ∨ member = .timezone →
      member ∉ formatMembers → server.settings member = desired member)
    (inSync : server.media.config.settings = server.settings)
    (isOpen : server.media.impl = some impl) (stopped : (backend.reading impl).recording = false)
    (loads : load backend.target (defaults backend.target) file = .ok desired)
    (rebuilds : (reopen backend floats server.media.inverted
      { server.media.config with
        settings := copyFormats server.media.config.settings desired }
      (server.media.liveControls floats calls.format.configure)
      calls.format.configure.change).2 = none) :
    let followed := server.follow floats file calls
    (followed.2 = .applied ∨ followed.2 = .restart) ∧
      ∀ member, isLive backend.target member = true →
        followed.1.settings member = desired member := by
  have unchanged : liveSettings backend.target server.settings desired = server.settings :=
    liveSettings_self valid alsoValid taken
  have same : server.media.configure floats server.settings calls.live.configure =
      (server.media, none) := by
    rw [← inSync]
    exact configure_same floats isOpen _
  obtain ⟨liveResult, liveMedia⟩ := applyRuntimeConfig_formats floats
    { server with parameters := desired } calls.live (rfl : server.settings .thermalPalette = _)
    rfl rfl
  rw [same] at liveResult liveMedia
  have live : { server with parameters := desired }.applyLive floats desired calls.live =
      { server with parameters := desired }.applyRuntimeConfig floats server.settings
        calls.live := by
    unfold Server.applyLive
    rw [unchanged]
  unfold Server.follow
  simp only [loads, live, liveResult]
  have liveSettings := applyRuntimeConfig_settings floats liveResult
  generalize ({ server with parameters := desired }.applyRuntimeConfig floats server.settings
    calls.live).1 = applied at *
  have formatted : (applied.applyFormats floats desired calls.format).2 = none := by
    obtain ⟨result, -⟩ := applyRuntimeConfig_formats floats applied calls.format
      (rfl : copyFormats applied.settings desired .thermalPalette = _) rfl rfl
    unfold Server.applyFormats
    rw [result, liveSettings, liveMedia, ← inSync]
    exact configure_formats floats isOpen stopped desired _ rebuilds
  obtain ⟨-, ⟨-, refused, -⟩ | ⟨errno, -, refused, -⟩ | ⟨-, settings, report⟩⟩ :=
    followFormats_cases floats applied desired calls.format
  · cases formatted.symm.trans refused
  · cases formatted.symm.trans refused
  · refine ⟨?_, fun member isLive => ?_⟩
    · rw [report]
      unfold appliedReport
      split
      · exact .inr rfl
      · exact .inl rfl
    · rw [settings, liveSettings]
      unfold copyFormats
      split
      · rfl
      · next other => exact taken member (.inl isLive) other

theorem reloadConfig_ends (strerror : Errno → Text) (server : Server backend) (now : UInt64)
    (look : Look) (calls : ReloadCalls Calls) :
    let after := server.reloadConfig floats strerror now look calls
    (after.1.settings = server.settings ∧ after.2 ≠ some .pending ∧ after.2 ≠ some .restart ∧
        after.2 ≠ some .applied) ∨
      ∃ (desired : Configuration) (live : Server backend), look.Finds backend.target desired ∧
        live.settings = liveSettings backend.target server.settings desired ∧
        live.media.config.settings = live.settings ∧
        let formatted := live.applyFormats floats desired calls.format
        ((after.2 = some .pending ∧ formatted.2 = some busy ∧ after.1.media = formatted.1.media ∧
            after.1.configPending = true ∧ after.1.settings = live.settings) ∨
          (∃ errno, after.2 = some (.noFormat errno) ∧ after.1.settings = live.settings) ∨
          (after.1.settings = copyFormats live.settings desired ∧
            after.2 = some (appliedReport backend.target desired after.1.settings))) := by
  simp only
  obtain ⟨quiet, same⟩ | ⟨checked, sameSettings, still, report, settings, media, pending⟩ :=
    reloadConfig_cases floats strerror server now look calls
  · rw [quiet]
    exact .inl ⟨same, nofun, nofun, nofun⟩
  rw [report, settings, media, pending, ← sameSettings]
  obtain ⟨same, ⟨error, refused⟩ | ⟨errno, refused⟩⟩ |
    ⟨desired, loads, live, liveTaken, followed⟩ :=
    follow_cases floats checked look.file calls
  · rw [refused]
    exact .inl ⟨same, nofun, nofun, nofun⟩
  · rw [refused]
    exact .inl ⟨same, nofun, nofun, nofun⟩
  have liveConfig := applyRuntimeConfig_config floats live
  rw [followed]
  refine .inr ⟨desired, _, ⟨still, loads⟩, liveTaken, liveConfig.trans liveTaken.symm, ?_⟩
  obtain ⟨formatMedia, ⟨isPending, isBusy, waits, kept⟩ | ⟨errno, failed, -, kept⟩ |
    ⟨-, taken, done⟩⟩ := followFormats_cases floats _ desired calls.format
  · exact .inl ⟨congrArg some isPending, isBusy, formatMedia, waits, kept⟩
  · exact .inr (.inl ⟨errno, congrArg some failed, kept⟩)
  · exact .inr (.inr ⟨taken, congrArg some done⟩)

theorem valid_of_finds {look : Look} (finds : look.Finds target desired) : Valid target desired :=
  (valid_defaults target).load finds.loads

variable (strerror : Errno → Text)

theorem reloadConfig_member (now : UInt64) {look : Look}
    (calls : ReloadCalls Calls) (valid : Valid backend.target server.settings) {member : Member}
    (notLive : isLive backend.target member = false) (notZone : member ≠ .timezone) :
    (server.reloadConfig floats strerror now look calls).1.settings member =
      server.settings member := by
  have asked : ¬ (isLive backend.target member = true ∨ member = .timezone) := by
    rintro (live | zone)
    · exact absurd (live.symm.trans notLive) nofun
    · exact notZone zone
  obtain ⟨same, -⟩ | ⟨desired, live, finds, taken, -, ends⟩ :=
    reloadConfig_ends floats strerror server now look calls
  · rw [same]
  have alsoValid := valid_of_finds finds
  have kept : live.settings member = server.settings member := by
    rw [taken, liveSettings_member valid alsoValid, if_neg fun both => asked both.1]
  obtain ⟨-, -, -, -, same⟩ | ⟨-, -, same⟩ | ⟨formatted, -⟩ := ends
  · rw [same, kept]
  · rw [same, kept]
  · rw [formatted, taken, copyFormats_member valid alsoValid, if_neg asked]

theorem truthful (now : UInt64) (look : Look) (calls : ReloadCalls Calls)
    (valid : Valid backend.target server.settings) :
    Truthful floats strerror server now look calls where
  untouched := by
    intro member isRestart
    obtain ⟨notLive, notZone⟩ := restart_not_live backend.target member isRestart
    exact reloadConfig_member floats strerror now calls valid notLive notZone
  applied := by
    intro reported
    obtain ⟨-, -, -, quiet⟩ | ⟨desired, live, finds, taken, -, ends⟩ :=
      reloadConfig_ends floats strerror server now look calls
    · exact absurd reported quiet
    have alsoValid := valid_of_finds finds
    obtain ⟨isPending, -⟩ | ⟨errno, failed, -⟩ | ⟨formatted, report⟩ := ends
    · cases reported.symm.trans isPending
    · cases reported.symm.trans failed
    refine ⟨desired, finds, funext fun member => ?_⟩
    have noRestart : needsRestart backend.target desired
        (server.reloadConfig floats strerror now look calls).1.settings = false := by
      have isApplied := some.inj (report.symm.trans reported)
      unfold appliedReport at isApplied
      split at isApplied
      · cases isApplied
      · next restart => exact Bool.eq_false_iff.mpr restart
    by_cases asked : isLive backend.target member = true ∨ member = .timezone
    · rw [formatted, taken, copyFormats_member valid alsoValid, if_pos asked]
    · obtain ⟨notLive, notZone⟩ := not_or.mp asked
      refine same_of_applied ?_ alsoValid noRestart (Bool.eq_false_iff.mpr notLive) notZone
      rw [formatted, taken]
      exact valid_copyFormats (valid_liveSettings valid alsoValid) alsoValid
  restart := by
    intro reported
    obtain ⟨-, -, quiet, -⟩ | ⟨desired, live, finds, taken, -, ends⟩ :=
      reloadConfig_ends floats strerror server now look calls
    · exact absurd reported quiet
    have alsoValid := valid_of_finds finds
    obtain ⟨isPending, -⟩ | ⟨errno, failed, -⟩ | ⟨formatted, -⟩ := ends
    · cases reported.symm.trans isPending
    · cases reported.symm.trans failed
    refine ⟨desired, finds, ?_, fun member isLive => ?_, fun member notLive notZone =>
      reloadConfig_member floats strerror now calls valid notLive notZone⟩
    · rw [formatted, taken, copyFormats_member valid alsoValid, if_pos (.inr rfl)]
    · rw [formatted, taken, copyFormats_member valid alsoValid, if_pos (.inl isLive)]
  pending := by
    intro reported
    obtain ⟨-, quiet, -⟩ | ⟨desired, live, finds, taken, inSync, ends⟩ :=
      reloadConfig_ends floats strerror server now look calls
    · exact absurd reported quiet
    have alsoValid := valid_of_finds finds
    obtain ⟨-, isBusy, media, waits, same⟩ | ⟨errno, failed, -⟩ | ⟨-, report⟩ := ends
    · have liveTaken : ∀ member, isLive backend.target member = true ∨ member = .timezone →
          member ∉ formatMembers →
          (server.reloadConfig floats strerror now look calls).1.settings member =
            desired member := by
        intro member asked other
        rw [same, taken, liveSettings_member valid alsoValid, if_pos ⟨asked, other⟩]
      obtain ⟨result, configured⟩ := applyRuntimeConfig_formats floats live calls.format
        (rfl : copyFormats live.settings desired .thermalPalette = _) rfl rfl
      have refused : live.media.configure floats (copyFormats live.settings desired)
          calls.format.configure =
          ((server.reloadConfig floats strerror now look calls).1.media, some busy) :=
        Prod.ext (configured.symm.trans media.symm) (result.symm.trans isBusy)
      refine ⟨desired, finds, ⟨live.media, inSync.trans same.symm, ?_⟩,
        liveTaken .timezone (.inr rfl) (by decide),
        fun member isLive => liveTaken member (.inl isLive), waits, ?_⟩
      · rw [same]
        exact refused
      · intro later next again retry resumes
        obtain ⟨impl, isOpen, stopped⟩ := resumes.stopped
        obtain ⟨checked, checkedSettings, checkedMedia, report, settings⟩ :=
          reloadConfig_again floats strerror retry resumes.pending resumes.due resumes.finds.still
        have kept : (server.reloadConfig floats strerror now look calls).1.media.config =
            live.media.config := by
          have unchanged := (configure_config floats live.media
            (copyFormats live.settings desired) calls.format.configure).2
          rw [refused] at unchanged
          exact unchanged nofun
        have sameChecked := checkedSettings.trans resumes.settings
        simp only [report, settings, some.injEq]
        rw [← checkedMedia] at isOpen
        have rebuilds := resumes.rebuilds
        rw [← checkedMedia] at rebuilds
        refine follow_resumes floats ?_ alsoValid ?_ ?_ isOpen stopped resumes.finds.loads rebuilds
        · rw [sameChecked, same, taken]
          exact valid_liveSettings valid alsoValid
        · rw [sameChecked]
          exact liveTaken
        · rw [checkedMedia, resumes.config, kept, inSync, sameChecked, same]
    · cases reported.symm.trans failed
    · have isPending := some.inj (report.symm.trans reported)
      unfold appliedReport at isPending
      split at isPending <;> cases isPending

/-! ### Running servers -/

inductive Control (Number : Type)
  | recording (active : Bool)
  | zoom (ratio : Number)
  | lens (shown : Lens)
  | thermalMain (active : Bool)
  | gain (level : UInt8)
  | palette (index : UInt8)
  | inverted (active : Bool)

def Control.perform (media : Media backend) (control : Control Number) (calls : Calls) :
    Media backend :=
  match control with
  | .recording active => (media.setRecording active calls).1
  | .zoom ratio => (media.setZoom ratio calls).1
  | .lens shown => (media.setLens shown calls).1
  | .thermalMain active => (media.setThermalMain active calls).1
  | .gain level => (media.setThermalGain level calls).1
  | .palette index => (media.setThermalPalette index calls).1
  | .inverted active => (media.setInverted active calls).1

/-- What happens to a server. Commands to the gimbal and the tracking of a target change only the
state of the tracking. -/
inductive Event (Number Calls : Type)
  | parameter (index : Nat) (value : Config.Number) (file : Option Text)
      (calls : CameraConfigCalls Calls)
  | refresh (file : Option Text)
  | reload (now : UInt64) (look : Look) (calls : ReloadCalls Calls)
  | heartbeat (armed : Bool) (calls : Calls)
  | control (control : Control Number) (calls : Calls)
  | track (locationActive : Bool) (lastLocationMs : UInt64) (rateActive : Bool)

/-- `PARAM_SET` and `PARAM_EXT_SET` of a parameter of the configuration. -/
def Server.setParameter (server : Server backend) (index : Nat) (value : Config.Number)
    (file : Option Text) (calls : CameraConfigCalls Calls) : Server backend :=
  if liveConfigParameter backend.target index then
    (server.applyCameraConfig floats index value file calls).1
  else
    { server with
      parameters :=
        (savedParameters backend.target file index value calls.written).getD server.parameters }

def Server.refreshParameters (server : Server backend) (file : Option Text) : Server backend :=
  match load backend.target (defaults backend.target) file with
  | .error _ => server
  | .ok parameters => { server with parameters }

/-- The part of `process_message` that follows the heartbeat of the vehicle. -/
def Server.noteArmed (server : Server backend) (armed : Bool) (calls : Calls) : Server backend :=
  let noted := { server with haveVehicleArmed := true, vehicleArmed := armed }
  if server.settings .autorecord = autorecordWhileArmed ∧ server.media.recording ≠ armed then
    { noted with media := (server.media.setRecording armed calls).1 }
  else noted

def step (strerror : Errno → Text) (server : Server backend) :
    Event Number Calls → Server backend
  | .parameter index value file calls => server.setParameter floats index value file calls
  | .refresh file => server.refreshParameters file
  | .reload now look calls => (server.reloadConfig floats strerror now look calls).1
  | .heartbeat armed calls => server.noteArmed armed calls
  | .control control calls => { server with media := control.perform server.media calls }
  | .track locationActive lastLocationMs rateActive =>
    { server with
      targetLocationActive := locationActive
      lastTargetLocationMs := lastLocationMs
      trackingRateActive := rateActive }

def run (strerror : Errno → Text) (server : Server backend) (events : List (Event Number Calls)) :
    Server backend :=
  events.foldl (step floats strerror) server

theorem valid_applyCameraConfig (index : Nat) (value : Config.Number) (file : Option Text)
    (calls : CameraConfigCalls Calls) (valid : Valid backend.target server.settings) :
    Valid backend.target (server.applyCameraConfig floats index value file calls).1.settings := by
  have taken {server : Server backend} {next : Configuration} (calls : ApplyCalls Calls)
      (valid : Valid backend.target server.settings) (nextValid : Valid backend.target next) :
      Valid backend.target (server.applyRuntimeConfig floats next calls).1.settings := by
    rcases applyRuntimeConfig_either floats server next calls with same | same
    · rw [same]
      exact nextValid
    · rw [same]
      exact valid
  unfold Server.applyCameraConfig
  simp only
  split
  · exact valid
  next next assigned =>
    have applied := taken calls.apply valid (valid.assign assigned)
    split
    · exact applied
    · split
      · unfold Server.takeBack
        simp only
        split
        · exact taken calls.rollback applied valid
        · exact taken calls.rollback applied valid
      · exact applied

theorem valid_reloadConfig (now : UInt64) (look : Look)
    (calls : ReloadCalls Calls) (valid : Valid backend.target server.settings) :
    Valid backend.target (server.reloadConfig floats strerror now look calls).1.settings := by
  obtain ⟨same, -⟩ | ⟨desired, live, finds, taken, -, ends⟩ :=
    reloadConfig_ends floats strerror server now look calls
  · rw [same]
    exact valid
  have alsoValid := valid_of_finds finds
  have liveValid : Valid backend.target live.settings := by
    rw [taken]
    exact valid_liveSettings valid alsoValid
  obtain ⟨-, -, -, -, same⟩ | ⟨-, -, same⟩ | ⟨formatted, -⟩ := ends
  · rw [same]
    exact liveValid
  · rw [same]
    exact liveValid
  · rw [formatted]
    exact valid_copyFormats liveValid alsoValid

theorem valid_step (event : Event Number Calls)
    (valid : Valid backend.target server.settings) :
    Valid backend.target (step floats strerror server event).settings := by
  cases event with
  | parameter index value file calls =>
    show Valid _ (server.setParameter floats index value file calls).settings
    unfold Server.setParameter
    split
    · exact valid_applyCameraConfig floats index value file calls valid
    · exact valid
  | refresh file =>
    show Valid _ (server.refreshParameters file).settings
    unfold Server.refreshParameters
    split <;> exact valid
  | reload now look calls => exact valid_reloadConfig floats strerror now look calls valid
  | heartbeat armed calls =>
    show Valid _ (server.noteArmed armed calls).settings
    unfold Server.noteArmed
    split <;> exact valid
  | control control calls => exact valid
  | track locationActive lastLocationMs rateActive => exact valid

theorem valid_run (events : List (Event Number Calls))
    (valid : Valid backend.target server.settings) :
    Valid backend.target (run floats strerror server events).settings := by
  induction events generalizing server with
  | nil => exact valid
  | cons event rest hypothesis =>
    exact hypothesis (valid_step floats strerror event valid)

/-- In every state that a server can reach, from the configuration that the program starts with, a
look at the file reports truthfully what has become of it. -/
theorem reload_status_truthful (strerror : Errno → Text) {file : Option Text}
    {config : Configuration} (loads : loadOrDefaults backend.target file = .ok config)
    (media : Media backend) (events : List (Event Number Calls)) (now : UInt64) (look : Look)
    (calls : ReloadCalls Calls) :
    Truthful floats strerror (run floats strerror (serverOpen media config) events) now look
      calls :=
  truthful floats strerror now look calls
    (valid_run floats strerror events (valid_of_loadOrDefaults loads))

/-- A look at a file that asks for another palette. -/
def nightLook : Look where
  before := some ⟨1, 1, 26, 1, 0, 1, 0⟩
  file := some (bytes "[thermal]\npalette = night\n")
  hash := some 7
  after := some ⟨1, 1, 26, 1, 0, 1, 0⟩

/-- Every call succeeds. -/
def ReloadCalls.working {Calls : Type} (calls : Calls) : ReloadCalls Calls where
  live := .all calls
  format := .all calls
  written := true

theorem reload_status_truthful_night :
    ∃ opened, mediaOpen (Mt11Media.backend exactFloats) Mt11Media.factoryConfig .working =
        .ok opened ∧
      let server := run exactFloats (fun _ => []) (serverOpen opened (defaults .mt11)) []
      (server.reloadConfig exactFloats (fun _ => []) 500 nightLook (.working .working)).2 =
          some .applied ∧
        Truthful exactFloats (fun _ => []) server 500 nightLook (.working .working) :=
  ⟨_, rfl, by decide +kernel,
    reload_status_truthful exactFloats _
      (show loadOrDefaults .mt11 none = .ok (defaults .mt11) from rfl) _ [] 500 nightLook _⟩

end RuntimeConfig
