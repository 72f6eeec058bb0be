/-
This file proves the service of the camera definition over runs of requests: the sessions stay
apart, a request leaves the sessions of other clients alone unless they were idle for a minute,
and a client that reads on from where it is receives the definition and then its end, whatever
the other clients ask in between.
-/

import CameraGimbal.CameraFtpService

namespace CameraFtp

open CText SessionSlots List Function Bool
open Siyi (byteAt)

/-! ### What a request does to the sessions -/

variable (definition : Definition)

theorem outcome_cases (sessions : Sessions) (request : Request) :
    (outcome definition sessions request).1 = sessions ∨
    (¬ 239 < request.size ∧ request.opcode = 2 ∧
      (outcome definition sessions request).1 =
        endWhere sessions fun slot => request.owns slot.key) ∨
    (∃ slot, place sessions request.key = some slot ∧
      (outcome definition sessions request).1 = update sessions slot
        { key := request.key, active := true, lastUse := request.now }) ∨
    (¬ 239 < request.size ∧ request.opcode = 1 ∧ ∃ slot,
      lookup sessions request.key = some slot ∧
      (outcome definition sessions request).1 =
        update sessions slot { sessions slot with active := false }) ∨
    (∃ slot, lookup sessions request.key = some slot ∧
      (outcome definition sessions request).1 =
        update sessions slot { sessions slot with lastUse := request.now }) := by
  unfold outcome
  by_cases large : 239 < request.size
  · rw [if_pos large]
    exact .inl rfl
  rw [if_neg large]
  by_cases reset : request.opcode = 2
  · rw [if_pos reset]
    exact .inr (.inl ⟨large, reset, rfl⟩)
  rw [if_neg reset]
  by_cases lists : request.opcode = 3 ∨ request.opcode = 16
  · rw [if_pos lists]
    exact .inl rfl
  rw [if_neg lists]
  by_cases opens : request.opcode = 4
  · rw [if_pos opens]
    unfold opened
    split
    · exact .inl rfl
    · split
      · exact .inl rfl
      · next slot placed => exact .inr (.inr (.inl ⟨slot, placed, rfl⟩))
  rw [if_neg opens]
  by_cases terminates : request.opcode = 1
  · rw [if_pos terminates]
    split
    · next slot found => exact .inr (.inr (.inr (.inl ⟨large, terminates, slot, found, rfl⟩)))
    · exact .inl rfl
  rw [if_neg terminates]
  by_cases reads : request.opcode = 5 ∨ request.opcode = 15
  · rw [if_pos reads]
    unfold readAt
    split
    · exact .inl rfl
    · next slot found =>
      split
      · exact .inl rfl
      split
      · exact .inl rfl
      · exact .inr (.inr (.inr (.inr ⟨slot, found, rfl⟩)))
  · rw [if_neg reads]
    exact .inl rfl

/-- The sessions after a request. -/
def after (definition : Definition) (sessions : Sessions) (request : Request) : Sessions :=
  (outcome definition (expire request.now sessions) request).1

def answer (definition : Definition) (sessions : Sessions) (request : Request) : Answer :=
  (outcome definition (expire request.now sessions) request).2

theorem reply_after (sessions : Sessions) (request : Request) :
    reply definition sessions request = some (after definition sessions request,
      frame request (answer definition sessions request)) :=
  (reply_eq definition sessions request).1

variable {sessions : Sessions}

theorem distinct_after (distinct : Distinct sessions)
    (request : Request) : Distinct (after definition sessions request) := by
  have live : Distinct (expire request.now sessions) := distinct.endWhere _
  unfold after
  rcases outcome_cases definition (expire request.now sessions) request with
    same | ⟨-, -, same⟩ | ⟨slot, placed, same⟩ | ⟨-, -, slot, -, same⟩ | ⟨slot, found, same⟩
  · rw [same]
    exact live
  · rw [same]
    exact live.endWhere _
  · rw [same]
    exact live.opened placed request.now
  · rw [same]
    exact live.update slot _ nofun
  · rw [same]
    exact live.update slot _ fun active =>
      .inl (holds_iff.mpr ⟨active, rfl⟩)

variable {now : UInt64} {slot : Fin 4}

theorem expire_of_recent (recent : idle now (sessions slot) = false) :
    expire now sessions slot = sessions slot :=
  endWhere_of_not recent

variable {request : Request}

/-- A request leaves the session of another client as it is, unless that one is idle. -/
theorem after_foreign (active : (sessions slot).active = true)
    (foreign : request.owns (sessions slot).key = false)
    (recent : idle request.now (sessions slot) = false) :
    after definition sessions request slot = sessions slot := by
  have live : expire request.now sessions slot = sessions slot := expire_of_recent recent
  have differs : (expire request.now sessions slot).key ≠ request.key := by
    intro same
    rw [live] at same
    rw [same] at foreign
    simp [Request.owns, Request.key] at foreign
  have elsewhere : ∀ other, lookup (expire request.now sessions) request.key = some other →
      slot ≠ other := by
    rintro other found rfl
    exact differs (holds_iff.mp (lookup_holds found)).2
  unfold after
  rcases outcome_cases definition (expire request.now sessions) request with
    same | ⟨-, -, same⟩ | ⟨other, placed, same⟩ | ⟨-, -, other, found, same⟩ | ⟨other, found, same⟩
  · rw [same, live]
  · rw [same, endWhere_of_not (by rw [live]; exact foreign), live]
  · rw [same, opened_other placed _ (by rw [live]; exact active) differs, live]
  · rw [same, update_of_ne (elsewhere other found), live]
  · rw [same, update_of_ne (elsewhere other found), live]

/-- The request ends the session of a key. -/
def closes (key : SessionKey) (request : Request) : Bool :=
  !decide (239 < request.size) && (decide (request.opcode = 2) && request.owns key ||
    decide (request.opcode = 1) && decide (request.key = key))

variable {key : SessionKey}

variable (definition : Definition)

/-- A session that is in use goes on, unless its client ends it. -/
theorem after_holds (holds : (sessions slot).holds key = true)
    (recent : idle request.now (sessions slot) = false) (stays : closes key request = false) :
    (after definition sessions request slot).holds key = true := by
  have live : expire request.now sessions slot = sessions slot := expire_of_recent recent
  obtain ⟨active, isKey⟩ := holds_iff.mp holds
  unfold after
  rcases outcome_cases definition (expire request.now sessions) request with
    same | ⟨fits, reset, same⟩ | ⟨other, placed, same⟩ | ⟨fits, ends, other, found, same⟩ |
      ⟨other, found, same⟩
  · rw [same, live]
    exact holds
  · have foreign : request.owns key = false := by
      simpa [closes, fits, reset] using stays
    rw [same, endWhere_of_not (by rw [live, isKey]; exact foreign), live]
    exact holds
  · rw [same]
    by_cases isOther : slot = other
    · rw [isOther, update_self]
      rw [← isOther] at placed
      rcases place_cases placed with own | ⟨free, -⟩
      · have isRequest := (holds_iff.mp own).2
        rw [live, isKey] at isRequest
        rw [isRequest]
        simp [Slot.holds]
      · rw [live, active] at free
        cases free
    · rw [update_of_ne isOther, live]
      exact holds
  · rw [same]
    by_cases isOther : slot = other
    · have own := (holds_iff.mp (lookup_holds found)).2
      rw [← isOther, live, isKey] at own
      simp [closes, fits, ends, own] at stays
    · rw [update_of_ne isOther, live]
      exact holds
  · rw [same]
    by_cases isOther : slot = other
    · rw [← isOther, update_self, live]
      exact holds
    · rw [update_of_ne isOther, live]
      exact holds

/-! ### The clock -/

/-- No session was used after a time. -/
def UsedBefore (sessions : Sessions) (now : UInt64) : Prop :=
  ∀ slot, (sessions slot).active = true → (sessions slot).lastUse ≤ now

/-- How long ago a session was used. -/
def age (now : UInt64) (slot : Slot SessionKey UInt64) : Nat := now.toNat - slot.lastUse.toNat

theorem idle_iff {slot : Slot SessionKey UInt64} (used : slot.lastUse ≤ now) :
    idle now slot = true ↔ 60000 < age now slot := by
  rw [idle, decide_eq_true_iff, UInt64.lt_iff_toNat_lt, UInt64.toNat_sub_of_le _ _ used]
  rfl

theorem recent_of_age {slot : Slot SessionKey UInt64} (used : slot.lastUse ≤ now)
    (recent : age now slot ≤ 60000) : idle now slot = false := by
  rw [← not_eq_true, idle_iff used]
  exact Nat.not_lt_of_le recent

theorem UsedBefore.endWhere (used : UsedBefore sessions now)
    (ends : Slot SessionKey UInt64 → Bool) : UsedBefore (endWhere sessions ends) now := by
  intro slot active
  unfold SessionSlots.endWhere at active ⊢
  split at active
  · cases active
  · next keeps =>
    rw [if_neg keeps]
    exact used slot active

theorem UsedBefore.update (used : UsedBefore sessions now) (slot : Fin 4)
    {session : Slot SessionKey UInt64} (fresh : session.active = true → session.lastUse ≤ now) :
    UsedBefore (update sessions slot session) now := by
  intro other active
  by_cases isOther : other = slot
  · rw [isOther, update_self] at active ⊢
    exact fresh active
  · rw [update_of_ne isOther] at active ⊢
    exact used other active

theorem usedBefore_after (used : UsedBefore sessions request.now) :
    UsedBefore (after definition sessions request) request.now := by
  have live : UsedBefore (expire request.now sessions) request.now := used.endWhere _
  unfold after
  rcases outcome_cases definition (expire request.now sessions) request with
    same | ⟨-, -, same⟩ | ⟨slot, -, same⟩ | ⟨-, -, slot, -, same⟩ | ⟨slot, -, same⟩
  · rw [same]
    exact live
  · rw [same]
    exact live.endWhere _
  · rw [same]
    exact live.update slot fun _ => UInt64.le_rfl
  · rw [same]
    exact live.update slot nofun
  · rw [same]
    exact live.update slot fun _ => UInt64.le_rfl

theorem UsedBefore.mono {later : UInt64} (used : UsedBefore sessions now) (passes : now ≤ later) :
    UsedBefore sessions later :=
  fun slot active => UInt64.le_trans (used slot active) passes

/-- The times of the requests do not decrease. -/
def Ordered (requests : List Request) : Prop :=
  requests.Pairwise fun earlier later => earlier.now ≤ later.now

theorem run_cons (sessions : Sessions) (request : Request)
    (rest : List Request) {last : Sessions} {responses : List (Bytes)}
    (ran : run definition (after definition sessions request) rest = some (last, responses)) :
    run definition sessions (request :: rest) =
      some (last, frame request (answer definition sessions request) :: responses) := by
  rw [run, reply_after, Option.bind_eq_bind, Option.bind_some]
  simp only [ran]
  rfl

/-- Every run of requests is answered; it leaves sessions that are apart and that were used
before any later request. -/
theorem run_sound {sessions : Sessions} (distinct : Distinct sessions)
    {requests : List Request} (ordered : Ordered requests)
    (used : ∀ request ∈ requests, UsedBefore sessions request.now) :
    ∃ last responses, run definition sessions requests = some (last, responses) ∧
      Distinct last ∧ ∀ now, (∀ request ∈ requests, request.now ≤ now) →
        UsedBefore sessions now → UsedBefore last now := by
  induction requests generalizing sessions with
  | nil => exact ⟨sessions, [], rfl, distinct, fun _ _ same => same⟩
  | cons request rest hypothesis =>
    obtain ⟨first, others⟩ := pairwise_cons.mp ordered
    have here := usedBefore_after definition (used request mem_cons_self)
    obtain ⟨last, responses, ran, apart, times⟩ :=
      hypothesis (distinct_after definition distinct request) others
        fun later member => here.mono (first later member)
    refine ⟨last, _, run_cons definition sessions request rest ran, apart, ?_⟩
    intro now passes _
    exact times now (fun later member => passes later (mem_cons_of_mem _ member))
      (here.mono (passes request mem_cons_self))

/-! ### A download -/

/-- The request reads, with a size from 1 to 239, at an offset of the session of a key. -/
def reads (key : SessionKey) (offset : Nat) (request : Request) : Bool :=
  decide (request.key = key) && decide (request.opcode = 5 ∨ request.opcode = 15) &&
    decide (request.size ≠ 0) && !decide (239 < request.size) &&
    decide (request.offset.toNat = offset)

/-- The data that a client takes from a reply. -/
def dataOf (response : Bytes) : Bytes :=
  if byteAt response 3 = 128 then (response.drop 12).take (byteAt response 4).toNat else []

/-- What a client has received, and how many bytes it asked for. -/
structure Gathered where
  data : Bytes
  asked : Nat
  deriving DecidableEq, Repr

/-- A client that reads on from where it is; replies to what it repeats add nothing. -/
def gather (key : SessionKey) (got : Gathered) (exchange : Request × Bytes) : Gathered :=
  if reads key got.data.length exchange.1 then
    { data := got.data ++ dataOf exchange.2, asked := got.asked + exchange.1.size.toNat }
  else got

/-- The session of a key stays alive: its client neither terminates it nor resets its sessions,
and no request finds it unused for more than a minute. -/
def StaysAlive (definition : Definition) (key : SessionKey) (sessions : Sessions) :
    List Request → Prop
  | [] => True
  | request :: rest =>
    closes key request = false ∧
      (∀ slot, (sessions slot).holds key = true → age request.now (sessions slot) ≤ 60000) ∧
      StaysAlive definition key (after definition sessions request) rest

def readAnswer (definition : Definition) (request : Request) (offset : Nat) : Answer :=
  if definition.text.length ≤ offset then .refused 6
  else .accepted (decide (request.opcode = 15))
    ((definition.text.drop offset).take request.size.toNat)

theorem answer_reads (distinct : Distinct sessions)
    (holds : (sessions slot).holds key = true) (recent : idle request.now (sessions slot) = false)
    {offset : Nat} (isRead : reads key offset request = true) :
    answer definition sessions request = readAnswer definition request offset := by
  have live : expire request.now sessions slot = sessions slot := expire_of_recent recent
  simp only [reads, and_eq_true, decide_eq_true_eq, not_eq_true', decide_eq_false_iff_not] at isRead
  obtain ⟨⟨⟨⟨isKey, opcode⟩, filled⟩, fits⟩, isOffset⟩ := isRead
  have found : lookup (expire request.now sessions) request.key = some slot := by
    refine (distinct.endWhere _).lookup ?_
    show (expire request.now sessions slot).holds request.key = true
    rw [live, isKey]
    exact holds
  have others : ¬ request.opcode = 2 ∧ ¬ (request.opcode = 3 ∨ request.opcode = 16) ∧
      ¬ request.opcode = 4 ∧ ¬ request.opcode = 1 := by
    rcases opcode with same | same <;> rw [same] <;> decide
  obtain ⟨notReset, notList, notOpen, notTerminate⟩ := others
  unfold answer outcome readAt readAnswer
  rw [if_neg fits, if_neg notReset, if_neg notList, if_neg notOpen, if_neg notTerminate,
    if_pos opcode, found]
  simp only [if_neg filled, isOffset]
  split <;> rfl

/-- The data of the file in an answer. -/
def Answer.received : Answer → Bytes
  | .accepted _ data => data
  | .refused _ => []

theorem dataOf_frame (request : Request) {answer : Answer} (fits : answer.data.length ≤ 239) :
    dataOf (frame request answer) = answer.received := by
  cases answer with
  | refused error => rfl
  | accepted burst data =>
    have size : (UInt8.ofNat data.length).toNat = data.length := by
      rw [UInt8.toNat_ofNat']
      exact Nat.mod_eq_of_lt (lt_of_le_of_lt fits (by decide))
    have split : frame request (.accepted burst data) =
        (header request 128 (UInt8.ofNat data.length) (if burst then 1 else 0) ++
          (request.payload.drop 8).take 4) ++
          (data ++ replicate (239 - data.length) 0) := by
      rw [append_assoc]
      rfl
    have behind : (frame request (.accepted burst data)).drop 12 =
        data ++ replicate (239 - data.length) 0 := by
      rw [split, drop_append_of_le_length (by
        rw [length_append, length_offset]
        exact le_rfl), drop_of_length_le (by
        rw [length_append, length_offset]
        exact le_rfl), nil_append]
    show (if (128 : UInt8) = 128 then
      ((frame request (.accepted burst data)).drop 12).take (UInt8.ofNat data.length).toNat
      else []) = data
    rw [if_pos rfl, behind, size, take_left]

theorem take_append_read (text : Bytes) (asked size : Nat) :
    text.take asked ++
        (if text.length ≤ (text.take asked).length then []
          else (text.drop (text.take asked).length).take size) =
      text.take (asked + size) := by
  by_cases ended : text.length ≤ asked
  · rw [take_of_length_le ended, if_pos le_rfl, append_nil,
      take_of_length_le (ended.trans (Nat.le_add_right _ _))]
  · have length : (text.take asked).length = asked := by
      rw [length_take]
      omega
    rw [length, if_neg ended, take_add]

/-- What a client has received stays the beginning of the definition, and its session stays. -/
theorem download {requests : List Request} (ordered : Ordered requests)
    (distinct : Distinct sessions) (holds : (sessions slot).holds key = true)
    (used : ∀ request ∈ requests, UsedBefore sessions request.now)
    (alive : StaysAlive definition key sessions requests) {got : Gathered}
    (begins : got.data = definition.text.take got.asked) :
    ∃ last responses, run definition sessions requests = some (last, responses) ∧
      (last slot).holds key = true ∧
      ((requests.zip responses).foldl (gather key) got).data =
        definition.text.take ((requests.zip responses).foldl (gather key) got).asked := by
  induction requests generalizing sessions got with
  | nil => exact ⟨sessions, [], rfl, holds, begins⟩
  | cons request rest hypothesis =>
    obtain ⟨first, others⟩ := pairwise_cons.mp ordered
    obtain ⟨stays, recent, goesOn⟩ := alive
    have usedNow := used request mem_cons_self
    have notIdle : idle request.now (sessions slot) = false :=
      recent_of_age (usedNow slot (holds_iff.mp holds).1) (recent slot holds)
    have here := usedBefore_after definition usedNow
    have step :
        (gather key got (request, frame request (answer definition sessions request))).data =
          definition.text.take
          (gather key got (request, frame request (answer definition sessions request))).asked := by
      unfold gather
      cases isRead : reads key got.data.length request with
      | false => exact begins
      | true =>
        have answered := answer_reads definition distinct holds notIdle isRead
        have fits : (answer definition sessions request).data.length ≤ 239 :=
          (reply_eq definition sessions request).2
        show got.data ++ dataOf (frame request (answer definition sessions request)) =
          definition.text.take (got.asked + request.size.toNat)
        rw [dataOf_frame request fits, answered, readAnswer, ← take_append_read, begins]
        split <;> rfl
    obtain ⟨last, responses, ran, held, final⟩ :=
      hypothesis others (distinct_after definition distinct request)
        (after_holds definition holds notIdle stays)
        (fun later member => here.mono (first later member)) goesOn step
    exact ⟨last, _, run_cons definition sessions request rest ran, held, final⟩

/-! ### The service -/

/-- The request opens the definition. -/
def opens (request : Request) : Bool :=
  !decide (239 < request.size) && decide (request.opcode = 4) &&
    (decide (pathOf request = definitionPath) || decide (pathOf request = definitionPath.drop 1))

/-- The acknowledgement of an open file: its length. -/
def openAnswer (definition : Definition) : Answer :=
  .accepted false (put32 (UInt32.ofNat definition.text.length))

/-- What a request does in sessions that are reached. -/
structure Serves (definition : Definition) (sessions : Sessions) (request : Request)
    (next : Sessions) (response : Bytes) : Prop where
  /-- The reply is a frame: its size byte counts its data. -/
  framed : ∃ answer : Answer, answer.data.length ≤ 239 ∧ response = frame request answer ∧
    response.length = payloadSize
  distinct : Distinct next
  /-- The sessions of others stay as they are, unless they were idle for more than a minute. -/
  isolated : ∀ slot, (sessions slot).active = true → request.owns (sessions slot).key = false →
    60000 < age request.now (sessions slot) ∨ next slot = sessions slot
  /-- A session that is in use stays, unless its client ends it. -/
  lives : ∀ slot key, (sessions slot).holds key = true → closes key request = false →
    age request.now (sessions slot) ≤ 60000 → (next slot).holds key = true
  /-- An open is acknowledged with a session, unless four others are in use. -/
  opened : opens request = true →
    (∃ slot, (next slot).holds request.key = true) ∧
      response = frame request (openAnswer definition) ∨
    (∀ slot, (next slot).active = true ∧ (next slot).key ≠ request.key) ∧
      response = frame request (.refused 5)
  /-- A repeated open changes nothing but the time of its session. -/
  reopened : opens request = true → ∀ slot, (sessions slot).holds request.key = true →
    age request.now (sessions slot) ≤ 60000 →
      next = Function.update (expire request.now sessions) slot
          { sessions slot with lastUse := request.now } ∧
        response = frame request (openAnswer definition)

theorem outcome_opens (sessions : Sessions) {request : Request} (isOpen : opens request = true) :
    outcome definition sessions request =
      match place sessions request.key with
      | none => (sessions, .refused 5)
      | some slot =>
        (update sessions slot
          { key := request.key, active := true, lastUse := request.now },
          openAnswer definition) := by
  simp only [opens, and_eq_true, or_eq_true, decide_eq_true_eq, not_eq_true',
    decide_eq_false_iff_not] at isOpen
  obtain ⟨⟨fits, opcode⟩, path⟩ := isOpen
  have known : ¬ (pathOf request ≠ definitionPath ∧ pathOf request ≠ definitionPath.drop 1) :=
    fun both => path.elim both.1 both.2
  unfold outcome opened
  rw [if_neg fits, opcode, if_neg (by decide), if_neg (by decide), if_pos rfl, if_neg known]
  rfl

theorem place_eq_none (full : place sessions key = none) (slot : Fin 4) :
    (sessions slot).active = true ∧ (sessions slot).key ≠ key := by
  unfold place at full
  split at full
  · cases full
  · next absent =>
    have active := find?_eq_none.mp full slot (mem_finRange slot)
    have differs := find?_eq_none.mp absent slot (mem_finRange slot)
    have isActive : (sessions slot).active = true := by simpa using active
    refine ⟨isActive, fun same => ?_⟩
    exact differs (holds_iff.mpr ⟨isActive, same⟩)

theorem serves (distinct : Distinct sessions) (used : UsedBefore sessions request.now) :
    Serves definition sessions request (after definition sessions request)
      (frame request (answer definition sessions request)) where
  framed := by
    have fits := (reply_eq definition sessions request).2
    exact ⟨_, fits, rfl, length_body request _ _ _ fits⟩
  distinct := distinct_after definition distinct request
  isolated := by
    intro slot active foreign
    by_cases recent : age request.now (sessions slot) ≤ 60000
    · exact .inr (after_foreign definition active foreign (recent_of_age (used slot active) recent))
    · exact .inl (Nat.lt_of_not_le recent)
  lives := by
    intro slot key holds stays recent
    exact after_holds definition holds
      (recent_of_age (used slot (holds_iff.mp holds).1) recent) stays
  opened := by
    intro isOpen
    unfold after answer
    rw [outcome_opens definition _ isOpen]
    cases placed : place (expire request.now sessions) request.key with
    | none => exact .inr ⟨place_eq_none placed, rfl⟩
    | some slot =>
      refine .inl ⟨⟨slot, ?_⟩, rfl⟩
      show (update (expire request.now sessions) slot _ slot).holds request.key = true
      rw [update_self]
      simp [Slot.holds]
  reopened := by
    intro isOpen slot holds recent
    have live : expire request.now sessions slot = sessions slot :=
      expire_of_recent (recent_of_age (used slot (holds_iff.mp holds).1) recent)
    have own : place (expire request.now sessions) request.key = some slot := by
      refine (distinct.endWhere _).place ?_
      show (expire request.now sessions slot).holds request.key = true
      rw [live]
      exact holds
    obtain ⟨active, isKey⟩ := holds_iff.mp holds
    unfold after answer
    rw [outcome_opens definition _ isOpen, own, ← isKey, ← active]
    exact ⟨rfl, rfl⟩

theorem distinct_initial : Distinct Sessions.initial :=
  fun _ _ _ holds => absurd holds Bool.false_ne_true

theorem usedBefore_initial (now : UInt64) : UsedBefore .initial now :=
  fun _ active => absurd active Bool.false_ne_true

/-- A client with a session that stays alive, whose data is gathered from where it is: it has
received the beginning of the definition it asked for, and a further read is answered with what
comes next, or with the end of the file. -/
def Downloads (definition : Definition) (key : SessionKey) (before : List Request)
    (sessions : Sessions) (requests : List Request) : Prop :=
  ∃ last responses, run definition sessions requests = some (last, responses) ∧
    ((requests.zip responses).foldl (gather key) { data := [], asked := 0 }).data =
      definition.text.take
        ((requests.zip responses).foldl (gather key) { data := [], asked := 0 }).asked ∧
    ∀ request, (∀ earlier ∈ before ++ requests, earlier.now ≤ request.now) →
      (∀ slot, (last slot).holds key = true → age request.now (last slot) ≤ 60000) →
      reads key ((requests.zip responses).foldl (gather key)
        { data := [], asked := 0 }).data.length request = true →
      ∃ next, reply definition last request = some (next, frame request (readAnswer definition
        request ((requests.zip responses).foldl (gather key)
          { data := [], asked := 0 }).data.length))

theorem downloads {before requests : List Request}
    (ordered : Ordered (before ++ requests)) (distinct : Distinct sessions)
    (used : ∀ now, (∀ earlier ∈ before, earlier.now ≤ now) → UsedBefore sessions now)
    (holds : (sessions slot).holds key = true)
    (alive : StaysAlive definition key sessions requests) :
    Downloads definition key before sessions requests := by
  obtain ⟨-, laterOrdered, across⟩ := pairwise_append.mp ordered
  have usedThen : ∀ request ∈ requests, UsedBefore sessions request.now :=
    fun request member => used request.now fun earlier isEarlier =>
      across earlier isEarlier request member
  have nothing : (Gathered.mk [] 0).data = definition.text.take (Gathered.mk [] 0).asked := rfl
  obtain ⟨last, responses, ran, held, begins⟩ :=
    download definition laterOrdered distinct holds usedThen alive nothing
  obtain ⟨sameLast, sameResponses, sameRan, apart, times⟩ :=
    run_sound definition distinct laterOrdered usedThen
  obtain ⟨rfl, rfl⟩ : last = sameLast ∧ responses = sameResponses :=
    Prod.mk.inj (Option.some.inj (ran.symm.trans sameRan))
  refine ⟨last, responses, ran, begins, fun request passes recent isRead => ?_⟩
  have usedLast : UsedBefore last request.now :=
    times request.now (fun earlier member => passes earlier (mem_append_right _ member))
      (used request.now fun earlier member => passes earlier (mem_append_left _ member))
  have notIdle : idle request.now (last slot) = false :=
    recent_of_age (usedLast slot (holds_iff.mp held).1) (recent slot held)
  refine ⟨CameraFtp.after definition last request, ?_⟩
  rw [reply_after, answer_reads definition apart held notIdle isRead]

/-- In every interleaving of requests from any clients, with times that do not decrease, the
sessions stay apart, every request is served, and downloads are complete. -/
theorem camera_ftp_serves (definition : Definition) (before : List Request)
    (ordered : Ordered before) :
    ∃ sessions responses, run definition .initial before = some (sessions, responses) ∧
      Distinct sessions ∧
      ((List.finRange 4).filter fun slot => (sessions slot).active).length ≤ 4 ∧
      (∀ request, (∀ earlier ∈ before, earlier.now ≤ request.now) →
        ∃ next response, reply definition sessions request = some (next, response) ∧
          Serves definition sessions request next response) ∧
      ∀ key requests, Ordered (before ++ requests) →
        (∃ slot, (sessions slot).holds key = true) →
        StaysAlive definition key sessions requests →
          Downloads definition key before sessions requests := by
  obtain ⟨sessions, responses, ran, distinct, times⟩ :=
    run_sound definition distinct_initial ordered fun request _ => usedBefore_initial request.now
  have used : ∀ now, (∀ earlier ∈ before, earlier.now ≤ now) → UsedBefore sessions now :=
    fun now passes => times now passes (usedBefore_initial now)
  refine ⟨sessions, responses, ran, distinct, ?_, fun request passes => ?_, ?_⟩
  · exact (List.length_filter_le _ _).trans List.length_finRange.le
  · exact ⟨_, _, reply_after definition sessions request,
      serves definition distinct (used request.now passes)⟩
  · rintro key requests goesOn ⟨slot, holds⟩ alive
    exact downloads definition goesOn distinct used holds alive

/-- A request of one client with an opcode, a size and data. -/
def requestOf (opcode size : UInt8) (offset : UInt8) (data : Bytes) (now : UInt64) :
    Request where
  system := 255
  component := 190
  now := now
  payload := ([0, 0, 7, opcode, size, 0, 0, 0, offset, 0, 0, 0] ++ data ++
    List.replicate payloadSize 0).take payloadSize
  sized := by
    rw [List.length_take, List.length_append, List.length_replicate]
    exact Nat.min_eq_left (Nat.le_add_left _ _)

def fiveBytes : Definition where
  text := [1, 2, 3, 4, 5]
  small := by decide

/-- The definition is opened at its path. -/
def openRequest : Request := requestOf 4 11 0 definitionPath 1000

/-- After an open, two reads of three bytes receive five bytes. -/
theorem camera_ftp_serves_five :
    (∃ sessions responses, run fiveBytes .initial [openRequest] = some (sessions, responses) ∧
      Distinct sessions ∧
      ((List.finRange 4).filter fun slot => (sessions slot).active).length ≤ 4 ∧
      (∀ request, (∀ earlier ∈ [openRequest], earlier.now ≤ request.now) →
        ∃ next response, reply fiveBytes sessions request = some (next, response) ∧
          Serves fiveBytes sessions request next response) ∧
      ∀ key requests, Ordered ([openRequest] ++ requests) →
        (∃ slot, (sessions slot).holds key = true) →
        StaysAlive fiveBytes key sessions requests →
          Downloads fiveBytes key [openRequest] sessions requests) ∧
    (run fiveBytes .initial [openRequest, requestOf 5 3 0 [] 2000, requestOf 5 3 3 [] 3000]).map
        (fun outcome => outcome.2.map dataOf) = some [[5, 0, 0, 0], [1, 2, 3], [4, 5]] :=
  ⟨camera_ftp_serves fiveBytes [openRequest] (List.pairwise_singleton _ _), by decide +kernel⟩

end CameraFtp
