/-
This file proves that the tool that takes the telemetry out of a video inverts the encoder of the
camera. What the regular expression matches are the start codes of the search. A round of the loop
yields what the search finds in front of the last start code, and what it keeps is enough for the
search to go on; so the chunks do not matter. The record of an SEI unit is the text that the encoder
was given.
-/

import CameraGimbal.AnnexBJoining
import CameraGimbal.VideoMetadataSei
import CameraGimbal.VideoTelemetry

namespace VideoTelemetry

open AnnexB List

/-! ### The matches are the start codes -/

theorem startMatch_eq (data : Bytes) : startMatch data = startCode data := by
  unfold startMatch startCode
  split
  · next rest => exact (if_pos rfl).symm
  · next rest =>
    rw [if_neg fun long => ?_]
    · exact (if_pos rfl).symm
    · exact absurd (cons.inj (cons.inj (cons.inj long).2).2).1 (by decide)
  · next noLong noShort =>
    have whole (length : Nat) : data = data.take length ++ data.drop length :=
      (take_append_drop length data).symm
    rw [if_neg fun long => noLong _ ((whole 4).trans (congrArg (· ++ data.drop 4) long)),
      if_neg fun short => noShort _ ((whole 3).trans (congrArg (· ++ data.drop 3) short))]

variable {data : Bytes}

theorem beforeStartCode_of_code (code : startCode data ≠ 0) : beforeStartCode data = 0 := by
  cases data with
  | nil => rfl
  | cons byte rest => exact if_neg code

/-- The first match is the first start code. -/
theorem finditer_eq (position : Nat) (data : Bytes) :
    finditer position data =
      if data.drop (beforeStartCode data) = [] then []
      else
        let found := data.drop (beforeStartCode data)
        let start := position + beforeStartCode data
        { start, stop := start + startCode found } ::
          finditer (start + startCode found) (found.drop (startCode found)) := by
  induction data generalizing position with
  | nil =>
    rw [finditer]
    rfl
  | cons byte rest hypothesis =>
    rw [finditer, startMatch_eq, beforeStartCode]
    by_cases none : startCode (byte :: rest) = 0
    · rw [dif_pos none, if_pos none, hypothesis, drop_succ_cons]
      simp only [add_assoc, add_comm 1]
    · rw [dif_neg none, if_neg none, drop_zero, if_neg (cons_ne_nil byte rest)]
      rfl

theorem finditer_nil (none : data.drop (beforeStartCode data) = []) (position : Nat) :
    finditer position data = [] := by
  rw [finditer_eq, if_pos none]

/-- What stands in front of the first start code only moves the matches. -/
theorem finditer_drop (position : Nat) (data : Bytes) :
    finditer position data =
      finditer (position + beforeStartCode data) (data.drop (beforeStartCode data)) := by
  by_cases none : data.drop (beforeStartCode data) = []
  · rw [finditer_nil none, none, finditer]
  · have code := beforeStartCode_of_code (startCode_found data none)
    rw [finditer_eq, if_neg none, finditer_eq _ (data.drop _), code, drop_zero, if_neg none]
    rfl

/-! ### More data -/

/-- What is a start code stays one, and so does what is long enough for one and is none. -/
theorem startCode_append (more : Bytes) (settled : startCode data ≠ 0 ∨ 4 ≤ data.length) :
    startCode (data ++ more) = startCode data := by
  by_cases long : 4 ≤ data.length
  · unfold startCode
    rw [take_append_of_le_length long, take_append_of_le_length (Nat.le_of_succ_le long)]
  · obtain ⟨zeros, isZeros, rest, rfl⟩ := startCode_prefix (settled.resolve_right long)
    rcases isZeros with rfl | rfl
    · have short : rest = [] := eq_nil_of_length_eq_zero (by simpa using long)
      subst short
      cases more <;> rfl
    · simp at long

theorem beforeStartCode_append (more : Bytes) (some : data.drop (beforeStartCode data) ≠ []) :
    beforeStartCode (data ++ more) = beforeStartCode data := by
  induction data with
  | nil => exact absurd rfl some
  | cons byte rest hypothesis =>
    rw [beforeStartCode] at some ⊢
    by_cases none : startCode (byte :: rest) = 0
    · rw [if_pos none, drop_succ_cons] at some
      have long : 4 ≤ (byte :: rest).length := by
        obtain ⟨zeros, isZeros, start⟩ := startCode_prefix (startCode_found rest some)
        have size := start.length_le
        rw [length_append, length_drop] at size
        rcases isZeros with rfl | rfl <;> simp at size ⊢ <;> omega
      rw [if_pos none, cons_append, beforeStartCode, ← cons_append,
        startCode_append more (.inr long), if_pos none, hypothesis some]
    · rw [if_neg none, cons_append, beforeStartCode, ← cons_append,
        startCode_append more (.inl none), if_neg none]

/-- One call of the search, with more data behind a start code. -/
theorem annexbNext_code (code : startCode data ≠ 0) :
    annexbNext data =
      some (rstrip ((data.drop (startCode data)).take
          (beforeStartCode (data.drop (startCode data)))),
        (data.drop (startCode data)).drop (beforeStartCode (data.drop (startCode data)))) := by
  have some : data ≠ [] := by
    rintro rfl
    exact code rfl
  unfold annexbNext
  rw [beforeStartCode_of_code code, drop_zero, if_neg some]
  rfl

/-! ### The loop -/

/-- What a round yields of data that begins with a start code, and what it keeps. In front of the
data stands what the matches count from. -/
theorem round_code (code : startCode data ≠ 0) (front more : Bytes) :
    ∃ first later, finditer front.length data = first :: later ∧ first.start = front.length ∧
      nalUnits (data ++ more) =
        between (front ++ data) (first :: later) ++
          nalUnits (keep (front ++ data) (first :: later) ++ more) ∧
      nalUnits (keep (front ++ data) (first :: later)) =
        lastNal (keep (front ++ data) (first :: later)) := by
  induction size : data.length using Nat.strong_induction_on generalizing data front with
  | _ length hypothesis =>
  have some : data ≠ [] := by
    rintro rfl
    exact code rfl
  have start := beforeStartCode_of_code code
  obtain ⟨behind, isBehind⟩ : ∃ behind, behind = data.drop (startCode data) := ⟨_, rfl⟩
  have isMatches : finditer front.length data =
      { start := front.length, stop := front.length + startCode data } ::
        finditer (front.length + startCode data) behind := by
    rw [finditer_eq, start, List.drop_zero, if_neg some, isBehind]
    rfl
  have next := annexbNext_code code
  rw [← isBehind] at next
  refine ⟨_, _, isMatches, rfl, ?_⟩
  by_cases last : behind.drop (beforeStartCode behind) = []
  · have kept : keep (front ++ data)
        [{ start := front.length, stop := front.length + startCode data }] = data :=
      List.drop_left
    rw [finditer_nil last, kept]
    refine ⟨rfl, ?_⟩
    rw [nalUnits_of_some next, last, nalUnits_of_none rfl, lastNal, startMatch_eq, if_neg code,
      ← isBehind, List.take_of_length_le (List.drop_eq_nil_iff.mp last)]
  · -- the next start code is where the rest begins
    obtain ⟨rest, isRest⟩ : ∃ rest, rest = behind.drop (beforeStartCode behind) := ⟨_, rfl⟩
    obtain ⟨passed, isPassed⟩ : ∃ passed, passed = data.take (startCode data) ++
      behind.take (beforeStartCode behind) := ⟨_, rfl⟩
    have whole : passed ++ rest = data := by
      rw [isPassed, isRest, List.append_assoc, List.take_append_drop, isBehind,
        List.take_append_drop]
    have codeFits := @startCode_le data
    have count : (front ++ passed).length =
        front.length + startCode data + beforeStartCode behind := by
      rw [isPassed, List.length_append, List.length_append, List.length_take, List.length_take,
        min_eq_left codeFits, min_eq_left (beforeStartCode_le_length behind),
        add_assoc]
    have restCode : startCode rest ≠ 0 := by
      rw [isRest]
      exact startCode_found behind last
    have shorter : rest.length < data.length := by
      have grown := congrArg List.length whole
      rw [List.length_append] at count grown
      omega
    obtain ⟨second, later, isLater, isSecond, yields, settled⟩ :=
      hypothesis rest.length (size ▸ shorter) restCode (front ++ passed) rfl
    rw [List.append_assoc, whole] at yields settled
    have moved : finditer (front.length + startCode data) behind = second :: later := by
      rw [finditer_drop, ← isRest, ← isLater, count]
    rw [moved]
    have nal : ((front ++ data).take second.start).drop (front.length + startCode data) =
        behind.take (beforeStartCode behind) := by
      have taken : (front ++ data).take second.start = front ++ passed := by
        rw [isSecond, ← whole, ← List.append_assoc, List.take_left]
      rw [taken, isPassed, ← List.append_assoc, List.drop_left']
      rw [List.length_append, List.length_take, min_eq_left codeFits]
    have kept : keep (front ++ data)
        ({ start := front.length, stop := front.length + startCode data } :: second :: later) =
          keep (front ++ data) (second :: later) := rfl
    have yielded : between (front ++ data)
        ({ start := front.length, stop := front.length + startCode data } :: second :: later) =
          rstrip (behind.take (beforeStartCode behind)) ::
            between (front ++ data) (second :: later) :=
      congrArg (fun bytes => rstrip bytes :: between (front ++ data) (second :: later)) nal
    have grows : annexbNext (data ++ more) =
        .some (rstrip (behind.take (beforeStartCode behind)), rest ++ more) := by
      have same := startCode_append more (.inl code)
      have sameBehind := beforeStartCode_append more last
      rw [annexbNext_code (same.symm ▸ code), same, List.drop_append_of_le_length codeFits,
        ← isBehind, sameBehind,
        List.take_append_of_le_length (beforeStartCode_le_length behind),
        List.drop_append_of_le_length (beforeStartCode_le_length behind), ← isRest]
    rw [kept, yielded, nalUnits_of_some grows, yields]
    exact ⟨rfl, settled⟩

/-- Where no start code begins, the search goes on behind. -/
theorem nalUnits_cons {byte : UInt8} {rest : Bytes} (none : startCode (byte :: rest) = 0) :
    nalUnits (byte :: rest) = nalUnits rest := by
  refine nalUnits_congr ?_
  unfold annexbNext
  rw [beforeStartCode, if_pos none, drop_succ_cons]

/-- Of data without a start code the last four bytes are enough. -/
theorem nalUnits_keep_none (none : data.drop (beforeStartCode data) = []) (more : Bytes) :
    nalUnits (data ++ more) = nalUnits (keep data [] ++ more) := by
  induction data with
  | nil => rfl
  | cons byte rest hypothesis =>
    by_cases long : 4 < (byte :: rest).length
    · have noCode : startCode (byte :: rest) = 0 := by
        by_contra code
        rw [beforeStartCode_of_code code] at none
        exact cons_ne_nil byte rest none
      rw [beforeStartCode, if_pos noCode, drop_succ_cons] at none
      have kept : keep (byte :: rest) [] = keep rest [] := by
        show (if 4 < (byte :: rest).length then _ else _) = if 4 < rest.length then _ else _
        rw [if_pos long, length_cons]
        rw [length_cons] at long
        by_cases more : 4 < rest.length
        · rw [if_pos more, Nat.sub_add_comm (le_of_lt more), drop_succ_cons]
        · rw [if_neg more, show rest.length + 1 - 4 = 1 by omega, drop_one, tail_cons]
      have still := startCode_append more (.inr (le_of_lt long))
      rw [kept, ← hypothesis none]
      exact nalUnits_cons (still.trans noCode)
    · have kept : keep (byte :: rest) [] = byte :: rest := if_neg long
      rw [kept]

theorem round_spec (data more : Bytes) :
    nalUnits (data ++ more) =
        between data (finditer 0 data) ++ nalUnits (keep data (finditer 0 data) ++ more) ∧
      nalUnits (keep data (finditer 0 data)) = lastNal (keep data (finditer 0 data)) := by
  by_cases none : data.drop (beforeStartCode data) = []
  · have kept := nalUnits_keep_none none
    have nothing : nalUnits data = [] := by
      refine nalUnits_of_none ?_
      unfold annexbNext
      exact if_pos none
    have empty : nalUnits (keep data []) = [] := by
      have same := kept []
      rwa [append_nil, append_nil, nothing, eq_comm] at same
    rw [finditer_nil none]
    refine ⟨kept more, ?_⟩
    rw [empty, lastNal, startMatch_eq]
    by_cases code : startCode (keep data []) = 0
    · rw [if_pos code]
    · rw [nalUnits_of_some (annexbNext_code code)] at empty
      exact absurd empty (cons_ne_nil _ _)
  · have before := beforeStartCode_le_length data
    have count : (data.take (beforeStartCode data)).length = beforeStartCode data := by
      rw [length_take, min_eq_left before]
    obtain ⟨first, later, found, -, yields, settled⟩ :=
      round_code (startCode_found data none) (data.take (beforeStartCode data)) more
    rw [take_append_drop] at yields settled
    rw [count] at found
    rw [finditer_drop, zero_add, found]
    refine ⟨?_, settled⟩
    rw [← yields]
    refine nalUnits_congr ?_
    rw [← annexbNext_drop_beforeStartCode (data ++ more), beforeStartCode_append more none,
      drop_append_of_le_length before]

theorem nalsLoop_eq {chunks : List (Bytes)} (given : [] ∉ chunks) (pending : Bytes) :
    nalsLoop pending chunks = nalUnits (pending ++ chunks.flatten) := by
  induction chunks generalizing pending with
  | nil =>
    obtain ⟨yields, settled⟩ := round_spec pending []
    rw [append_nil (keep _ _), settled] at yields
    exact yields.symm
  | cons chunk chunks hypothesis =>
    obtain ⟨some, later⟩ := not_or.mp (mt mem_cons.mpr given)
    have yields := (round_spec (pending ++ chunk) chunks.flatten).1
    rw [nalsLoop, if_neg (Ne.symm some), hypothesis later, flatten_cons, ← append_assoc, yields]

/-! ### What the encoder builds -/

open EmulationPrevention
open SupportVideo
open VideoMetadata

theorem rbspBytes_eq {bytes : Bytes} {zeros : Nat} (few : zeros ≤ 2)
    (guarded : Guarded zeros bytes) : rbspBytes zeros bytes = remove zeros bytes := by
  induction bytes generalizing zeros with
  | nil => rfl
  | cons byte rest hypothesis =>
    obtain ⟨rule, later⟩ := guarded
    have two : zeros = 2 ∧ byte = 3 ↔ 2 ≤ zeros ∧ byte = 3 :=
      and_congr_left fun _ => ⟨fun same => same.ge, le_antisymm few⟩
    rw [rbspBytes, remove]
    by_cases inserted : 2 ≤ zeros ∧ byte = 3
    · rw [if_pos (two.mpr inserted), if_pos inserted]
      obtain ⟨many, rfl⟩ := inserted
      exact hypothesis (Nat.zero_le 2) later
    · have fewer : after zeros byte ≤ 2 := by
        unfold EmulationPrevention.after
        split
        · next zero =>
          by_contra more
          have three := (rule (by omega) (by rw [zero]; decide)).1
          exact inserted ⟨by omega, three⟩
        · exact Nat.zero_le 2
      rw [if_neg (mt two.mp inserted), if_neg inserted]
      exact congrArg (byte :: ·) (hypothesis fewer later)

variable {json : Bytes}

theorem readField_payloadSize (size : Nat) (rest : Bytes) :
    readField (payloadSize size ++ rest) = some (size, rest) := by
  have small : size % 255 < 255 := Nat.mod_lt _ (by decide)
  have last : (UInt8.ofNat (size % 255)).toNat = size % 255 := by
    rw [UInt8.toNat_ofNat']
    omega
  have notFull : UInt8.ofNat (size % 255) ≠ 255 := by
    intro same
    rw [same] at last
    exact absurd last.symm small.ne
  have whole (count : Nat) : readField (replicate count 255 ++
      ([UInt8.ofNat (size % 255)] ++ rest)) = some (255 * count + size % 255, rest) := by
    induction count with
    | zero =>
      rw [replicate_zero, nil_append, singleton_append, readField, if_neg notFull,
        last, mul_zero, zero_add]
    | succ count hypothesis =>
      rw [replicate_succ, cons_append, readField, if_pos rfl, hypothesis,
        Option.map_some, Nat.mul_succ, add_comm _ 255, add_assoc]
  unfold payloadSize
  rw [append_assoc, whole, Nat.div_add_mod]

section Records

variable {Json Error : Type} (loads : Bytes → Except Error Json)

theorem records_end : records loads [0x80] = ([], none) := by
  rw [records, if_pos (.inr rfl)]

/-- A message that holds a record. -/
theorem records_message {data behindKind behind : Bytes} {size : Nat}
    (goesOn : ¬ (data = [] ∨ data = [0x80])) (isKind : readField data = some (5, behindKind))
    (isSize : readField behindKind = some (size, behind)) (fits : size ≤ behind.length)
    (isOurs : (behind.take size).take 16 = uuid) {record : Json}
    (parsed : loads ((behind.take size).drop 16) = .ok record) :
    records loads data =
      (record :: (records loads (behind.drop size)).1, (records loads (behind.drop size)).2) := by
  rw [records, if_neg goesOn]
  generalize readField data = kind at isKind ⊢
  subst isKind
  dsimp only
  generalize readField behindKind = length at isSize ⊢
  subst isSize
  dsimp only
  rw [if_neg (not_lt.mpr fits), if_pos ⟨rfl, isOurs⟩, parsed]

theorem records_rbsp {record : Json} (parsed : loads json = .ok record) :
    records loads (rbsp json) = ([record], none) := by
  have identifier : uuid.length = 16 := rfl
  have fields : readField (payloadSize (uuid.length + json.length) ++ uuid ++ json ++ [0x80]) =
      some (uuid.length + json.length, uuid ++ json ++ [0x80]) := by
    rw [append_assoc, append_assoc, ← append_assoc uuid]
    exact readField_payloadSize _ _
  have count : (uuid ++ json).length = uuid.length + json.length := length_append
  have taken : (uuid ++ json ++ [0x80]).take (uuid.length + json.length) = uuid ++ json :=
    take_left' count
  have left : (uuid ++ json ++ [0x80]).drop (uuid.length + json.length) = [0x80] := drop_left' count
  have message := @records_message Json Error loads (rbsp json)
    (payloadSize (uuid.length + json.length) ++ uuid ++ json ++ [0x80])
    (uuid ++ json ++ [0x80]) (uuid.length + json.length) (by simp [rbsp]) rfl fields
    (by rw [length_append, count]; exact Nat.le_add_right _ _)
    (by rw [taken]; exact take_left' identifier) record
    (by rw [taken, drop_left' identifier]; exact parsed)
  rw [message, left, records_end]

/-- The codecs and the names that the tool has for them. -/
def Named (codec : Codec) (name : String) : Prop :=
  header name = match codec with
    | .h264 => 1
    | .h265 => 2

/-- The types of the NAL units that carry supplemental information. -/
def seiTypes (codec : Codec) : Bytes :=
  match codec with
  | .h264 => [6]
  | .h265 => [39, 40]

/-- The NAL unit carries supplemental information. -/
def IsSei (codec : Codec) (nal : Bytes) : Prop :=
  ∃ first ∈ nal.head?, unitType codec first ∈ seiTypes codec

section

variable {codec : Codec} {name : String} (named : Named codec name)

include named

theorem telemetry_eq (first : UInt8)
    (rest : Bytes) :
    telemetry loads name (first :: rest) =
      if unitType codec first ∈ seiTypes codec then
        records loads (rbspBytes 0 ((first :: rest).drop (header name)))
      else ([], none) := by
  unfold telemetry
  rw [show header name = _ from named]
  cases codec <;> rfl

theorem telemetry_other
    {nal : Bytes} (other : ¬ IsSei codec nal) : telemetry loads name nal = ([], none) := by
  cases nal with
  | nil => rfl
  | cons first rest =>
    rw [telemetry_eq loads named, if_neg fun member => other ⟨first, rfl, member⟩]

/-- The unit behind the start code. -/
theorem telemetry_encoding {record : Json} (parsed : loads json = .ok record) :
    telemetry loads name (prevent 0 (nalHeader codec ++ rbsp json)) = ([record], none) := by
  have nonzero : ∀ byte ∈ nalHeader codec, byte ≠ 0 := by
    cases codec <;> simp [nalHeader, seiHeader]
  have body : rbspBytes 0 (prevent 0 (rbsp json)) = rbsp json :=
    (rbspBytes_eq (Nat.zero_le 2) (guarded_prevent _ (Nat.zero_le 2))).trans
      (remove_prevent _ (Nat.zero_le 2))
  have same : telemetry loads name (nalHeader codec ++ prevent 0 (rbsp json)) =
      records loads (rbspBytes 0 (prevent 0 (rbsp json))) := by
    cases codec with
    | h264 =>
      exact (telemetry_eq loads named 6 _).trans (by rw [show header name = 1 from named]; rfl)
    | h265 =>
      exact (telemetry_eq loads named 78 _).trans (by rw [show header name = 2 from named]; rfl)
  rw [prevent_append _ nonzero, same, body, records_rbsp loads parsed]

end

end Records

theorem lists_encoding (codec : Codec) (json : Bytes) :
    Lists (encoding codec json) [prevent 0 (nalHeader codec ++ rbsp json)] := by
  have last : (prevent 0 (nalHeader codec ++ rbsp json)).getLast? = some 0x80 := by
    rw [getLast?_prevent, rbsp, ← cons_append, ← append_assoc, getLast?_concat]
  obtain ⟨earlier, isLast⟩ := getLast?_eq_some_iff.mp last
  have nonempty : prevent 0 (nalHeader codec ++ rbsp json) ≠ [] := by
    rw [isLast]
    exact append_ne_nil_of_right_ne_nil _ (cons_ne_nil _ _)
  have nonzero : (prevent 0 (nalHeader codec ++ rbsp json)).getLast nonempty ≠ 0 := by
    rw [getLast?_eq_some_getLast nonempty] at last
    rw [Option.some.inj last]
    decide
  have found := nalUnits_encode [(.long, ⟨_, nonempty, (protected_prevent _).noStartCode, nonzero⟩)]
  refine lists_iff.mpr ?_
  unfold encode at found
  rw [flatMap_singleton] at found
  exact found

theorem length_encoding_le (codec : Codec) (short : json.length < jsonMax) :
    (encoding codec json).length ≤ seiMax := by
  have header : (nalHeader codec).length ≤ 2 := by cases codec <;> decide
  have identifier : VideoMetadata.uuid.length = 16 := rfl
  have grown := length_prevent_le 0 (nalHeader codec ++ rbsp json)
  have size : (rbsp json).length = 19 + (16 + json.length) / 255 + json.length := by
    simp only [rbsp, payloadSize, length_cons, length_append, length_replicate,
      length_nil, identifier]
    omega
  rw [length_append, size] at grown
  unfold encoding
  rw [length_append]
  simp only [jsonMax, seiMax, length_cons, length_nil] at short ⊢
  omega

/-- However a stream is read, the tool yields what the calls of `ca_annexb_next` return, the empty
NAL units too; and of the NAL unit that the encoder writes, whenever it writes one, the tool yields
the parse of the text as the only record. -/
theorem extractor_inverts {Json Error : Type} (loads : Bytes → Except Error Json) :
    (∀ chunks units, [] ∉ chunks → (nals chunks = units ↔ Lists chunks.flatten units)) ∧
    ∀ codec name, Named codec name →
      (∀ json record, 0 < json.length → json.length < jsonMax → loads json = .ok record →
        ∀ capacity,
          (seiMax ≤ capacity → (writeSei codec json capacity).2 ≠ 0) ∧
          ((writeSei codec json capacity).2 ≠ 0 →
            ∃ unit, Lists ((writeSei codec json capacity).1.take (writeSei codec json capacity).2)
                [unit] ∧
              telemetry loads name unit = ([record], none))) ∧
      ∀ nal, ¬ IsSei codec nal → telemetry loads name nal = ([], none) := by
  refine ⟨fun chunks units given => ?_, fun codec name named => ⟨?_, fun nal other => ?_⟩⟩
  · rw [nals, nalsLoop_eq given, List.nil_append]
    exact lists_iff.symm
  · intro json record some short parsed capacity
    have complete := (writeSei_spec codec some short capacity).2
    have nonempty : (encoding codec json).length ≠ 0 := Nat.succ_ne_zero _
    by_cases fits : (encoding codec json).length ≤ capacity
    · rw [if_pos fits] at complete
      rw [complete]
      refine ⟨fun _ => nonempty, fun _ => ⟨_, ?_, telemetry_encoding loads named parsed⟩⟩
      rw [List.take_length]
      exact lists_encoding codec json
    · rw [if_neg fits] at complete
      refine ⟨fun large => ?_, fun written => absurd complete written⟩
      exact absurd ((length_encoding_le codec short).trans large) fits
  · exact telemetry_other loads named other

end VideoTelemetry
