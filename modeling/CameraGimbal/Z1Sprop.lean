/-
This file is about the parameter sets in the session description of the Z1-Mini's stream: base64
texts with commas between them, each of which is stored behind a start code.

The cursor is set on the equals sign of the keyword and not behind it. The sign is then skipped like
padding at the start of the first text, so it matters only when there is no text at all: an empty
list is taken for one empty text and refused.

Reading behind the terminator, writing outside a buffer and not coming to an end are faults of the
model.
-/

import CameraGimbal.Base64
import CameraGimbal.CText
import CameraGimbal.Z1Rtp

namespace Z1Sprop

open List Option

open Base64 (Accumulator)
open CText (Text)
open Z1Rtp (Rtp)

/-- `sizeof(s->parameters)`. -/
def parametersMax : Nat := 2048

/-- `sizeof(nal)`. -/
def nalMax : Nat := 1024

inductive Fault where
  | overread | overwrite | endless
  deriving DecidableEq, Repr

/-! ### The C library -/

/-- `strstr`: where a text is found first. -/
def strstr (needle : Text) : Text → Option Nat
  | [] => if needle = [] then some 0 else none
  | first :: rest =>
    if needle <+: first :: rest then some 0 else (strstr needle rest).map (· + 1)

/-- `strchr` in the alphabet, whose terminator it finds too. -/
def strchr (c : UInt8) : Option Nat := (Base64.alphabet ++ [0]).idxOf? c

/-! ### The program -/

/-- `"sprop-parameter-sets="`. -/
def keyword : Text :=
  [115, 112, 114, 111, 112, 45, 112, 97, 114, 97, 109, 101, 116, 101, 114, 45, 115, 101, 116, 115,
    61]

/-- The byte under a cursor, up to the terminator. -/
def fetch (sdp : Text) (p : Nat) : Except Fault UInt8 :=
  match (sdp ++ [0])[p]? with
  | some c => .ok c
  | none => .error .overread

/-- The list ends. -/
def isEnd (c : UInt8) : Bool := c = 0 || c = 59 || c = 13 || c = 10

def comma : UInt8 := 44

/-- `nal[n++] = byte`. -/
def putNal (nal : Bytes) (byte : UInt8) : Except Fault Bytes :=
  if nal.length < nalMax then .ok (nal ++ [byte]) else .error .overwrite

/-- Copy behind the parameter sets that are there. -/
def putParameters (s : Rtp) (bytes : Bytes) : Except Fault Rtp :=
  if s.parameters.length + bytes.length ≤ parametersMax then
    .ok { s with parameters := s.parameters ++ bytes }
  else .error .overwrite

/-- The inner loop: a text from a cursor on. What it gives is the cursor and the unit; nothing when
it is refused. -/
def scanNal (sdp : Text) : Nat → Nat → Accumulator → Bytes →
    Except Fault (Option (Nat × Bytes))
  | 0, _, _, _ => .error .endless
  | fuel + 1, p, accumulator, nal => do
    let c ← fetch sdp p
    if isEnd c || c = comma then .ok (some (p, nal))
    else if c = 61 then scanNal sdp fuel (p + 1) accumulator nal
    else
      match strchr c with
      | none => .ok none
      | some group =>
        match accumulator.push group with
        | (accumulator, none) => scanNal sdp fuel (p + 1) accumulator nal
        | (accumulator, some byte) =>
          if nal.length = nalMax then .ok none
          else do
            let nal ← putNal nal byte
            scanNal sdp fuel (p + 1) accumulator nal

/-- A unit that is not stored. -/
def isRefused (s : Rtp) (nal : Bytes) : Bool :=
  nal = [] || (nal.headD 0 &&& 31 ≠ 7 && nal.headD 0 &&& 31 ≠ 8) ||
    parametersMax - s.parameters.length < nal.length + 4

/-- The outer loop. -/
def scanNals (sdp : Text) : Nat → Nat → Rtp → Except Fault (Rtp × Int)
  | 0, _, _ => .error .endless
  | fuel + 1, p, s => do
    let c ← fetch sdp p
    if isEnd c then .ok (s, 0)
    else
      match ← scanNal sdp (sdp.length + 1) p .empty [] with
      | none => .ok (s, -1)
      | some (p, nal) =>
        if isRefused s nal then .ok (s, -1)
        else do
          let s ← putParameters s [0, 0, 0, 1]
          let s ← putParameters s nal
          let c ← fetch sdp p
          if c = comma then scanNals sdp fuel (p + 1) s else .ok (s, 0)

def sprop (s : Rtp) (sdp : Text) : Except Fault (Rtp × Int) :=
  match strstr keyword sdp with
  | none => .ok (s, 0)
  | some found => scanNals sdp (sdp.length + 1) (found + 20) s

/-! ### Reading -/

variable {c : UInt8}

theorem fetch_append {sdp before after : Text}
    (split : sdp ++ [0] = before ++ c :: after) : fetch sdp before.length = .ok c := by
  rw [fetch, split, getElem?_append_right le_rfl, Nat.sub_self]
  rfl

theorem exists_fetch {sdp : Text} {p : Nat} (inside : p ≤ sdp.length) :
    ∃ c, fetch sdp p = .ok c ∧ (c ≠ 0 → p + 1 ≤ sdp.length) := by
  rcases inside.lt_or_eq with within | rfl
  · exact ⟨sdp[p], by rw [fetch, getElem?_append_left within, getElem?_eq_getElem within],
      fun _ => within⟩
  · exact ⟨0, fetch_append rfl, fun notNul => absurd rfl notNul⟩

section Steps

variable {sdp : Text} {p : Nat} {c : UInt8} (fetched : fetch sdp p = .ok c) (fuel : Nat)
  {accumulator next : Accumulator} {nal : Bytes}
include fetched

theorem scanNal_stops (stops : (isEnd c || decide (c = comma)) = true) :
    scanNal sdp (fuel + 1) p accumulator nal = .ok (some (p, nal)) := by
  rw [scanNal, fetched]
  exact if_pos stops

variable (goes : (isEnd c || decide (c = comma)) = false)
include goes

theorem scanNal_pad (isPad : c = 61) :
    scanNal sdp (fuel + 1) p accumulator nal = scanNal sdp fuel (p + 1) accumulator nal := by
  rw [scanNal, fetched]
  exact (if_neg (ne_true_of_eq_false goes)).trans (if_pos isPad)

variable (notPad : c ≠ 61)
include notPad

theorem scanNal_other (other : strchr c = none) :
    scanNal sdp (fuel + 1) p accumulator nal = .ok none := by
  rw [scanNal, fetched]
  refine ((if_neg (ne_true_of_eq_false goes)).trans (if_neg notPad)).trans ?_
  rw [other]

variable {group : Nat} (isGroup : strchr c = some group)
include isGroup

theorem scanNal_few (pushed : accumulator.push group = (next, none)) :
    scanNal sdp (fuel + 1) p accumulator nal = scanNal sdp fuel (p + 1) next nal := by
  rw [scanNal, fetched]
  refine ((if_neg (ne_true_of_eq_false goes)).trans (if_neg notPad)).trans ?_
  rw [isGroup]
  simp only [pushed]

theorem scanNal_many {byte : UInt8} (pushed : accumulator.push group = (next, some byte))
    (fits : nal.length ≤ nalMax) :
    scanNal sdp (fuel + 1) p accumulator nal =
      if nal.length = nalMax then .ok none
      else scanNal sdp fuel (p + 1) next (nal ++ [byte]) := by
  rw [scanNal, fetched]
  refine ((if_neg (ne_true_of_eq_false goes)).trans (if_neg notPad)).trans ?_
  rw [isGroup]
  simp only [pushed]
  refine if_ctx_congr Iff.rfl (fun _ => rfl) fun notFull => ?_
  rw [putNal, if_pos (fits.lt_of_ne notFull)]
  rfl

end Steps

/-! ### Every text -/

theorem ne_zero_of_goes (goes : isEnd c = false) : c ≠ 0 := by
  rintro rfl
  exact absurd goes (by decide)

variable {nal : Bytes}

theorem scanNal_ends (sdp : Text) {fuel p : Nat} (inside : p ≤ sdp.length)
    (enough : sdp.length < p + fuel) (accumulator : Accumulator) (fits : nal.length ≤ nalMax) :
    ∃ outcome, scanNal sdp fuel p accumulator nal = .ok outcome ∧
      ∀ ended ∈ outcome, p ≤ ended.1 ∧ ended.1 ≤ sdp.length ∧ ended.2.length ≤ nalMax := by
  induction fuel generalizing p accumulator nal with
  | zero => exact absurd enough (not_lt.mpr inside)
  | succ fuel hypothesis =>
    obtain ⟨c, fetched, more⟩ := exists_fetch inside
    -- what is found from the next byte on is also found from this one on
    have later : ∀ {next nal'}, c ≠ 0 → nal'.length ≤ nalMax → ∃ outcome,
        scanNal sdp fuel (p + 1) next nal' = .ok outcome ∧ ∀ ended ∈ outcome,
          p ≤ ended.1 ∧ ended.1 ≤ sdp.length ∧ ended.2.length ≤ nalMax := by
      intro next nal' notNul fits'
      obtain ⟨outcome, scans, bounds⟩ := hypothesis (more notNul) (by omega) next fits'
      exact ⟨outcome, scans, fun ended isEnded =>
        ⟨Nat.le_of_succ_le (bounds ended isEnded).1, (bounds ended isEnded).2⟩⟩
    by_cases stops : (isEnd c || decide (c = comma)) = true
    · refine ⟨some (p, nal), ?_, fun ended isEnded => ?_⟩
      · exact scanNal_stops fetched fuel stops
      · cases isEnded
        exact ⟨le_rfl, inside, fits⟩
    have goes := eq_false_of_ne_true stops
    have notNul : c ≠ 0 := ne_zero_of_goes (Bool.or_eq_false_iff.mp goes).1
    by_cases isPad : c = 61
    · rw [scanNal_pad fetched fuel goes isPad]
      exact later notNul fits
    cases isGroup : strchr c with
    | none => exact ⟨none, scanNal_other fetched fuel goes isPad isGroup, nofun⟩
    | some group =>
      rcases pushed : accumulator.push group with ⟨next, _ | byte⟩
      · rw [scanNal_few fetched fuel goes isPad isGroup pushed]
        exact later notNul fits
      · rw [scanNal_many fetched fuel goes isPad isGroup pushed fits]
        by_cases full : nal.length = nalMax
        · exact ⟨none, if_pos full, nofun⟩
        · rw [if_neg full]
          refine later notNul ?_
          rw [length_append]
          exact fits.lt_of_ne full

/-- The parameter sets with a unit behind its start code. -/
def stored (s : Rtp) (nal : Bytes) : Rtp :=
  { s with parameters := s.parameters ++ ([0, 0, 0, 1] ++ nal) }

theorem length_stored (s : Rtp) (nal : Bytes) :
    (stored s nal).parameters.length = s.parameters.length + (nal.length + 4) := by
  rw [stored, length_append, length_append, add_comm nal.length]
  rfl

section Units

variable {sdp : Text} {p q : Nat} {c d : UInt8} {s : Rtp} {nal : Bytes}

theorem scanNals_end (fetched : fetch sdp p = .ok c) (fuel : Nat) (ends : isEnd c = true) :
    scanNals sdp (fuel + 1) p s = .ok (s, 0) := by
  rw [scanNals, fetched]
  exact if_pos ends

variable (fetched : fetch sdp p = .ok c) (fuel : Nat) (goes : isEnd c = false)
include fetched goes

theorem scanNals_illegible (scanned : scanNal sdp (sdp.length + 1) p .empty [] = .ok none) :
    scanNals sdp (fuel + 1) p s = .ok (s, -1) := by
  rw [scanNals, fetched]
  show (if isEnd c = true then _ else _) = _
  rw [goes, if_neg Bool.false_ne_true, scanned]
  rfl

variable (scanned : scanNal sdp (sdp.length + 1) p .empty [] = .ok (some (q, nal)))
include scanned

theorem scanNals_refused (refused : isRefused s nal = true) :
    scanNals sdp (fuel + 1) p s = .ok (s, -1) := by
  rw [scanNals, fetched]
  show (if isEnd c = true then _ else _) = _
  rw [goes, if_neg Bool.false_ne_true, scanned]
  exact if_pos refused

theorem scanNals_stored (taken : isRefused s nal = false)
    (room : s.parameters.length + (nal.length + 4) ≤ parametersMax) (behind : fetch sdp q = .ok d) :
    scanNals sdp (fuel + 1) p s =
      if d = comma then scanNals sdp fuel (q + 1) (stored s nal) else .ok (stored s nal, 0) := by
  have code : putParameters s [0, 0, 0, 1] =
      .ok { s with parameters := s.parameters ++ [0, 0, 0, 1] } :=
    if_pos (by simp only [length_cons, length_nil]; omega)
  have unit : putParameters { s with parameters := s.parameters ++ [0, 0, 0, 1] } nal =
      .ok (stored s nal) := by
    rw [putParameters, if_pos]
    · rw [stored, append_assoc]
    · simp only [length_append, length_cons, length_nil]
      omega
  rw [scanNals, fetched]
  show (if isEnd c = true then _ else _) = _
  rw [goes, if_neg Bool.false_ne_true, scanned]
  show (if isRefused s nal = true then _ else _) = _
  rw [taken, if_neg Bool.false_ne_true, code]
  show (putParameters { s with parameters := s.parameters ++ [0, 0, 0, 1] } nal >>= _) = _
  rw [unit]
  show (fetch sdp q >>= _) = _
  rw [behind]
  rfl

end Units

theorem room_of_taken {s : Rtp} (fits : s.parameters.length ≤ parametersMax)
    (taken : isRefused s nal = false) : s.parameters.length + (nal.length + 4) ≤ parametersMax := by
  have room := of_decide_eq_false (Bool.or_eq_false_iff.mp taken).2
  omega

theorem scanNals_ends (sdp : Text) {fuel p : Nat} (inside : p ≤ sdp.length)
    (enough : sdp.length < p + fuel) {s : Rtp} (fits : s.parameters.length ≤ parametersMax) :
    ∃ after result, scanNals sdp fuel p s = .ok (after, result) ∧
      after.parameters.length ≤ parametersMax := by
  induction fuel generalizing p s with
  | zero => exact absurd enough (not_lt.mpr inside)
  | succ fuel hypothesis =>
    obtain ⟨c, fetched, -⟩ := exists_fetch inside
    by_cases ends : isEnd c = true
    · exact ⟨s, 0, scanNals_end fetched fuel ends, fits⟩
    have goes := eq_false_of_ne_true ends
    have rounds : sdp.length < p + (sdp.length + 1) := by omega
    have nothing : ([] : Bytes).length ≤ nalMax := Nat.zero_le _
    obtain ⟨outcome, scanned, bounds⟩ := scanNal_ends sdp inside rounds .empty nothing
    cases outcome with
    | none => exact ⟨s, -1, scanNals_illegible fetched fuel goes scanned, fits⟩
    | some ended =>
      obtain ⟨q, nal⟩ := ended
      obtain ⟨forwards, within, -⟩ := bounds (q, nal) rfl
      by_cases refused : isRefused s nal = true
      · exact ⟨s, -1, scanNals_refused fetched fuel goes scanned refused, fits⟩
      have taken := eq_false_of_ne_true refused
      have room := room_of_taken fits taken
      obtain ⟨d, behind, more⟩ := exists_fetch within
      rw [scanNals_stored fetched fuel goes scanned taken room behind]
      have storedFits : (stored s nal).parameters.length ≤ parametersMax :=
        (length_stored s nal).trans_le room
      by_cases isComma : d = comma
      · have notNul : d ≠ 0 := isComma ▸ (by decide)
        rw [if_pos isComma]
        exact hypothesis (more notNul) (by omega) storedFits
      · exact ⟨stored s nal, 0, if_neg isComma, storedFits⟩

theorem strstr_le {needle text : Text} {found : Nat} (isFound : strstr needle text = some found) :
    found + needle.length ≤ text.length := by
  induction text generalizing found with
  | nil =>
    obtain ⟨rfl, isZero⟩ := ite_none_right_eq_some.mp isFound
    cases isZero
    exact le_rfl
  | cons first rest hypothesis =>
    rw [strstr] at isFound
    split at isFound
    · next isPrefix =>
      cases isFound
      rw [zero_add]
      exact isPrefix.length_le
    · obtain ⟨later, isLater, rfl⟩ := map_eq_some_iff.mp isFound
      have bound := hypothesis isLater
      rw [length_cons]
      omega

theorem sprop_ends (sdp : Text) {s : Rtp} (fits : s.parameters.length ≤ parametersMax) :
    ∃ after result, sprop s sdp = .ok (after, result) ∧
      after.parameters.length ≤ parametersMax := by
  unfold sprop
  cases isFound : strstr keyword sdp with
  | none => exact ⟨s, 0, rfl, fits⟩
  | some found =>
    have bound : found + 21 ≤ sdp.length := strstr_le isFound
    exact scanNals_ends sdp (by omega) (by omega) fits

/-! ### Lists of parameter sets -/

/-- A unit that can be listed, and the base64 text that it is listed as. -/
structure ParameterSet where
  nal : Bytes
  nonempty : nal ≠ []
  small : nal.length ≤ nalMax
  typed : nal.headD 0 &&& 31 = 7 ∨ nal.headD 0 &&& 31 = 8
  text : Text
  written : text = Base64.padded nal ∨ text = Base64.unpadded nal

/-- The texts with commas between them. -/
def joined : List Text → Text
  | [] => []
  | [text] => text
  | text :: later => text ++ comma :: joined later

/-- The units, each behind its start code. -/
def streamOf (units : List ParameterSet) : Bytes :=
  units.flatMap fun unit => [0, 0, 0, 1] ++ unit.nal

/-- A text spells a unit: letters and padding, of which the letters are the groups of the unit. -/
structure Spells (text : Text) (nal : Bytes) : Prop where
  bytes : ∀ c ∈ text, c ∈ Base64.alphabet ∨ c = 61
  groups : text.filterMap Base64.valueOf = Base64.groups nal

theorem ParameterSet.spells (unit : ParameterSet) : Spells unit.text unit.nal where
  bytes := Base64.encoded_subset unit.nal unit.written
  groups := Base64.filterMap_encoded unit.nal unit.written

theorem Spells.behind_sign {text : Text} (spells : Spells text nal) :
    Spells (61 :: text) nal :=
  ⟨forall_mem_cons.mpr ⟨.inr rfl, spells.bytes⟩, spells.groups⟩

theorem goes_of_text (inText : c ∈ Base64.alphabet ∨ c = 61) :
    (isEnd c || decide (c = comma)) = false := by
  have letters : ∀ c ∈ Base64.alphabet, (isEnd c || decide (c = comma)) = false := by
    decide +kernel
  rcases inText with isLetter | rfl
  · exact letters c isLetter
  · rfl

theorem strchr_eq (isLetter : c ∈ Base64.alphabet) :
    c ≠ 61 ∧ ∃ group, strchr c = some group ∧ Base64.valueOf c = some group := by
  have letters : ∀ c ∈ Base64.alphabet,
      c ≠ 61 ∧ strchr c = Base64.valueOf c ∧ (Base64.valueOf c).isSome := by
    decide +kernel
  obtain ⟨notPad, same, isSome⟩ := letters c isLetter
  obtain ⟨group, isGroup⟩ := isSome_iff_exists.mp isSome
  exact ⟨notPad, group, same.trans isGroup, isGroup⟩

/-- The inner loop decodes a text that it is in front of. -/
theorem scanNal_text {sdp before text after : Text} {stop : UInt8}
    (split : sdp ++ [0] = before ++ (text ++ stop :: after)) {fuel : Nat}
    (enough : text.length < fuel) (bytes : ∀ c ∈ text, c ∈ Base64.alphabet ∨ c = 61)
    (stops : (isEnd stop || decide (stop = comma)) = true) (accumulator : Accumulator)
    (nal : Bytes)
    (fits : (nal ++ Base64.decode accumulator (text.filterMap Base64.valueOf)).length ≤ nalMax) :
    scanNal sdp fuel before.length accumulator nal =
      .ok (some (before.length + text.length,
        nal ++ Base64.decode accumulator (text.filterMap Base64.valueOf))) := by
  induction text generalizing before fuel accumulator nal with
  | nil =>
    obtain ⟨fuel, rfl⟩ := Nat.exists_eq_succ_of_ne_zero (Nat.ne_zero_of_lt enough)
    rw [scanNal_stops (fetch_append split) fuel stops, filterMap_nil, Base64.decode, append_nil]
    rfl
  | cons c rest hypothesis =>
    obtain ⟨fuel, rfl⟩ := Nat.exists_eq_succ_of_ne_zero (Nat.ne_zero_of_lt enough)
    obtain ⟨inText, restBytes⟩ := forall_mem_cons.mp bytes
    have fetched : fetch sdp before.length = .ok c := fetch_append split
    have goes := goes_of_text inText
    have restSplit : sdp ++ [0] = (before ++ [c]) ++ (rest ++ stop :: after) := by
      rw [split, append_assoc]
      rfl
    have restEnough : rest.length < fuel := Nat.lt_of_succ_lt_succ enough
    have moved : (before ++ [c]).length = before.length + 1 := length_append
    have total : before.length + 1 + rest.length = before.length + (c :: rest).length := by
      rw [length_cons]
      omega
    have later := hypothesis restSplit restEnough restBytes
    rw [moved, total] at later
    rcases inText with isLetter | rfl
    · obtain ⟨notPad, group, isGroup, isValue⟩ := strchr_eq isLetter
      rw [filterMap_cons_some isValue, Base64.decode] at fits ⊢
      rcases pushed : accumulator.push group with ⟨next, _ | byte⟩
      · rw [pushed, toList_none, nil_append] at fits
        rw [toList_none, nil_append, scanNal_few fetched fuel goes notPad isGroup pushed]
        exact later next nal fits
      · rw [pushed, toList_some, ← append_assoc] at fits
        have room : nal.length < nalMax := by
          rw [length_append, length_append, length_singleton] at fits
          omega
        rw [toList_some, ← append_assoc,
          scanNal_many fetched fuel goes notPad isGroup pushed room.le, if_neg room.ne]
        exact later next (nal ++ [byte]) fits
    · rw [filterMap_cons_none rfl] at fits ⊢
      rw [scanNal_pad fetched fuel goes rfl]
      exact later accumulator nal fits

section Lists

variable {sdp before text after : Text} {stop : UInt8} {unit : ParameterSet} {s : Rtp}

theorem Spells.ne_nil (spells : Spells text unit.nal) : text ≠ [] := by
  rintro rfl
  have noGroups : Base64.groups unit.nal = [] := spells.groups.symm
  have empty := Base64.decode_groups Base64.waits_empty unit.nal
  rw [noGroups] at empty
  exact unit.nonempty empty.symm

theorem taken_of_room (room : s.parameters.length + (unit.nal.length + 4) ≤ parametersMax) :
    isRefused s unit.nal = false := by
  have nonempty : decide (unit.nal = []) = false := decide_eq_false unit.nonempty
  have typed : (decide (unit.nal.headD 0 &&& 31 ≠ 7) && decide (unit.nal.headD 0 &&& 31 ≠ 8)) =
      false := by
    rcases unit.typed with isSps | isPps
    · rw [isSps]
      rfl
    · rw [isPps]
      rfl
  have fits : decide (parametersMax - s.parameters.length < unit.nal.length + 4) = false :=
    decide_eq_false (by omega)
  rw [isRefused, nonempty, typed, fits]
  rfl

theorem scanNals_text (split : sdp ++ [0] = before ++ (text ++ stop :: after))
    (spells : Spells text unit.nal) (stops : (isEnd stop || decide (stop = comma)) = true)
    (room : s.parameters.length + (unit.nal.length + 4) ≤ parametersMax) (fuel : Nat) :
    scanNals sdp (fuel + 1) before.length s =
      if stop = comma then
        scanNals sdp fuel (before ++ (text ++ [stop])).length (stored s unit.nal)
      else .ok (stored s unit.nal, 0) := by
  obtain ⟨c, rest, rfl⟩ := exists_cons_of_ne_nil spells.ne_nil
  have goes : isEnd c = false :=
    (Bool.or_eq_false_iff.mp (goes_of_text (spells.bytes c mem_cons_self))).1
  have fetched : fetch sdp before.length = .ok c := fetch_append split
  have lengths := congrArg length split
  simp only [length_append, length_cons, length_nil] at lengths
  have isNal : Base64.decode .empty ((c :: rest).filterMap Base64.valueOf) = unit.nal := by
    rw [spells.groups, Base64.decode_groups Base64.waits_empty]
  have enough : (c :: rest).length < sdp.length + 1 := by
    rw [length_cons]
    omega
  have scanned := scanNal_text split enough spells.bytes stops .empty []
    (by rw [isNal]; exact unit.small)
  rw [isNal, nil_append, ← length_append] at scanned
  have behind : fetch sdp (before ++ (c :: rest)).length = .ok stop :=
    fetch_append (split.trans (append_assoc ..).symm)
  rw [scanNals_stored fetched fuel goes scanned (taken_of_room room) room behind]
  simp only [length_append, length_singleton, add_assoc]

theorem joined_cons {texts : List Text} (more : texts ≠ []) (text : Text) :
    joined (text :: texts) = text ++ comma :: joined texts := by
  cases texts with
  | nil => exact absurd rfl more
  | cons second later => rfl

theorem joined_sign (text : Text) (texts : List Text) :
    joined ((61 :: text) :: texts) = 61 :: joined (text :: texts) := by
  cases texts <;> rfl

theorem length_le_joined (texts : List Text) : texts.length ≤ (joined texts).length + 1 := by
  induction texts with
  | nil => exact Nat.zero_le _
  | cons text texts hypothesis =>
    by_cases more : texts = []
    · subst more
      exact Nat.le_add_left 1 _
    · rw [joined_cons more, length_append, length_cons, length_cons]
      omega

theorem scanNals_texts {texts : List Text} {units : List ParameterSet}
    (spelled : Forall₂ (fun text unit => Spells text unit.nal) texts units)
    (nonempty : units ≠ []) (split : sdp ++ [0] = before ++ (joined texts ++ stop :: after))
    (ends : isEnd stop = true) {fuel : Nat} (enough : units.length ≤ fuel)
    (room : s.parameters.length + (streamOf units).length ≤ parametersMax) :
    scanNals sdp fuel before.length s =
      .ok ({ s with parameters := s.parameters ++ streamOf units }, 0) := by
  induction spelled generalizing before fuel s with
  | nil => exact absurd rfl nonempty
  | @cons text unit texts units spells spelled hypothesis =>
    obtain ⟨fuel, rfl⟩ := Nat.exists_eq_succ_of_ne_zero (Nat.ne_zero_of_lt enough)
    have parts : streamOf (unit :: units) = ([0, 0, 0, 1] ++ unit.nal) ++ streamOf units :=
      flatMap_cons
    have first : ([0, 0, 0, 1] ++ unit.nal).length = unit.nal.length + 4 := by
      rw [length_append, add_comm]
      rfl
    rw [parts, length_append, first] at room
    have unitRoom : s.parameters.length + (unit.nal.length + 4) ≤ parametersMax := by omega
    rw [parts, ← append_assoc]
    by_cases last : units = []
    · subst last
      obtain rfl := forall₂_nil_right_iff.mp spelled
      have notComma : stop ≠ comma := by
        rintro rfl
        exact absurd ends (by decide)
      have round := scanNals_text (s := s) split spells (by rw [ends]; rfl) unitRoom fuel
      rw [if_neg notComma] at round
      rw [round, streamOf, flatMap_nil, append_nil]
      rfl
    · have more : texts ≠ [] := by
        rintro rfl
        exact last (forall₂_nil_left_iff.mp spelled)
      rw [joined_cons more, append_assoc, cons_append] at split
      have round := scanNals_text (s := s) split spells rfl unitRoom fuel
      have rest : sdp ++ [0] =
          (before ++ (text ++ [comma])) ++ (joined texts ++ stop :: after) := by
        rw [split]
        simp only [append_assoc, cons_append, nil_append]
      rw [if_pos rfl] at round
      rw [round]
      exact hypothesis last rest (Nat.le_of_succ_le_succ enough) (by rw [length_stored]; omega)

end Lists

/-! ### The keyword -/

/-- No end of a text is a start of it. -/
def Unbordered (needle : Text) : Prop :=
  ∀ start < needle.length, 0 < start → ¬ needle.drop start <+: needle

theorem keyword_unbordered : Unbordered keyword := by
  unfold Unbordered
  decide

theorem not_prefix_across {needle before : Text} (unbordered : Unbordered needle)
    (nonempty : before ≠ []) (fresh : ¬ needle <:+: before) (after : Text) :
    ¬ needle <+: before ++ (needle ++ after) := by
  rintro ⟨tail, split⟩
  rcases append_eq_append_iff.mp split with ⟨rest, isBefore, -⟩ | ⟨border, isNeedle, isBorder⟩
  · exact fresh (isBefore ▸ (prefix_append needle rest).isInfix)
  · have behind : needle.drop before.length = border := by
      rw [isNeedle, drop_left]
    have inside : before.length < needle.length := by
      by_contra long
      have noBorder : border = [] := by
        rw [← behind, drop_eq_nil_of_le (not_lt.mp long)]
      rw [noBorder, append_nil] at isNeedle
      exact fresh (isNeedle ▸ infix_rfl)
    refine unbordered before.length inside (length_pos_of_ne_nil nonempty) ?_
    have starts : border <+: needle ++ after := ⟨tail, isBorder.symm⟩
    rw [behind]
    refine prefix_of_prefix_length_le starts (prefix_append needle after) ?_
    rw [← behind, length_drop]
    exact Nat.sub_le _ _

theorem strstr_eq {needle before : Text} (unbordered : Unbordered needle)
    (fresh : ¬ needle <:+: before) (after : Text) :
    strstr needle (before ++ (needle ++ after)) = some before.length := by
  induction before with
  | nil =>
    cases needle with
    | nil => exact absurd infix_rfl fresh
    | cons first rest => exact if_pos (prefix_append _ _)
  | cons first rest hypothesis =>
    have restFresh : ¬ needle <:+: rest := fun inRest =>
      fresh (inRest.trans (suffix_cons first rest).isInfix)
    have across := not_prefix_across unbordered (cons_ne_nil first rest) fresh after
    rw [cons_append] at across ⊢
    rw [strstr, if_neg across, hypothesis restFresh]
    rfl

/-! ### Descriptions -/

/-- A session description that lists some units: behind the first keyword stand their texts, and
behind these a semicolon, the end of a line or nothing more. -/
structure Describes (sdp : Text) (units : List ParameterSet) (before after : Text) : Prop where
  split : sdp = before ++ (keyword ++ (joined (units.map ParameterSet.text) ++ after))
  first : ¬ keyword <:+: before
  ended : ∀ c ∈ after.head?, isEnd c = true

section Describes

variable {sdp before after : Text} {units : List ParameterSet} {s : Rtp}

section

variable (describes : Describes sdp units before after)

include describes

theorem Describes.behind :
    ∃ stop rest, isEnd stop = true ∧ sdp ++ [0] =
      (before ++ keyword.take 20) ++
        (61 :: joined (units.map ParameterSet.text) ++ stop :: rest) := by
  obtain ⟨stop, rest, isRest, ends⟩ :
      ∃ stop rest, after ++ [0] = stop :: rest ∧ isEnd stop = true := by
    cases after with
    | nil => exact ⟨0, [], rfl, rfl⟩
    | cons stop rest => exact ⟨stop, rest ++ [0], rfl, describes.ended stop rfl⟩
  refine ⟨stop, rest, ends, ?_⟩
  have sign : keyword = keyword.take 20 ++ [61] := rfl
  rw [describes.split, ← isRest]
  nth_rewrite 1 [sign]
  simp only [append_assoc, cons_append, nil_append]

theorem Describes.sprop_eq :
    sprop s sdp = scanNals sdp (sdp.length + 1) (before ++ keyword.take 20).length s := by
  rw [sprop, describes.split, strstr_eq keyword_unbordered describes.first]
  simp only [length_append]
  rfl

theorem Describes.stores (nonempty : units ≠ [])
    (room : s.parameters.length + (streamOf units).length ≤ parametersMax) :
    sprop s sdp = .ok ({ s with parameters := s.parameters ++ streamOf units }, 0) := by
  obtain ⟨stop, rest, ends, split⟩ := describes.behind
  have enough : units.length ≤ sdp.length + 1 := by
    have texts := length_le_joined (units.map ParameterSet.text)
    rw [length_map] at texts
    refine texts.trans (Nat.succ_le_succ ?_)
    rw [describes.split]
    simp only [length_append]
    omega
  obtain ⟨unit, later, rfl⟩ := exists_cons_of_ne_nil nonempty
  rw [map_cons, ← joined_sign] at split
  rw [describes.sprop_eq]
  refine scanNals_texts (.cons unit.spells.behind_sign ?_) nonempty split ends enough room
  exact forall₂_map_left_iff.mpr (forall₂_same.mpr fun other _ => other.spells)

end

theorem Describes.refuses (describes : Describes sdp [] before after) :
    sprop s sdp = .ok (s, -1) := by
  obtain ⟨stop, rest, ends, split⟩ := describes.behind
  have fetched : fetch sdp (before ++ keyword.take 20).length = .ok 61 := fetch_append split
  have signOnly : ∀ c ∈ [(61 : UInt8)], c ∈ Base64.alphabet ∨ c = 61 :=
    fun c isSign => .inr (mem_singleton.mp isSign)
  have enough : [(61 : UInt8)].length < sdp.length + 1 := by
    rw [describes.split]
    simp only [length_append, length_singleton]
    have long : keyword.length = 21 := rfl
    omega
  have scanned := scanNal_text split enough signOnly (by rw [ends]; rfl) .empty []
    (Nat.zero_le nalMax)
  rw [describes.sprop_eq]
  exact scanNals_refused fetched sdp.length rfl scanned rfl

end Describes

/-- The parser stores a list of parameter sets whole, in order and each behind a start code, if and
only if the list is not empty. On every text it ends without a fault, and what it stores fits its
buffer. -/
theorem sprop_complete_iff (s : Rtp) (sdp : Text) :
    (∀ units before after, Describes sdp units before after →
      s.parameters.length + (streamOf units).length ≤ parametersMax →
      (sprop s sdp = .ok ({ s with parameters := s.parameters ++ streamOf units }, 0) ↔
        units ≠ [])) ∧
    (s.parameters.length ≤ parametersMax →
      ∃ after result, sprop s sdp = .ok (after, result) ∧
        after.parameters.length ≤ parametersMax) := by
  refine ⟨fun units before after describes room => ⟨?_, fun nonempty =>
    describes.stores nonempty room⟩, fun fits => sprop_ends sdp fits⟩
  rintro stores rfl
  rw [describes.refuses] at stores
  have results : (-1 : Int) = 0 := congrArg Prod.snd (Except.ok.inj stores)
  exact absurd results (by decide)

/-- An SPS and a PPS of two bytes each. -/
def twoSets : List ParameterSet :=
  [⟨[0x67, 1], by decide, by decide, by decide, Base64.padded [0x67, 1], .inl rfl⟩,
    ⟨[0x68, 2], by decide, by decide, by decide, Base64.unpadded [0x68, 2], .inr rfl⟩]

theorem sprop_complete_two :
    sprop (.init []) (keyword ++ (joined (twoSets.map ParameterSet.text) ++ [59])) =
      .ok ({ Rtp.init [] with parameters := [0, 0, 0, 1, 0x67, 1, 0, 0, 0, 1, 0x68, 2] }, 0) :=
  ((sprop_complete_iff (.init []) _).1 twoSets [] [59]
    ⟨rfl, by decide, by rintro c ⟨⟩; rfl⟩ (by decide)).mpr (by decide)

/-- The empty list before a semicolon is refused. -/
theorem sprop_empty_list :
    Describes (keyword ++ [59]) [] [] [59] ∧
    ([] : Bytes).length + (streamOf []).length ≤ parametersMax ∧
    sprop (.init []) (keyword ++ [59]) = .ok (.init [], -1) := by
  refine ⟨⟨rfl, by decide, ?_⟩, by decide, by decide⟩
  rintro c ⟨⟩
  rfl

end Z1Sprop
