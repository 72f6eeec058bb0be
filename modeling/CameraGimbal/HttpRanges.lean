/-
This file models the download of a part of a file: the range that `parse_byte_range` reads from the
headers, and the response of `send_file_response` to a file that has been found and opened.

A byte range names its first and its last byte in decimal digits, or leaves one of them out. The
code reads the numbers with `strtoull`, which also takes white space and a sign in front of the
digits, wraps a negated number around and refuses a number of 64 bits or more. Apart from the ranges
for which that makes a difference, exactly the ranges of the file are read.
-/

import CameraGimbal.Bytes
import CameraGimbal.ConfigNumbers
import CameraGimbal.HttpFraming

namespace HttpRequest

open CText Option List

/-! ### The range -/

def rangeName : Text := bytes "Range"

/-- `enum range_result`, with the first and the last byte of a valid range. -/
inductive RangeResult where
  | none
  | valid (start last : Nat)
  | invalid
  deriving DecidableEq

/-- `strtoull` and the checks behind it: no error, and nothing left of the text. -/
def rangeNumber (text : Text) : Option Nat :=
  match strtoul 64 text with
  | none => none
  | some parsed =>
    if parsed.inRange = false ∨ parsed.rest ≠ [] then none else some parsed.value.toNat

/-- The value of the header, as a string. -/
def parseRangeValue (value : Text) (size : UInt64) : RangeResult :=
  if ¬ bytes "bytes=" <+: value ∨ 44 ∈ value.drop 6 ∨ size = 0 then .invalid
  else
    match CText.splitAt 45 (value.drop 6) with
    | none => .invalid
    | some (before, after) =>
      if before = [] then
        match rangeNumber after with
        | none => .invalid
        | some last =>
          if last = 0 then .invalid
          else .valid (size.toNat - min last size.toNat) (size.toNat - 1)
      else
        match rangeNumber before with
        | none => .invalid
        | some first =>
          if size.toNat ≤ first then .invalid
          else if after = [] then .valid first (size.toNat - 1)
          else
            match rangeNumber after with
            | none => .invalid
            | some last =>
              if last < first then .invalid else .valid first (min last (size.toNat - 1))

def parseByteRange (headers : Text) (size : UInt64) : RangeResult :=
  match findHeader rangeName headers 256 with
  | none => .none
  | some value => parseRangeValue (cString value) size

/-! ### The response -/

/-- `safe_download_name`, of the name behind the last slash. -/
def safeDownloadName (base : Text) : Text :=
  let output := (base.take 255).map fun value =>
    if 0x20 ≤ value ∧ value < 0x7f ∧ value ≠ 34 ∧ value ≠ 92 then value else 95
  if output = [] then [95] else output

/-- What a response says of the server and of the file. The names of the server and of the media
types are constants. -/
structure Labels where
  server : Text
  mime : Text
  base : Text
  download : Bool
  short : server.length + mime.length ≤ 256

/-- An open file, of a size that `off_t` can hold. -/
structure File where
  contents : Bytes
  fits : contents.length < 2 ^ 63

def File.size (file : File) : UInt64 := UInt64.ofNat file.contents.length

def disposition (labels : Labels) : Text :=
  bytes "Content-Disposition: " ++
    (if labels.download then bytes "attachment" else bytes "inline") ++ bytes "; filename=\"" ++
    safeDownloadName labels.base ++ bytes "\"\r\n"

/-- The last lines of a response with a file. -/
def closing : Text :=
  bytes "Cache-Control: no-store\r\nX-Content-Type-Options: nosniff\r\nConnection: close\r\n\r\n"

/-- The header of a response to a range that the file does not have. -/
def unsatisfiableHeader (labels : Labels) (size : Nat) : Text :=
  bytes "HTTP/1.1 416 Range Not Satisfiable\r\nServer: " ++ labels.server ++
    bytes "\r\nContent-Range: bytes */" ++ printNat size ++
    bytes "\r\nContent-Length: 0\r\nConnection: close\r\n\r\n"

/-- The header of a response with a part of the file: it announces so many bytes. -/
def partialHeader (labels : Labels) (remaining start last size : Nat) : Text :=
  bytes "HTTP/1.1 206 Partial Content\r\nServer: " ++ labels.server ++
    bytes "\r\nContent-Type: " ++ labels.mime ++ bytes "\r\nContent-Length: " ++
    printNat remaining ++ bytes "\r\nContent-Range: bytes " ++ printNat start ++ bytes "-" ++
    printNat last ++ bytes "/" ++ printNat size ++ bytes "\r\nAccept-Ranges: bytes\r\n" ++
    disposition labels ++ closing

def wholeHeader (labels : Labels) (remaining : Nat) : Text :=
  bytes "HTTP/1.1 200 OK\r\nServer: " ++ labels.server ++ bytes "\r\nContent-Type: " ++
    labels.mime ++ bytes "\r\nContent-Length: " ++ printNat remaining ++
    bytes "\r\nAccept-Ranges: bytes\r\n" ++ disposition labels ++ closing

/-- The result of a `pread`. It gives at least one byte when the file has any there. -/
inductive Pread where
  | some (more : Nat)
  | interrupted
  | failed

/-- A round of the loop that sends the file: the read, and whether the client takes the bytes. -/
structure Round where
  read : Pread
  taken : Bool

/-- The loop that sends the file, and whether it has ended. A file that has become shorter ends
it. -/
def sendPart (contents : Bytes) : List Round → Nat → Nat → Text × Bool
  | [], _, remaining => ([], remaining == 0)
  | round :: rest, start, remaining =>
    if remaining = 0 then ([], true)
    else
      match round.read with
      | .interrupted => sendPart contents rest start remaining
      | .failed => ([], true)
      | .some more =>
        let wanted := min remaining 65536
        let got := (contents.drop start).take (min (more + 1) wanted)
        if got = [] ∨ round.taken = false then ([], true)
        else
          let sent := sendPart contents rest (start + got.length) (remaining - got.length)
          (got ++ sent.1, sent.2)

/-- `send_file_response` for an open file: what is sent in so many rounds of its loop, and whether
it has ended. -/
def sendFileResponse (headers : Text) (head : Bool) (labels : Labels) (file : File)
    (headerTaken : Bool) (rounds : List Round) : Text × Bool :=
  let size := file.size.toNat
  match parseByteRange headers file.size with
  | .invalid =>
    let header := unsatisfiableHeader labels size
    (if header.length < 4096 then header else [], true)
  | .valid start last =>
    let remaining := if size = 0 then 0 else last - start + 1
    let header := partialHeader labels remaining start last size
    if 4096 ≤ header.length ∨ headerTaken = false then ([], true)
    else if head then (header, true)
    else
      let sent := sendPart file.contents rounds start remaining
      (header ++ sent.1, sent.2)
  | .none =>
    let header := wholeHeader labels size
    if 4096 ≤ header.length ∨ headerTaken = false then ([], true)
    else if head then (header, true)
    else
      let sent := sendPart file.contents rounds 0 size
      (header ++ sent.1, sent.2)

/-! ### What a range means -/

/-- A byte range in front of and behind its dash, with the first and the last byte it has of a file.
How its numbers are read is left open. -/
inductive Range (reads : Text → Nat → Prop) (size : Nat) : Text → Text → Nat → Nat → Prop
  | int {before after : Text} {first last : Nat} (isFirst : reads before first)
      (isLast : reads after last) (inside : first < size) (ordered : first ≤ last) :
      Range reads size before after first (min last (size - 1))
  | openEnded {before : Text} {first : Nat} (isFirst : reads before first)
      (inside : first < size) : Range reads size before [] first (size - 1)
  | suffix {after : Text} {length : Nat} (isLength : reads after length) (positive : 0 < length)
      (some : 0 < size) : Range reads size [] after (size - min length size) (size - 1)

/-- The value of a header with one range of the file, in decimal digits. -/
def Designates (value : Text) (size start last : Nat) : Prop :=
  ∃ before after, value = bytes "bytes=" ++ (before ++ 45 :: after) ∧
    Range Denotes size before after start last

/-- What `strtoull` reads: digits below two to the power of 64, with white space and a sign in
front, and a negated number wrapped around. -/
def Scans (text : Text) (number : Nat) : Prop :=
  ∃ negative magnitude, Numeral (text.dropWhile isSpace) negative magnitude ∧
    magnitude < 2 ^ 64 ∧ number = (if negative then 2 ^ 64 - magnitude else magnitude) % 2 ^ 64

/-- A range that is read otherwise than it is written: one with more than digits that is a range of
the file as `strtoull` reads it, or one of the file whose last number has more than 64 bits. -/
def Misread (value : Text) (size : Nat) : Prop :=
  ∃ before after start last, value = bytes "bytes=" ++ (before ++ 45 :: after) ∧
    45 ∉ before ∧ 44 ∉ before ++ 45 :: after ∧
    ((Range Scans size before after start last ∧
        ∃ byte ∈ before ++ after, isDigit byte = false) ∨
      (Range Denotes size before after start last ∧ 2 ^ 64 ≤ decimal after))

variable {start last : Nat} {before after : Text}

theorem Range.within {reads : Text → Nat → Prop} {size : Nat}
    (range : Range reads size before after start last) : start ≤ last ∧ last < size := by
  cases range with
  | int _ _ inside ordered => omega
  | openEnded _ inside => omega
  | suffix _ positive some => omega

theorem Range.mono {reads other : Text → Nat → Prop} {size : Nat}
    (range : Range reads size before after start last)
    (first : ∀ number, number < size → reads before number → other before number)
    (second : ∀ number, reads after number → other after number) :
    Range other size before after start last := by
  cases range with
  | int isFirst isLast inside ordered =>
    exact .int (first _ inside isFirst) (second _ isLast) inside ordered
  | openEnded isFirst inside => exact .openEnded (first _ inside isFirst) inside
  | suffix isLength positive some => exact .suffix (second _ isLength) positive some

/-! ### Numbers -/

theorem toNat_wrapped {magnitude : Nat} (small : magnitude < 2 ^ 64) (negative : Bool) :
    ((if negative then -magnitude else magnitude : Int) % 2 ^ 64).toNat =
      (if negative then 2 ^ 64 - magnitude else magnitude) % 2 ^ 64 := by
  cases negative with
  | false =>
    show ((magnitude : Int) % 2 ^ 64).toNat = magnitude % 2 ^ 64
    omega
  | true =>
    show ((-magnitude : Int) % 2 ^ 64).toNat = (2 ^ 64 - magnitude) % 2 ^ 64
    by_cases isZero : magnitude = 0
    · rw [isZero]
      rfl
    · rw [Nat.mod_eq_of_lt (by omega)]
      omega

variable {text : Text} {number : Nat}

theorem rangeNumber_eq_some : rangeNumber text = some number ↔ Scans text number := by
  unfold rangeNumber strtoul
  constructor
  · intro isNumber
    cases scanned : scanDecimal text with
    | none =>
      rw [scanned] at isNumber
      cases isNumber
    | some result =>
      obtain ⟨negative, magnitude, rest⟩ := result
      rw [scanned, map_some] at isNumber
      dsimp only at isNumber
      by_cases small : magnitude < 2 ^ 64
      · by_cases whole : rest = []
        · rw [if_pos small, if_neg (by simpa using whole)] at isNumber
          rw [whole] at scanned
          refine ⟨negative, magnitude, scanDecimal_whole.mp scanned, small, ?_⟩
          exact (some.inj isNumber).symm.trans (toNat_wrapped small negative)
        · rw [if_pos small, if_pos (.inr whole)] at isNumber
          cases isNumber
      · rw [if_neg small, if_pos (.inl rfl)] at isNumber
        cases isNumber
  · rintro ⟨negative, magnitude, numeral, small, rfl⟩
    rw [scanDecimal_whole.mpr numeral, map_some]
    dsimp only
    rw [if_pos small, if_neg (by simp)]
    exact congrArg some (toNat_wrapped small negative)

theorem Scans.nonempty (scans : Scans text number) : text ≠ [] := by
  rintro rfl
  obtain ⟨_, _, numeral, -⟩ := scans
  cases numeral with
  | plain some _ => exact some rfl

/-- Digits are read as the number that they denote, unless it is too large. -/
theorem scans_of_denotes (denotes : Denotes text number)
    (small : number < 2 ^ 64) : Scans text number := by
  obtain ⟨nonempty, digits, rfl⟩ := denotes
  refine ⟨false, decimal text, ?_, small, (Nat.mod_eq_of_lt small).symm⟩
  rw [(scanSign_digits digits).1]
  exact .plain nonempty digits

theorem denotes_of_scans (scans : Scans text number)
    (digits : ∀ byte ∈ text, isDigit byte = true) : Denotes text number ∧ number < 2 ^ 64 := by
  have nonempty := scans.nonempty
  obtain ⟨negative, magnitude, numeral, small, rfl⟩ := scans
  rw [(scanSign_digits digits).1] at numeral
  cases numeral with
  | plain =>
    have same : decimal text % 2 ^ 64 = decimal text := Nat.mod_eq_of_lt small
    simp only [Bool.false_eq_true, if_false, same]
    exact ⟨⟨nonempty, digits, rfl⟩, small⟩
  | plus =>
    have isSign := digits 43 mem_cons_self
    exact absurd isSign (by decide)
  | minus =>
    have isSign := digits 45 mem_cons_self
    exact absurd isSign (by decide)

/-! ### What is read -/

/-- The ranges that are read: those of the file, with the numbers as `strtoull` reads them. -/
theorem parseRangeValue_valid {value : Text} {size : UInt64} :
    parseRangeValue value size = .valid start last ↔
      ∃ before after, value = bytes "bytes=" ++ (before ++ 45 :: after) ∧ 45 ∉ before ∧
        44 ∉ before ++ 45 :: after ∧ Range Scans size.toNat before after start last := by
  have length : (bytes "bytes=").length = 6 := by decide
  unfold parseRangeValue
  constructor
  · intro valid
    split at valid
    · cases valid
    next proper =>
    simp only [not_or, not_not] at proper
    obtain ⟨⟨rest, rfl⟩, single, nonzero⟩ := proper
    have isRest : (bytes "bytes=" ++ rest).drop 6 = rest := drop_left' length
    rw [isRest] at valid single
    have some : 0 < size.toNat := Nat.pos_of_ne_zero fun isZero =>
      nonzero (UInt64.toNat_inj.mp isZero)
    cases cut : CText.splitAt 45 rest with
    | none =>
      rw [cut] at valid
      cases valid
    | some parts =>
      obtain ⟨before, after⟩ := parts
      obtain ⟨rfl, absent⟩ := splitAt_spec cut
      rw [cut] at valid
      refine ⟨before, after, rfl, absent, single, ?_⟩
      dsimp only at valid
      by_cases suffix : before = []
      · rw [if_pos suffix] at valid
        split at valid
        · cases valid
        next length isLength =>
        split at valid
        · cases valid
        next positive =>
        obtain ⟨rfl, rfl⟩ := RangeResult.valid.inj valid
        rw [suffix]
        exact .suffix (rangeNumber_eq_some.mp isLength) (Nat.pos_of_ne_zero positive) some
      · rw [if_neg suffix] at valid
        split at valid
        · cases valid
        next first isFirst =>
        split at valid
        · cases valid
        next inside =>
        split at valid
        · next isOpen =>
          obtain ⟨rfl, rfl⟩ := RangeResult.valid.inj valid
          rw [isOpen]
          exact .openEnded (rangeNumber_eq_some.mp isFirst) (not_le.mp inside)
        split at valid
        · cases valid
        next second isSecond =>
        split at valid
        · cases valid
        next ordered =>
        obtain ⟨rfl, rfl⟩ := RangeResult.valid.inj valid
        exact .int (rangeNumber_eq_some.mp isFirst) (rangeNumber_eq_some.mp isSecond)
          (not_le.mp inside) (not_lt.mp ordered)
  · rintro ⟨before, after, rfl, absent, single, range⟩
    have isRest : (bytes "bytes=" ++ (before ++ 45 :: after)).drop 6 = before ++ 45 :: after :=
      drop_left' length
    have nonzero : size ≠ 0 := fun isZero => by
      have within := range.within
      rw [isZero] at within
      exact absurd within.2 (Nat.not_lt_zero _)
    have proper : ¬ (¬ bytes "bytes=" <+: bytes "bytes=" ++ (before ++ 45 :: after) ∨
        44 ∈ before ++ 45 :: after ∨ size = 0) := by
      simp only [not_or, not_not]
      exact ⟨prefix_append _ _, single, nonzero⟩
    rw [isRest, if_neg proper, splitAt_append after absent]
    dsimp only
    cases range with
    | int isFirst isLast inside ordered =>
      rw [if_neg isFirst.nonempty, rangeNumber_eq_some.mpr isFirst]
      dsimp only
      rw [if_neg (not_le.mpr inside), if_neg isLast.nonempty, rangeNumber_eq_some.mpr isLast]
      exact if_neg (not_lt.mpr ordered)
    | openEnded isFirst inside =>
      rw [if_neg isFirst.nonempty, rangeNumber_eq_some.mpr isFirst]
      dsimp only
      rw [if_neg (not_le.mpr inside), if_pos rfl]
    | suffix isLength positive some =>
      rw [if_pos rfl, rangeNumber_eq_some.mpr isLength]
      exact if_neg positive.ne'

theorem range_denotes {size : Nat} (range : Range Scans size before after start last)
    (digits : ∀ byte ∈ before ++ after, isDigit byte = true) :
    Range Denotes size before after start last :=
  range.mono
    (fun _ _ scans => (denotes_of_scans scans fun byte member =>
      digits byte (mem_append_left _ member)).1)
    fun _ scans => (denotes_of_scans scans fun byte member =>
      digits byte (mem_append_right _ member)).1

theorem range_scans {size : Nat} (range : Range Denotes size before after start last)
    (few : size < 2 ^ 64) (small : decimal after < 2 ^ 64) :
    Range Scans size before after start last :=
  range.mono (fun _ inside denotes => scans_of_denotes denotes (inside.trans few))
    fun _ denotes => scans_of_denotes denotes (denotes.number ▸ small)

theorem range_digits {size : Nat} (range : Range Denotes size before after start last) :
    ∀ byte ∈ before ++ after, isDigit byte = true := by
  intro byte member
  cases range with
  | int isFirst isLast _ _ =>
    rcases mem_append.mp member with inFirst | inLast
    · exact isFirst.digits byte inFirst
    · exact isLast.digits byte inLast
  | openEnded isFirst _ =>
    rw [append_nil] at member
    exact isFirst.digits byte member
  | suffix isLength _ _ => exact isLength.digits byte member

theorem not_range_scans {size first second : Nat}
    (range : Range Denotes size before after start last) (large : 2 ^ 64 ≤ decimal after) :
    ¬ Range Scans size before after first second := by
  have unread {number : Nat} (scans : Scans after number)
      (digits : ∀ byte ∈ after, isDigit byte = true) : False := by
    have ⟨denotes, small⟩ := denotes_of_scans scans digits
    exact not_lt.mpr large (denotes.number ▸ small)
  have digits : ∀ byte ∈ after, isDigit byte = true := fun byte member =>
    range_digits range byte (mem_append_right _ member)
  intro other
  cases other with
  | int _ isLast _ _ => exact unread isLast digits
  | openEnded _ _ => exact absurd large (by decide)
  | suffix isLength _ _ => exact unread isLength digits

theorem split_unique {before after first second : Text} (absent : 45 ∉ before) (other : 45 ∉ first)
    (same : bytes "bytes=" ++ (before ++ 45 :: after) = bytes "bytes=" ++ (first ++ 45 :: second)) :
    before = first ∧ after = second := by
  have cut := splitAt_append after absent
  rw [append_cancel_left same, splitAt_append second other] at cut
  cases cut
  exact ⟨rfl, rfl⟩

theorem parseRangeValue_designates {value : Text} {size : UInt64} :
    (∀ start last, parseRangeValue value size = .valid start last ↔
      Designates value size.toNat start last) ↔ ¬ Misread value size.toNat := by
  have plain {before after : Text} (digits : ∀ byte ∈ before ++ after, isDigit byte = true) :
      45 ∉ before ∧ 44 ∉ before ++ 45 :: after := by
    refine ⟨fun member => ?_, fun member => ?_⟩
    · exact absurd (digits 45 (mem_append_left _ member)) (by decide)
    · rcases mem_append.mp member with inBefore | inAfter
      · exact absurd (digits 44 (mem_append_left _ inBefore)) (by decide)
      · rcases mem_cons.mp inAfter with isDash | later
        · exact absurd isDash (by decide)
        · exact absurd (digits 44 (mem_append_right _ later)) (by decide)
  constructor
  · rintro follows ⟨before, after, start, last, rfl, absent, single, kind⟩
    rcases kind with ⟨range, byte, member, notDigit⟩ | ⟨range, large⟩
    · have valid := parseRangeValue_valid.mpr ⟨before, after, rfl, absent, single, range⟩
      obtain ⟨first, second, same, written⟩ := (follows start last).mp valid
      have digits := range_digits written
      obtain ⟨rfl, rfl⟩ := split_unique absent (plain digits).1 same
      rw [digits byte member] at notDigit
      cases notDigit
    · have valid := (follows start last).mpr ⟨before, after, rfl, range⟩
      obtain ⟨first, second, same, other, -, scanned⟩ := parseRangeValue_valid.mp valid
      obtain ⟨rfl, rfl⟩ := split_unique absent other same
      exact not_range_scans range large scanned
  · intro notMisread start last
    constructor
    · intro valid
      obtain ⟨before, after, rfl, absent, single, range⟩ := parseRangeValue_valid.mp valid
      refine ⟨before, after, rfl, range_denotes range fun byte member => ?_⟩
      by_contra notDigit
      exact notMisread ⟨before, after, start, last, rfl, absent, single,
        .inl ⟨range, byte, member, Bool.eq_false_iff.mpr notDigit⟩⟩
    · rintro ⟨before, after, rfl, range⟩
      have ⟨absent, single⟩ := plain (range_digits range)
      refine parseRangeValue_valid.mpr ⟨before, after, rfl, absent, single, ?_⟩
      refine range_scans range size.toNat_lt (not_le.mp fun large => ?_)
      exact notMisread ⟨before, after, start, last, rfl, absent, single, .inr ⟨range, large⟩⟩

/-! ### What is sent -/

theorem toNat_size (file : File) : file.size.toNat = file.contents.length :=
  UInt64.toNat_ofNat_of_lt' (file.fits.trans (by decide))

variable {headers : Text}

theorem findHeaderSpan_subset {name value : Text}
    (found : findHeaderSpan name headers = some value) : value ⊆ headers := by
  unfold findHeaderSpan at found
  obtain ⟨line, isLine, rfl⟩ := map_eq_some_iff.mp found
  obtain ⟨raw, isRaw, rfl⟩ := mem_map.mp (mem_of_find?_eq_some isLine)
  intro byte member
  have inDropped := (dropWhile_suffix _).subset ((List.rdropWhile_prefix _ _).subset member)
  have inRaw := (List.takeWhile_prefix _).subset (mem_of_mem_drop inDropped)
  rw [← getline_flatten headers]
  exact mem_flatten.mpr ⟨raw, isRaw, inRaw⟩

theorem parseByteRange_eq {value : Text} (noNul : 0 ∉ headers)
    (found : findHeaderSpan rangeName headers = some value) (short : value.length < 256)
    (size : UInt64) : parseByteRange headers size = parseRangeValue value size := by
  have fits : findHeader rangeName headers 256 = some value := by
    rw [findHeader, found, filter_some, if_pos (decide_eq_true short)]
  have plain : 0 ∉ value := fun member => noNul (findHeaderSpan_subset found member)
  rw [parseByteRange, fits]
  dsimp only
  rw [cString_eq_self plain]

/-- A round of a client that keeps receiving, from a file that does not shrink. -/
def Round.Keeps (round : Round) : Prop := round.read ≠ .failed ∧ round.taken = true

def Round.reads (round : Round) : Bool :=
  match round.read with
  | .some _ => true
  | _ => false

theorem sendPart_whole {contents : Bytes} {rounds : List Round} {remaining : Nat}
    (keeps : ∀ round ∈ rounds, round.Keeps) (inside : start + remaining ≤ contents.length)
    (enough : remaining ≤ rounds.countP Round.reads) :
    sendPart contents rounds start remaining = ((contents.drop start).take remaining, true) := by
  induction rounds generalizing start remaining with
  | nil =>
    obtain rfl : remaining = 0 := Nat.le_zero.mp enough
    rfl
  | cons round rest hypothesis =>
    have ⟨⟨works, takes⟩, keepsRest⟩ := forall_mem_cons.mp keeps
    unfold sendPart
    by_cases done : remaining = 0
    · rw [if_pos done, done, take_zero]
    rw [if_neg done]
    cases isRead : round.read with
    | failed => exact absurd isRead works
    | interrupted =>
      rw [countP_cons_of_neg (by rw [Round.reads, isRead]; decide)] at enough
      exact hypothesis keepsRest inside enough
    | some more =>
      rw [countP_cons_of_pos (by rw [Round.reads, isRead])] at enough
      dsimp only
      have count : ((contents.drop start).take (min (more + 1) (min remaining 65536))).length =
          min (more + 1) (min remaining 65536) := by
        rw [length_take, length_drop]
        omega
      have some : (contents.drop start).take (min (more + 1) (min remaining 65536)) ≠ [] := by
        intro empty
        rw [empty] at count
        simp only [length_nil] at count
        omega
      have goesOn : ¬ ((contents.drop start).take (min (more + 1) (min remaining 65536)) = [] ∨
          round.taken = false) := by
        rw [takes]
        exact not_or.mpr ⟨some, Bool.noConfusion⟩
      rw [if_neg goesOn, count]
      have later := @hypothesis (start + min (more + 1) (min remaining 65536))
        (remaining - min (more + 1) (min remaining 65536)) keepsRest (by omega) (by omega)
      rw [later, ← drop_drop]
      congr 1
      conv_rhs => rw [← Nat.add_sub_cancel' (show min (more + 1) (min remaining 65536) ≤ remaining
        by omega), take_add]

theorem length_safeDownloadName (base : Text) : (safeDownloadName base).length ≤ 255 := by
  unfold safeDownloadName
  dsimp only
  split
  · decide
  · rw [length_map, length_take]
    exact Nat.min_le_left _ _

theorem length_disposition (labels : Labels) : (disposition labels).length ≤ 320 := by
  have name := length_safeDownloadName labels.base
  have kind : (if labels.download then bytes "attachment" else bytes "inline").length ≤ 10 := by
    cases labels.download <;> decide
  have texts : (bytes "Content-Disposition: ").length = 21 ∧
      (bytes "; filename=\"").length = 12 ∧ (bytes "\"\r\n").length = 3 := by
    decide
  unfold disposition
  simp only [length_append, texts.1, texts.2.1, texts.2.2]
  omega

theorem length_partialHeader (labels : Labels) {remaining start last size : Nat}
    (few : remaining < 10 ^ 20) (first : start < 10 ^ 20) (second : last < 10 ^ 20)
    (whole : size < 10 ^ 20) : (partialHeader labels remaining start last size).length < 4096 := by
  have named := labels.short
  have disposed := length_disposition labels
  have digits := length_printNat_le (by decide) few
  have firstDigits := length_printNat_le (by decide) first
  have lastDigits := length_printNat_le (by decide) second
  have wholeDigits := length_printNat_le (by decide) whole
  have texts : (bytes "HTTP/1.1 206 Partial Content\r\nServer: ").length = 38 ∧
      (bytes "\r\nContent-Type: ").length = 16 ∧ (bytes "\r\nContent-Length: ").length = 18 ∧
      (bytes "\r\nContent-Range: bytes ").length = 23 ∧ (bytes "-").length = 1 ∧
      (bytes "/").length = 1 ∧ (bytes "\r\nAccept-Ranges: bytes\r\n").length = 24 := by
    decide
  have ending : closing.length = 79 := by decide
  unfold partialHeader
  simp only [length_append, texts.1, texts.2.1, texts.2.2.1, texts.2.2.2.1, texts.2.2.2.2.1,
    texts.2.2.2.2.2.1, texts.2.2.2.2.2.2, ending]
  omega

/-! ### Ranges of a file -/

/-- The ranges of the file, and no others, are valid; and what is announced and sent is the part of
the file from the first byte to the last one, by a loop that the file and the client let finish. -/
structure FollowsRfc (headers value : Text) (file : File) : Prop where
  valid : ∀ start last, parseByteRange headers file.size = .valid start last ↔
    Designates value file.contents.length start last
  within : ∀ start last, parseByteRange headers file.size = .valid start last →
    start ≤ last ∧ last < file.contents.length
  announced : ∀ labels start last, parseByteRange headers file.size = .valid start last →
    sendFileResponse headers true labels file true [] =
      (partialHeader labels (last - start + 1) start last file.contents.length, true)
  sent : ∀ labels rounds start last, parseByteRange headers file.size = .valid start last →
    (∀ round ∈ rounds, round.Keeps) → last - start + 1 ≤ rounds.countP Round.reads →
    sendFileResponse headers false labels file true rounds =
      (partialHeader labels (last - start + 1) start last file.contents.length ++
        (file.contents.drop start).take (last - start + 1), true)

/-- A response with a part of the file. -/
theorem sendFileResponse_valid {file : File}
    (valid : parseByteRange headers file.size = .valid start last)
    (within : start ≤ last ∧ last < file.contents.length) (head : Bool) (labels : Labels)
    (rounds : List Round) :
    sendFileResponse headers head labels file true rounds =
      if head then (partialHeader labels (last - start + 1) start last file.contents.length, true)
      else
        (partialHeader labels (last - start + 1) start last file.contents.length ++
            (sendPart file.contents rounds start (last - start + 1)).1,
          (sendPart file.contents rounds start (last - start + 1)).2) := by
  have fits := file.fits
  have short := @length_partialHeader labels (last - start + 1) start last file.contents.length
    (by omega) (by omega) (by omega) (by omega)
  have some : file.contents.length ≠ 0 := by omega
  have sends : ¬ (4096 ≤
      (partialHeader labels (last - start + 1) start last file.contents.length).length ∨
        true = false) := by
    simp only [Bool.true_eq_false, or_false, not_le]
    exact short
  unfold sendFileResponse
  rw [valid, toNat_size]
  dsimp only
  rw [if_neg some, if_neg sends]

/-- What is valid is within the file and is sent, however its numbers are written. -/
theorem follows_of_valid {value : Text} {file : File}
    (valid : ∀ start last, parseByteRange headers file.size = .valid start last ↔
      Designates value file.contents.length start last) : FollowsRfc headers value file := by
  have within (start last : Nat) (isValid : parseByteRange headers file.size = .valid start last) :
      start ≤ last ∧ last < file.contents.length := by
    obtain ⟨_, _, _, range⟩ := (valid start last).mp isValid
    exact range.within
  exact
    { valid
      within
      announced := fun labels start last isValid =>
        sendFileResponse_valid isValid (within start last isValid) true labels []
      sent := fun labels rounds start last isValid keeps enough => by
        have inside := within start last isValid
        rw [sendFileResponse_valid isValid inside false labels rounds,
          sendPart_whole keeps (by omega) enough]
        rfl }

/-- For every value of the range that fits its buffer, and every file. The headers of a request that
the server has received have no NUL (`Accepts.noNul`). -/
theorem byteRange_follows_iff {headers value : Text} (noNul : 0 ∉ headers)
    (found : findHeaderSpan rangeName headers = some value) (short : value.length < 256)
    (file : File) :
    FollowsRfc headers value file ↔ ¬ Misread value file.contents.length := by
  have designates := @parseRangeValue_designates value file.size
  rw [toNat_size] at designates
  rw [← designates]
  simp only [← parseByteRange_eq noNul found short file.size]
  exact ⟨FollowsRfc.valid, follows_of_valid⟩

def tenBytes : File := { contents := List.replicate 10 120, fits := by decide }

/-- The headers of a request for a part of a file. -/
def rangeHeaders (value : Text) : Text :=
  bytes "GET /file HTTP/1.1\r\nRange: " ++ value ++ bytes "\r\n\r\n"

theorem byteRange_follows_closed :
    0 ∉ rangeHeaders (bytes "bytes=2-5") ∧
      (FollowsRfc (rangeHeaders (bytes "bytes=2-5")) (bytes "bytes=2-5") tenBytes ↔
        ¬ Misread (bytes "bytes=2-5") tenBytes.contents.length) :=
  ⟨by decide, byteRange_follows_iff (by decide) (by decide) (by decide) tenBytes⟩

/-- A negative last byte is read as a very large one. -/
theorem negative_last_valid :
    findHeaderSpan rangeName (rangeHeaders (bytes "bytes=5--1")) = some (bytes "bytes=5--1") ∧
      parseByteRange (rangeHeaders (bytes "bytes=5--1")) tenBytes.size = .valid 5 9 ∧
      ¬ FollowsRfc (rangeHeaders (bytes "bytes=5--1")) (bytes "bytes=5--1") tenBytes := by
  have valid : parseByteRange (rangeHeaders (bytes "bytes=5--1")) tenBytes.size = .valid 5 9 := by
    decide
  refine ⟨by decide, valid, fun follows => ?_⟩
  obtain ⟨before, after, same, range⟩ := (follows.valid 5 9).mp valid
  have digits := range_digits range
  have absent : 45 ∉ before := fun member =>
    absurd (digits 45 (List.mem_append_left _ member)) (by decide)
  obtain ⟨-, rfl⟩ := @split_unique [53] [45, 49] before after (by decide) absent same
  exact absurd (digits 45 (List.mem_append_right _ List.mem_cons_self)) (by decide)

end HttpRequest
