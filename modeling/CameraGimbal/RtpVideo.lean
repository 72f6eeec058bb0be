/-
This file is a library on H.264 video in RTP packets, as a sender makes them: the header of a
packet with its optional parts, and the payloads that carry NAL units, one or several in a packet or
one in several packets.
-/

import CameraGimbal.Bytes
import Mathlib.Data.BitVec
import Mathlib.Data.List.Flatten

namespace RtpVideo

open List

/-! ### Bytes -/

theorem forall_uint8 {P : UInt8 → Prop} (holds : ∀ byte : Fin 256, P ⟨⟨byte⟩⟩) (byte : UInt8) :
    P byte :=
  holds byte.toBitVec.toFin

/-! ### Packets -/

/-- The two bytes of a number in network order. -/
def put16 (value : Nat) : Bytes :=
  [UInt8.ofNat (value / 2 ^ 8), UInt8.ofNat value]

/-- The four bytes of a number in network order. -/
def put32 (value : UInt32) : Bytes :=
  put16 (value.toNat / 2 ^ 16) ++ put16 (value.toNat % 2 ^ 16)

/-- What a packet carries beside the stream: the type and the sources, an extension of the header
and padding behind the payload. -/
structure Wrapping where
  payloadType : Fin 128
  ssrc : UInt32
  csrc : List UInt32
  extension : Option (UInt16 × List UInt32)
  padding : Option Bytes
  fewSources : csrc.length < 16
  shortExtension : ∀ part ∈ extension, part.2.length < 2 ^ 16
  shortPadding : ∀ filler ∈ padding, filler.length < 255

namespace Wrapping

variable (wrapping : Wrapping)

/-- The first byte: the version, and which optional parts there are. -/
def flags : Nat :=
  128 + (if wrapping.padding.isSome then 32 else 0) +
    (if wrapping.extension.isSome then 16 else 0) + wrapping.csrc.length

def extensionBytes : Bytes :=
  match wrapping.extension with
  | none => []
  | some (profile, words) =>
    put16 profile.toNat ++ put16 words.length ++ words.flatMap put32

/-- The padding, whose last byte is its length. -/
def paddingBytes : Bytes :=
  match wrapping.padding with
  | none => []
  | some filler => filler ++ [UInt8.ofNat (filler.length + 1)]

/-- The bytes up to the payload. -/
def headerBytes (marker : Bool) (sequence : UInt16) (timestamp : UInt32) : Bytes :=
  [UInt8.ofNat wrapping.flags,
    UInt8.ofNat ((if marker then 128 else 0) + wrapping.payloadType.val)] ++
    put16 sequence.toNat ++ put32 timestamp ++ put32 wrapping.ssrc ++
    wrapping.csrc.flatMap put32 ++ wrapping.extensionBytes

def packet (marker : Bool) (sequence : UInt16) (timestamp : UInt32) (payload : Bytes) :
    Bytes :=
  wrapping.headerBytes marker sequence timestamp ++ payload ++ wrapping.paddingBytes

end Wrapping

/-! ### NAL units -/

/-- The type of a NAL unit, read from its first byte. -/
def typeOf (header : UInt8) : UInt8 := header &&& 31

/-- A NAL unit that may be carried: a header with one of the types 1 to 23, and the rest. -/
structure Nal where
  header : UInt8
  body : Bytes
  typed : 1 ≤ typeOf header ∧ typeOf header ≤ 23

namespace Nal

variable (nal : Nal)

def bytes : Bytes := nal.header :: nal.body

/-- A slice of a picture that can be decoded by itself. -/
def isIdr : Bool := typeOf nal.header = 5

/-- The NAL unit in a byte stream, behind a start code. -/
def stream : Bytes := [0, 0, 0, 1] ++ nal.bytes

end Nal

/-- The byte stream of an access unit. -/
def streamOf (nals : List Nal) : Bytes := nals.flatMap Nal.stream

/-- A key unit holds a slice that can be decoded by itself. -/
def isKey (nals : List Nal) : Bool := nals.any Nal.isIdr

/-! ### Payloads -/

inductive Position where
  | first
  | middle
  | last
  deriving DecidableEq, Repr

/-- What a payload carries: one NAL unit, several together, or a fragment of one. -/
inductive Piece where
  | single (nal : Nal)
  | aggregate (indicator : UInt8) (nals : List Nal)
  | fragment (position : Position) (nal : Nal) (data : Bytes)

/-- The start bit or the end bit of a fragment. -/
def Position.bit : Position → UInt8
  | .first => 0x80
  | .middle => 0
  | .last => 0x40

/-- A NAL unit of an aggregate, behind its length. -/
def sized (nal : Nal) : Bytes := put16 nal.bytes.length ++ nal.bytes

namespace Piece

def payload : Piece → Bytes
  | .single nal => nal.bytes
  | .aggregate indicator nals => ((indicator &&& 0xe0) ||| 24) :: nals.flatMap sized
  | .fragment position nal data =>
    ((nal.header &&& 0xe0) ||| 28) :: (position.bit ||| typeOf nal.header) :: data

/-- What the payload adds to the byte stream. -/
def stream : Piece → Bytes
  | .single nal => nal.stream
  | .aggregate _ nals => streamOf nals
  | .fragment .first nal data => [0, 0, 0, 1] ++ nal.header :: data
  | .fragment _ _ data => data

/-- A slice that can be decoded by itself begins in the payload. -/
def startsIdr : Piece → Bool
  | .single nal => nal.isIdr
  | .aggregate _ nals => isKey nals
  | .fragment .first nal _ => nal.isIdr
  | .fragment _ _ _ => false

/-- The payload goes on with a NAL unit that has been begun. -/
def continues : Piece → Bool
  | .fragment .middle _ _ | .fragment .last _ _ => true
  | _ => false

/-- A NAL unit is not complete behind the payload. -/
def leavesOpen : Piece → Bool
  | .fragment .first _ _ | .fragment .middle _ _ => true
  | _ => false

/-- An aggregate of at least one NAL unit, each short enough for its length. -/
def Sendable : Piece → Prop
  | .aggregate _ nals => nals ≠ [] ∧ ∀ nal ∈ nals, nal.bytes.length < 2 ^ 16
  | _ => True

/-- Not a fragment without data. -/
def Filled : Piece → Prop
  | .fragment _ _ data => data ≠ []
  | _ => True

end Piece

/-- The byte stream of payloads. -/
def streamOfPieces (pieces : List Piece) : Bytes := pieces.flatMap Piece.stream

/-! ### Access units -/

/-- The payloads that carry the NAL units of an access unit. -/
inductive Packetized : List Nal → List Piece → Prop where
  | nil : Packetized [] []
  | single (nal : Nal) {nals : List Nal} {pieces : List Piece} (rest : Packetized nals pieces) :
    Packetized (nal :: nals) (.single nal :: pieces)
  | aggregate (indicator : UInt8) (together : List Nal) {nals : List Nal} {pieces : List Piece}
    (sendable : Piece.Sendable (.aggregate indicator together)) (rest : Packetized nals pieces) :
    Packetized (together ++ nals) (.aggregate indicator together :: pieces)
  | fragments (nal : Nal) (first : Bytes) (middle : List Bytes) (last : Bytes)
    {nals : List Nal} {pieces : List Piece} (cut : nal.body = first ++ middle.flatten ++ last)
    (rest : Packetized nals pieces) :
    Packetized (nal :: nals)
      (.fragment .first nal first ::
        (middle.map (.fragment .middle nal) ++ .fragment .last nal last :: pieces))

/-- Payloads that follow one another, when a NAL unit is open or not. -/
def Follow : Bool → List Piece → Prop
  | isOpen, [] => isOpen = false
  | isOpen, piece :: later =>
    piece.continues = isOpen ∧ piece.Sendable ∧ Follow piece.leavesOpen later

theorem Follow.later {isOpen : Bool} {before : List Piece} {first : Piece} {later : List Piece}
    (follow : Follow isOpen (before ++ first :: later)) :
    Follow first.continues (first :: later) := by
  induction before generalizing isOpen with
  | nil => exact ⟨rfl, follow.2⟩
  | cons piece before hypothesis => exact hypothesis follow.2.2

theorem follow_middle (nal : Nal) {later : List Piece} (follow : Follow true later)
    (middle : List Bytes) : Follow true (middle.map (.fragment .middle nal) ++ later) := by
  induction middle with
  | nil => exact follow
  | cons data rest hypothesis => exact ⟨rfl, trivial, hypothesis⟩

theorem stream_middle (nal : Nal) (middle : List Bytes) :
    streamOfPieces (middle.map (.fragment .middle nal)) = middle.flatten := by
  induction middle with
  | nil => rfl
  | cons data rest hypothesis =>
    exact congrArg (data ++ ·) hypothesis

theorem idr_middle (nal : Nal) (middle : List Bytes) :
    (middle.map (Piece.fragment .middle nal)).any Piece.startsIdr = false := by
  induction middle with
  | nil => rfl
  | cons data rest hypothesis => exact hypothesis

variable {nals : List Nal} {pieces : List Piece}

theorem Packetized.follow (packetized : Packetized nals pieces) : Follow false pieces := by
  induction packetized with
  | nil => rfl
  | single nal _ hypothesis => exact ⟨rfl, trivial, hypothesis⟩
  | aggregate indicator together sendable _ hypothesis =>
    exact ⟨rfl, sendable, hypothesis⟩
  | @fragments nal first middle last nals pieces cut _ hypothesis =>
    have closed : Follow true (.fragment .last nal last :: pieces) := ⟨rfl, trivial, hypothesis⟩
    exact ⟨rfl, trivial, follow_middle nal closed middle⟩

theorem Packetized.stream (packetized : Packetized nals pieces) :
    streamOfPieces pieces = streamOf nals := by
  induction packetized with
  | nil => rfl
  | single nal _ hypothesis => exact congrArg (nal.stream ++ ·) hypothesis
  | aggregate indicator together _ _ hypothesis =>
    unfold streamOf
    rw [flatMap_append]
    exact congrArg (streamOf together ++ ·) hypothesis
  | @fragments nal first middle last nals pieces cut _ hypothesis =>
    have split : streamOfPieces (.fragment .first nal first ::
        (middle.map (.fragment .middle nal) ++ .fragment .last nal last :: pieces)) =
          ([0, 0, 0, 1] ++ nal.header :: first) ++
            (streamOfPieces (middle.map (.fragment .middle nal)) ++
              (last ++ streamOfPieces pieces)) := by
      unfold streamOfPieces
      rw [flatMap_cons, flatMap_append, flatMap_cons]
      rfl
    have whole : streamOf (nal :: nals) =
        ([0, 0, 0, 1] ++ nal.header :: nal.body) ++ streamOf nals := rfl
    rw [split, stream_middle, hypothesis, whole, cut]
    simp only [append_assoc, cons_append]

theorem Packetized.key (packetized : Packetized nals pieces) :
    pieces.any Piece.startsIdr = isKey nals := by
  induction packetized with
  | nil => rfl
  | single nal _ hypothesis =>
    exact congrArg (nal.isIdr || ·) hypothesis
  | aggregate indicator together _ _ hypothesis =>
    unfold isKey
    rw [any_append]
    exact congrArg (isKey together || ·) hypothesis
  | fragments nal first middle last _ _ hypothesis =>
    rw [any_cons, any_append, idr_middle, any_cons, hypothesis]
    rfl

/-- A payload in its packet, and whether the packet arrives. -/
structure Sent where
  wrapping : Wrapping
  piece : Piece
  arrives : Bool

/-- An access unit as it is sent: at least one NAL unit, and one timestamp. -/
structure AccessUnit where
  nals : List Nal
  sent : List Sent
  timestamp : UInt32
  nonempty : nals ≠ []
  packetized : Packetized nals (sent.map Sent.piece)

/-- The packets that arrive of those sent with consecutive numbers. The last one of the unit has
the marker. -/
def arriving (timestamp : UInt32) (sequence : UInt16) : List Sent → List Bytes
  | [] => []
  | sent :: later =>
    (if sent.arrives then
      [sent.wrapping.packet later.isEmpty sequence timestamp sent.piece.payload] else []) ++
      arriving timestamp (sequence + 1) later

/-- The packets that arrive of the units that are sent one after another. -/
def arrivingUnits (sequence : UInt16) : List AccessUnit → List Bytes
  | [] => []
  | unit :: later =>
    arriving unit.timestamp sequence unit.sent ++
      arrivingUnits (sequence + UInt16.ofNat unit.sent.length) later

theorem Packetized.ne_nil (packetized : Packetized nals pieces) (nonempty : nals ≠ []) :
    pieces ≠ [] := by
  rintro rfl
  cases packetized
  exact nonempty rfl

theorem AccessUnit.sent_ne_nil (unit : AccessUnit) : unit.sent ≠ [] := fun none =>
  unit.packetized.ne_nil unit.nonempty (map_eq_nil_iff.mpr none)

theorem Piece.stream_ne_nil {piece : Piece} (sendable : piece.Sendable) (filled : piece.Filled) :
    piece.stream ≠ [] := by
  cases piece with
  | single nal => exact cons_ne_nil _ _
  | aggregate indicator nals =>
    cases nals with
    | nil => exact absurd rfl sendable.1
    | cons nal rest => exact cons_ne_nil _ _
  | fragment position nal data =>
    cases position with
    | first => exact cons_ne_nil _ _
    | middle => exact filled
    | last => exact filled

theorem Piece.payload_ne_nil (piece : Piece) : piece.payload ≠ [] := by
  cases piece with
  | single nal => exact cons_ne_nil _ _
  | aggregate indicator nals => exact cons_ne_nil _ _
  | fragment position nal data => exact cons_ne_nil _ _

/-! ### Loss -/

/-- How many packets have been missing since the last one that arrived, behind some of which it is
given whether they arrive. None has arrived yet when there is no number. -/
def missing : Option Nat → List Bool → Option Nat
  | lost, [] => lost
  | lost, false :: later => missing (lost.map (· + 1)) later
  | _, true :: later => missing (some 0) later

/-- Fewer than 2^16 packets are missing between one that arrives and the next. -/
def ShortGaps : Option Nat → List Bool → Prop
  | _, [] => True
  | lost, false :: later => ShortGaps (lost.map (· + 1)) later
  | lost, true :: later => (∀ count ∈ lost, count < 2 ^ 16) ∧ ShortGaps (some 0) later

def AccessUnit.arrivals (unit : AccessUnit) : List Bool := unit.sent.map Sent.arrives

theorem gap_ne {sequence : UInt16} {count : Nat} (positive : 0 < count) (short : count < 2 ^ 16) :
    sequence + 1 + UInt16.ofNat count ≠ sequence + 1 := by
  intro same
  have zero : UInt16.ofNat count = 0 := by simpa using same
  have count_zero := congrArg UInt16.toNat zero
  rw [UInt16.toNat_ofNat', Nat.mod_eq_of_lt short] at count_zero
  exact absurd count_zero (Nat.ne_of_gt positive)

theorem missing_append (lost : Option Nat) (first later : List Bool) :
    missing lost (first ++ later) = missing (missing lost first) later := by
  induction first generalizing lost with
  | nil => rfl
  | cons arrives rest hypothesis =>
    cases arrives with
    | false => exact hypothesis _
    | true => exact hypothesis _

theorem shortGaps_append {lost : Option Nat} {first later : List Bool} :
    ShortGaps lost (first ++ later) ↔
      ShortGaps lost first ∧ ShortGaps (missing lost first) later := by
  induction first generalizing lost with
  | nil => exact ⟨fun short => ⟨trivial, short⟩, And.right⟩
  | cons arrives rest hypothesis =>
    cases arrives with
    | false => exact hypothesis
    | true => exact (and_congr_right fun _ => hypothesis).trans and_assoc.symm

end RtpVideo
