/-
This file models the telemetry of a video frame: which NAL units are pictures, and the SEI unit
that carries the telemetry text, with a byte put in wherever the text would look like a start
code.
-/

import CameraGimbal.SupportVideo

namespace VideoMetadata

open SupportVideo

/-! ### NAL units -/

/-- `CA_VIDEO_METADATA_JSON_MAX`. -/
def jsonMax : Nat := 1024

/-- `CA_VIDEO_METADATA_SEI_MAX`. -/
def seiMax : Nat := 1600

/-- `ca_video_nal_is_vcl`. -/
def videoNalIsVcl (codec : Codec) (header : UInt8) : Bool :=
  match codec with
  | .h264 => 1 ≤ unitType codec header && unitType codec header ≤ 5
  | .h265 => unitType codec header ≤ 31

/-! ### The SEI unit -/

/-- `ca_video_metadata_uuid`. -/
def uuid : Bytes :=
  [0x8d, 0x64, 0x6b, 0x4e, 0x55, 0x6f, 0x4a, 0x90, 0x8b, 0x7c, 0x35, 0xe6, 0x29, 0x51, 0x03, 0x21]

/-- The size of a payload: as many bytes of 255 as fit into it, and what is left. -/
def payloadSize (payload : Nat) : Bytes :=
  List.replicate (payload / 255) 255 ++ [UInt8.ofNat (payload % 255)]

/-- The message in front of the emulation prevention. -/
def rbsp (json : Bytes) : Bytes :=
  5 :: (payloadSize (uuid.length + json.length) ++ uuid ++ json ++ [0x80])

/-- The loop that copies the message behind what is written, with the number of zeros that were
written last. -/
def escape (capacity : Nat) (written : Bytes) (zeros : Nat) :
    Bytes → Option Bytes
  | [] => some written
  | byte :: rest =>
    let prevented := zeros = 2 ∧ byte ≤ 3
    let before := if prevented then written ++ [3] else written
    let zerosBefore := if prevented then 0 else zeros
    if (prevented ∧ written.length = capacity) ∨ before.length = capacity then none
    else escape capacity (before ++ [byte]) (if byte = 0 then zerosBefore + 1 else 0) rest

def seiHeader (codec : Codec) : Bytes :=
  match codec with
  | .h264 => [0, 0, 0, 1, 6]
  | .h265 => [0, 0, 0, 1, 78, 1]

/-- `ca_video_metadata_sei`. -/
def videoMetadataSei (codec : Codec) (json : Bytes) (capacity : Nat) :
    Option Bytes :=
  if json.length = 0 ∨ jsonMax ≤ json.length ∨ capacity < 6 then none
  else escape capacity (seiHeader codec) 0 (rbsp json)

end VideoMetadata
