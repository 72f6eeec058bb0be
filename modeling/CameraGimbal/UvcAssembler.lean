/-
This file models the assembler of the thermal camera: the payloads of the USB transfers are put
together to frames in one buffer. A frame ends at a payload with the flag for it, or where the frame
identifier toggles; it is delivered when it has filled the buffer.
-/

import CameraGimbal.Bytes
import Mathlib.Data.List.Basic

namespace UvcAssembler

/-- `CA_MT11_THERMAL_WIDTH`. -/
def thermalWidth : Nat := 640

/-- `CA_MT11_THERMAL_HEIGHT`. -/
def thermalHeight : Nat := 512

/-- `CA_MT11_THERMAL_FRAME_BYTES`. -/
def frameBytes : Nat := thermalWidth * thermalHeight * 4

inductive Errno where
  | invalid
  | protocol
  | transfer
  | messageSize
  deriving DecidableEq, Repr

/-- What the callback is given: the frame, the part of it behind the picture that is displayed, and
when the last payload was received. -/
structure Delivered (Time : Type) where
  frame : Bytes
  radiometric : Bytes
  receivedAt : Time

/-- `struct ca_mt11_uvc_assembler`, with what the callback was given. The frame identifier is none
for -1, and the time is none as long as there is none. -/
structure Assembler (Time : Type) where
  frame : Bytes
  used : Nat
  fid : Option UInt8
  lastReceivedAt : Option Time
  delivered : List (Delivered Time)

variable {Time : Type}

/-- `ca_mt11_uvc_assembler_init`, with what is in the memory for the frame. -/
def init (memory : Vector UInt8 frameBytes) : Assembler Time :=
  { frame := memory.toList, used := 0, fid := none, lastReceivedAt := none, delivered := [] }

def Assembler.deliverFrame (assembler : Assembler Time) : Assembler Time :=
  let delivered := match assembler.lastReceivedAt with
    | some receivedAt =>
      if assembler.used = frameBytes then
        [{ frame := assembler.frame
           radiometric := assembler.frame.drop (thermalWidth * thermalHeight * 2)
           receivedAt }]
      else []
    | none => []
  { assembler with used := 0, delivered := assembler.delivered ++ delivered }

/-- The `memcpy` behind what is used. -/
def Assembler.append (assembler : Assembler Time) (data : Bytes) : Assembler Time :=
  { assembler with
    frame := assembler.frame.take assembler.used ++ data ++
      assembler.frame.drop (assembler.used + data.length)
    used := assembler.used + data.length }

/-- Where the identifier toggles, what there is of the frame before is a frame of its own. -/
def Assembler.toggle (assembler : Assembler Time) (fid : UInt8) (receivedAt : Time) :
    Assembler Time :=
  let settled :=
    if assembler.fid ≠ none ∧ some fid ≠ assembler.fid ∧ assembler.used ≠ 0 then
      assembler.deliverFrame
    else assembler
  { settled with fid := some fid, lastReceivedAt := some receivedAt }

/-- The data goes into the buffer, and the frame is delivered at its end. -/
def Assembler.accept (assembler : Assembler Time) (flags : UInt8) (data : Bytes) :
    Assembler Time × Option Errno :=
  if frameBytes - assembler.used < data.length then
    ({ assembler with used := 0 }, some .messageSize)
  else
    let grown := assembler.append data
    (if flags &&& 0x02 ≠ 0 then grown.deliverFrame else grown, none)

/-- `ca_mt11_uvc_assembler_consume`, for pointers that are not null: the assembler, and the error
when there is one. -/
def Assembler.consume (assembler : Assembler Time) (payload : Bytes) (receivedAt : Time) :
    Assembler Time × Option Errno :=
  if payload.length < 2 then (assembler, some .invalid)
  else
    let headerLength := (payload.getD 0 0).toNat
    let flags := payload.getD 1 0
    if headerLength < 2 ∨ payload.length < headerLength then (assembler, some .protocol)
    else if flags &&& 0x40 ≠ 0 then ({ assembler with used := 0 }, some .transfer)
    else (assembler.toggle (flags &&& 1) receivedAt).accept flags (payload.drop headerLength)

/-- The payloads one after another, each with the time at which it was received. -/
def Assembler.run (assembler : Assembler Time) (payloads : List (Bytes × Time)) :
    Assembler Time :=
  payloads.foldl (fun assembler payload => (assembler.consume payload.1 payload.2).1) assembler

end UvcAssembler
