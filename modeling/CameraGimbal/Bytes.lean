/-
This file names the strings of bytes that frames, files and media are read and written as.
-/

import Mathlib.Init

/-- A string of bytes. -/
abbrev Bytes := List UInt8
