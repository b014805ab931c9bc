import Mcs51.Clock
import Mcs51.Files

/-! # Settings

Every setting has a default. Settings that are read are checked in a fixed order, and the first one out
of range is reported.
-/

namespace Mcs51

/-- Largest code and external memory, in bytes. -/
def maxSpaceSize : Nat := 0x10000

/-- Size of upper internal RAM where there is one. -/
def upperRamSize : Nat := 128

/-- Settings of the machine, the clock, the shell and the log. -/
structure Settings where
  codeSize : Nat
  externalSize : Nat
  upperSize : Nat
  speed : Speed
  maxTicksPerFrame : UInt32
  /-- Milliseconds that the shell waits for a key per frame. -/
  frameMs : Nat
  /-- Least milliseconds between two arrow keys. -/
  arrowRepeatMs : Nat
  /-- Least milliseconds between two single steps. -/
  stepRepeatMs : Nat
  logFile : String
  logLevel : String
deriving DecidableEq, Repr

/-- Why there are no settings. -/
inductive SettingsError
  | unreadable (path : String) (cause : FileError)
  /-- The text is not TOML, or a setting has the wrong type. -/
  | malformed
  /-- A memory of a size that the address bus does not reach. -/
  | spaceSize (field : String) (size : Nat)
  | upperSize (size : Nat)
  | zero (field : String)
deriving DecidableEq, Repr

def SettingsError.message : SettingsError → String
  | unreadable path cause => "failed to read config from " ++ path ++ ": " ++ cause.message
  | malformed => "invalid config: ..."
  | spaceSize field size => s!"invalid value for {field}: {size} is outside 1..={maxSpaceSize}"
  | upperSize size => s!"invalid value for machine.upper_size: {size} must be 0 or {upperRamSize}"
  | zero field => s!"invalid value for {field}: must be at least 1"

namespace Settings

/-- The settings of an empty file. -/
def default : Settings where
  codeSize := maxSpaceSize
  externalSize := maxSpaceSize
  upperSize := upperRamSize
  speed := .middle
  maxTicksPerFrame := 20000
  frameMs := 16
  arrowRepeatMs := 100
  stepRepeatMs := 500
  logFile := "emu51dbg.log"
  logLevel := "info"

/-- Whether a size is one that the address bus reaches. -/
def isSpaceSize (size : Nat) : Bool :=
  0 < size && size ≤ maxSpaceSize

/-- The first setting that is out of range. -/
def fault? (s : Settings) : Option SettingsError :=
  if !isSpaceSize s.codeSize then some (.spaceSize "machine.code_size" s.codeSize)
  else if !isSpaceSize s.externalSize then some (.spaceSize "machine.external_size" s.externalSize)
  else if s.upperSize ≠ 0 ∧ s.upperSize ≠ upperRamSize then some (.upperSize s.upperSize)
  else if s.maxTicksPerFrame = 0 then some (.zero "clock.max_ticks_per_frame")
  else if s.frameMs = 0 then some (.zero "ui.frame_ms")
  else none

end Settings

end Mcs51
