import Mcs51.Settings.Basic
import Mcs51.Settings.Toml.Document

/-! # Reading settings

A settings file has the sections `machine`, `clock`, `ui` and `log`. A section is a table of fields; it
may also be an array that lists the fields in order. Unknown sections and fields are ignored and missing
ones keep their defaults.
-/

namespace Mcs51

open Toml

/-- The fields of a section, by position and name. -/
abbrev Section := Nat → String → Option Value

/-- The fields that a value holds as a section. A date-time holds none of them. -/
def Section.ofValue? : Value → Option Section
  | .table _ entries => some fun _ name => entries.lookup name
  | .array items => some fun index _ => items[index]?
  | .tables newestFirst => some fun index _ => newestFirst.reverse[index]?.map (.table .header)
  | .dateTime => some fun _ _ => none
  | _ => none

/-- A section of the root table; one that is missing has no fields. -/
def section? (root : Entries) (name : String) : Option Section :=
  match root.lookup name with
  | none => some fun _ _ => none
  | some value => Section.ofValue? value

/-- Sizes and times are numbers of 64 bits. -/
def sizeBound : Nat := 0x10000000000000000

/-- Counts of ticks are numbers of 32 bits. -/
def tickBound : Nat := 0x100000000

/-- A natural number below a bound; the default if the field is missing. -/
def natField (bound default : Nat) : Option Value → Option Nat
  | none => some default
  | some (.integer n) => if 0 ≤ n ∧ n < bound then some n.toNat else none
  | some _ => none

/-- A text; the default if the field is missing. -/
def textField (default : String) : Option Value → Option String
  | none => some default
  | some (.string text) => some text
  | some _ => none

/-- Whether a value is an empty table or array. -/
def isEmptyValue : Value → Bool
  | .table _ entries => entries.isEmpty
  | .array items => items.isEmpty
  | _ => false

/-- A clock rate: its name, or a table whose only key is its name with nothing in it. -/
def speedField (default : Speed) : Option Value → Option Speed
  | none => some default
  | some (.string name) => Speed.ofName? name
  | some (.table _ [(name, value)]) => if isEmptyValue value then Speed.ofName? name else none
  | some _ => none

namespace Settings

/-- Take the settings out of a root table. -/
def ofEntries? (root : Entries) : Option Settings := do
  let machine ← section? root "machine"
  let clock ← section? root "clock"
  let ui ← section? root "ui"
  let log ← section? root "log"
  return {
    codeSize := ← natField sizeBound default.codeSize (machine 0 "code_size")
    externalSize := ← natField sizeBound default.externalSize (machine 1 "external_size")
    upperSize := ← natField sizeBound default.upperSize (machine 2 "upper_size")
    speed := ← speedField default.speed (clock 0 "speed")
    maxTicksPerFrame := UInt32.ofNat
      (← natField tickBound default.maxTicksPerFrame.toNat (clock 1 "max_ticks_per_frame"))
    frameMs := ← natField sizeBound default.frameMs (ui 0 "frame_ms")
    arrowRepeatMs := ← natField sizeBound default.arrowRepeatMs (ui 1 "arrow_repeat_ms")
    stepRepeatMs := ← natField sizeBound default.stepRepeatMs (ui 2 "step_repeat_ms")
    logFile := ← textField default.logFile (log 0 "file")
    logLevel := ← textField default.logLevel (log 1 "level") }

/-- Read the text of a settings file. -/
def ofText (text : String) : Except SettingsError Settings :=
  match (Toml.parse text).bind ofEntries? with
  | none => .error .malformed
  | some settings =>
    match settings.fault? with
    | some fault => .error fault
    | none => .ok settings

end Settings

end Mcs51
