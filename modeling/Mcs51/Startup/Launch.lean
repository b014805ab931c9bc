import Mcs51.Console.Basic
import Mcs51.Settings.Read
import Mcs51.Startup.Arguments
import Mcs51.Startup.LogFilter

/-! # Launch

From the command line to a console: read the arguments, the settings and the program, in this order, and
stop with a message at the first one that fails. A log that cannot be set up is only warned about.
-/

namespace Mcs51

def programName : String := "emu51dbg"

/-- What a launch printed, and the console with its settings unless the launch failed. -/
structure Launch where
  messages : List String
  console : Option (Console × Settings)

namespace Launch

def failed (messages : List String) : Launch :=
  ⟨messages, none⟩

def usage : String :=
  "Usage: " ++ programName ++ " [program.hex] [--config file.toml]"

/-- The settings of a command line: those of its settings file, or the defaults. -/
def settings {m : Type → Type} [Monad m] (files : FileAccess m) (config : Option String) :
    m (Except SettingsError Settings) := do
  match config with
  | none => return .ok Settings.default
  | some path =>
    match ← files.read path with
    | .error cause => return .error (.unreadable path cause)
    | .ok text => return Settings.ofText text

/-- Load a program into a machine: the message about it, and the machine unless loading failed. -/
def load {m : Type → Type} [Monad m] (files : FileAccess m) (machine : Machine) (path : String) :
    m (String × Option Machine) := do
  match ← files.read path with
  | .error cause => return ("Error loading " ++ path ++ ": " ++ cause.message, none)
  | .ok text =>
    match machine.loadHex text with
    | .error cause => return ("Error loading " ++ path ++ ": " ++ cause.message, none)
    | .ok (count, machine) => return (s!"Loaded {count} bytes from " ++ path, some machine)

/-- Open the log: the warnings about the file, or else those about the log level. -/
def openLog {m : Type → Type} [Monad m] (files : FileAccess m) (path level : String) : m (List String) := do
  match ← files.create path with
  | .ok () => return LogFilter.warnings level
  | .error cause =>
    return ["Warning: cannot open log file " ++ path ++ ": " ++ cause.message]

/-- Launch a console. -/
def run {m : Type → Type} [Monad m] (files : FileAccess m) (arguments : List String) : m Launch := do
  match Arguments.parse arguments with
  | .error e => return failed ["Error: " ++ e.message, "", usage]
  | .ok arguments =>
    match ← settings files arguments.config with
    | .error e => return failed ["Config error: " ++ e.message]
    | .ok s =>
      let warnings ← openLog files s.logFile s.logLevel
      let machine := Machine.new s.codeSize s.externalSize s.upperSize
      let console (machine : Machine) := (Console.new machine (Clock.new s.speed s.maxTicksPerFrame), s)
      match arguments.program with
      | none => return ⟨warnings, some (console machine)⟩
      | some path =>
        let (message, loaded) ← load files machine path
        return ⟨warnings ++ [message], loaded.map console⟩

end Launch

end Mcs51
