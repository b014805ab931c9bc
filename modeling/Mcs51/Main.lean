import Mcs51.Shell.Panes
import Mcs51.Startup.Launch

/-! # The program

`main` launches a console from the command line. It is then driven from standard input: every character
is a key press, and after every line the shell is printed. The program ends with the quit key or with the
input.
-/

namespace Mcs51

/-- Why the operating system refused a file. -/
def FileError.ofSystem (e : IO.Error) : FileError :=
  match e with
  | .noFileOrDirectory .. => .notFound
  | .permissionDenied .. => .permissionDenied
  | .inappropriateType _ _ details =>
    if details.toLower = "is a directory" then .isADirectory else .notADirectory
  | .invalidArgument _ _ details => if details = "name too long" then .nameTooLong else .nulInPath
  | e => .other (toString e)

/-- The files of the operating system. -/
def FileAccess.system : FileAccess IO where
  read path := do
    match ← (IO.FS.readBinFile path).toBaseIO with
    | .error e => return .error (.ofSystem e)
    | .ok content =>
      match String.fromUTF8? content with
      | some text => return .ok text
      | none => return .error .notText
  create path := do
    match ← (IO.FS.Handle.mk path .write).toBaseIO with
    | .error e => return .error (.ofSystem e)
    | .ok _ => return .ok ()

/-- The key that a character of standard input stands for. -/
def Key.ofChar (c : Char) : Key :=
  if c = '\n' then .enter
  else if c = '\t' then .tab
  else if c = '\x1b' then .escape
  else .char c

/-- Press the keys of a line one after the other, with a frame behind each. -/
def App.type (app : App) (nowMs : Nat) (line : String) : App :=
  line.toList.foldl (fun app c =>
    (app.handleKey ⟨Key.ofChar c, false⟩ nowMs).frame (.ofParts 0 (nowMs * 1000000))) app

/-- The shell as lines of text. -/
def App.lines (app : App) : List String :=
  match app.draw? (Buffer.blank Pane.width (Pane.height + 1)) with
  | none => []
  | some b => (List.range b.height).map fun y => String.join ((b.shown.row y).map (·.symbol))

/-- Read lines of key presses until the application quits or the input ends. -/
partial def interact (app : App) : IO Unit := do
  for row in app.lines do
    IO.println row
  if app.quit then return
  let line ← (← IO.getStdin).getLine
  if line.isEmpty then return
  interact (app.type (← IO.monoMsNow) line)

/-- Launch a console and drive it. -/
def run (arguments : List String) : IO UInt32 := do
  let launch ← Launch.run FileAccess.system arguments
  for message in launch.messages do
    IO.eprintln message
  match launch.console with
  | none => return 1
  | some (console, settings) =>
    let app := App.new console settings.arrowRepeatMs settings.stepRepeatMs
    interact (app.frame (.ofParts 0 ((← IO.monoMsNow) * 1000000)))
    return 0

end Mcs51

def main (arguments : List String) : IO UInt32 :=
  Mcs51.run arguments
