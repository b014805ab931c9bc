import Mcs51.Console.Frames
import Mcs51.Settings.Basic
import Mcs51.Shell.Keys

/-! # The application

The console with its keyboard. Arrow keys and single steps are held back when they repeat too fast.
-/

namespace Mcs51

/-- The application. -/
structure App where
  console : Console
  quit : Bool
  arrows : Debounce
  steps : Debounce

namespace App

/-- An application around a console. -/
def new (console : Console) (arrowRepeatMs stepRepeatMs : Nat) : App where
  console := console
  quit := false
  arrows := Debounce.new arrowRepeatMs
  steps := Debounce.new stepRepeatMs

/-- Whether a key is accepted at a time in milliseconds. -/
def accept (app : App) (key : Key) (now : Nat) : Bool × App :=
  match key with
  | .left | .right | .up | .down =>
    let (accepted, arrows) := app.arrows.accept now
    (accepted, { app with arrows })
  | .char ' ' =>
    let (accepted, steps) := app.steps.accept now
    (accepted, { app with steps })
  | _ => (true, app)

/-- Handle a key press at a time in milliseconds. -/
def handleKey (app : App) (press : KeyPress) (now : Nat) : App :=
  match press.input? with
  | none => app
  | some .quit => { app with quit := true }
  | some (.control code) => { app with console := app.console.printControl code }
  | some (.byte b) =>
    let (accepted, app) := app.accept press.key now
    if accepted then { app with console := app.console.push b } else app

/-- One frame: deliver the clock ticks that are due, then draw and respond. -/
def frame (app : App) (now : Duration) : App :=
  { app with console := (app.console.runClock now).2.tick now.seconds }

end App

end Mcs51
