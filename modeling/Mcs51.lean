import Mcs51.Core.Changes
import Mcs51.Main
import Mcs51.Proofs.Screen.Drawing
import Mcs51.Proofs.Text.Plain
import Mcs51.Proofs.Widget.Surface
import Mcs51.Proofs.Widget.DataGrid
import Mcs51.Proofs.Widget.Sheet
import Mcs51.Proofs.Widget.Trail
import Mcs51.Proofs.Widget.Digits
import Mcs51.Proofs.Widget.Frame
import Mcs51.Proofs.Console.Layout
import Mcs51.Proofs.Console.Refresh
import Mcs51.Proofs.Console.Chrome
import Mcs51.Proofs.Console.Repaint
import Mcs51.Proofs.Machine.FreeRun
import Mcs51.Proofs.Machine.Breakpoint
import Mcs51.Proofs.Isa.Reading
import Mcs51.Proofs.Isa.Encoding
import Mcs51.Proofs.Isa.Listing
import Mcs51.Proofs.Core.Fault
import Mcs51.Proofs.Core.Operation
import Mcs51.Proofs.Core.Totality
import Mcs51.Proofs.Console.Position
import Mcs51.Proofs.Console.Poised
import Mcs51.Proofs.Console.Frames
import Mcs51.Proofs.Console.HalfTyped
import Mcs51.Proofs.Console.Caret
import Mcs51.Proofs.Console.Store
import Mcs51.Proofs.Console.Typing
import Mcs51.Proofs.Image.Reading
import Mcs51.Proofs.Console.Capture
import Mcs51.Proofs.Image.Written
import Mcs51.Proofs.Console.Looking
import Mcs51.Proofs.Machine.Loading
import Mcs51.Proofs.Machine.Notification
import Mcs51.Proofs.Core.Footprint
import Mcs51.Proofs.Console.Readout
import Mcs51.Proofs.Console.Window
import Mcs51.Proofs.Console.Wipe
import Mcs51.Proofs.Console.Elapsed
import Mcs51.Proofs.Console.Ledger
import Mcs51.Proofs.Screen.Transcript
import Mcs51.Proofs.Image.Corruption
import Mcs51.Proofs.Console.CaptureKeys
import Mcs51.Proofs.Machine.Listing
import Mcs51.Proofs.Core.MultiByte
import Mcs51.Proofs.Core.Decimal
import Mcs51.Proofs.Core.Stack
import Mcs51.Proofs.Core.Bits
import Mcs51.Proofs.Screen.Erasing
import Mcs51.Proofs.Screen.Echo
import Mcs51.Proofs.Screen.Showing
import Mcs51.Proofs.Clock.Impulses
import Mcs51.Proofs.Text.Template
import Mcs51.Proofs.Isa.Width
import Mcs51.Proofs.Console.Disassembly
import Mcs51.Proofs.Files
import Mcs51.Proofs.Settings.Document
import Mcs51.Proofs.Settings.Checks
import Mcs51.Proofs.Startup.LogFilter
import Mcs51.Proofs.Startup.Launch
import Mcs51.Proofs.Text.Glyphs
import Mcs51.Proofs.Shell.Keyboard
import Mcs51.Proofs.Shell.Drawing
import Mcs51.Proofs.Shell.Screen
