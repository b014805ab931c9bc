import Mcs51.Proofs.Screen.Transcript

/-! # Printing paints like drawing

A session is a screen beside a capture of lines. What is printed goes to both, what is drawn only to the screen:
after a printed text the screen is as after the same text drawn raw, and the two sessions differ in the capture
of lines alone (`print_paints`).
-/

namespace Mcs51

namespace Session

open Codepage

def withCapture (s : Session) (v : Capture) : Session :=
  { s with capturing := v.capturing, captured := v.captured, lineReady := v.lineReady }

/-- A control code is drawn as its byte, and otherwise concerns the capture of lines only. -/
theorem printControl_eq (s : Session) (code : Control) :
    s.printControl code = (s.put code.byte).withCapture (s.printControl code).toCapture := by
  cases code with
  | lineFeed =>
    unfold printControl endLine
    cases s.capturing <;> rfl
  | _ => rfl

/-- A character is drawn as its byte, also one that acts as STX or as a line feed. -/
theorem printChar_eq (s : Session) (c : Char) :
    s.printChar c = (s.put (encodeChar c)).withCapture (s.printChar c).toCapture := by
  unfold printChar
  dsimp only
  split
  case isTrue stx =>
    rw [stx]
    exact s.printControl_eq .stx
  case isFalse =>
    split
    case isTrue lineFeed =>
      rw [lineFeed]
      exact s.printControl_eq .lineFeed
    case isFalse => split <;> rfl

/-- Printed text is drawn as its bytes, and otherwise concerns the capture of lines only. -/
theorem print_eq (s : Session) (text : String) :
    s.print text = (s.writeBytes (encode text)).withCapture (s.print text).toCapture := by
  unfold print encode
  generalize text.toList = chars
  induction chars generalizing s with
  | nil => rfl
  | cons c rest ih =>
    have drawn (v : Capture) : ((s.printChar c).writeBytes (rest.map encodeChar)).withCapture v =
        (s.writeBytes ((c :: rest).map encodeChar)).withCapture v := by
      rw [printChar_eq]
      rfl
    rw [List.foldl_cons, ← drawn]
    exact ih (s.printChar c)

/-- Text is drawn character by character. -/
theorem writeText_eq_foldl (s : Session) (text : String) :
    s.writeText text = text.toList.foldl (fun s c => s.put (encodeChar c)) s := by
  unfold writeText encode
  generalize text.toList = chars
  induction chars generalizing s with
  | nil => rfl
  | cons c rest ih =>
    rw [List.foldl_cons, ← ih]
    rfl

/-- A printed text, the text drawn character by character and its bytes drawn at once leave the same screen. Printing
changes nothing else but the capture of lines, which drawing leaves alone. -/
theorem print_paints (s : Session) (text : String) :
    ((s.print text).grid = (s.writeText text).grid ∧
      (s.print text).grid = (s.writeBytes (encode text)).grid ∧
      (s.print text).grid = (text.toList.foldl (fun s c => s.put (encodeChar c)) s).grid) ∧
    s.print text = (s.writeText text).withCapture (s.print text).toCapture ∧
    s.writeText text = s.writeBytes (encode text) ∧
    (s.writeText text).toCapture = s.toCapture ∧
    ∀ bytes, (s.writeBytes bytes).toCapture = s.toCapture := by
  have painted : (s.print text).grid = (s.writeBytes (encode text)).grid := by
    rw [print_eq]
    rfl
  refine ⟨⟨painted, painted, ?_⟩, s.print_eq text, rfl, rfl, fun _ => rfl⟩
  rw [painted, ← s.writeText_eq_foldl text]
  rfl

end Session

end Mcs51
