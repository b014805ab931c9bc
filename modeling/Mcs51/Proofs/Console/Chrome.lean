import Mcs51.Proofs.Console.Refresh
import Mcs51.Proofs.Widget.Frame

/-! # What stays on the screen

The frames, the key hints and the prompt cover the same rectangles whatever memory is shown and whatever
has the focus, the status message has its own place between them, and the panels and the information lines
stand inside the frames. So each of the three can be drawn again without harm to the others.
-/

namespace Mcs51

open Codepage Grid

/-! ### Labels -/

/-- A line of text at a place of the screen. -/
structure Label where
  row : Nat
  col : Nat
  text : String
deriving DecidableEq, Repr

namespace Label

def area (l : Label) : Area :=
  ⟨l.row, l.col, 1, l.text.length⟩

def picture (l : Label) : Picture :=
  ⟨⟨l.col, l.row⟩, false, [encode l.text]⟩

theorem draw_picture (l : Label) (s : Session) :
    s.draw l.picture = s.writeAt l.row l.col l.text := rfl

/-- A label inside the screen with plain text fills its rectangle. -/
theorem fills_area {l : Label} (plain : PlainText l.text) (onScreen : l.area.OnScreen) :
    l.picture.Fills l.area where
  origin := rfl
  height := rfl
  width line member := by rw [List.mem_singleton.mp member, length_encode]; rfl
  plain line member := by rw [List.mem_singleton.mp member]; exact plain.encode
  onScreen := onScreen

end Label

namespace Console

/-- The key hints for a focus, and the prompt. -/
def hintLabels (focus : Focus) : List Label :=
  [⟨25, 0, hintStep⟩, ⟨26, 0, hintMemory⟩] ++
    (if focus = .addressInput then [⟨27, 0, hintBlank⟩, ⟨28, 0, hintAddress⟩]
    else [⟨27, 0, hintInteractive⟩, ⟨28, 0, hintBlank⟩]) ++ [⟨29, 0, prompt⟩]

/-- The mark behind a status message, and the message, which ends before column 46. -/
def messageLabels : Option String → List Label
  | none => []
  | some text => [⟨28, 47, "<"⟩, ⟨28, 46 - text.length, text⟩]

def framePictures (space : Space) : List Picture :=
  (Panels.new space.title).frames.map Frame.picture

/-- What is drawn only when it changes: the frames, the key hints and the prompt. -/
def chrome (space : Space) (focus : Focus) : List Picture :=
  framePictures space ++ (hintLabels focus).map Label.picture

def messagePictures (message : Option String) : List Picture :=
  (messageLabels message).map Label.picture

/-- The panels that a refresh makes of blank ones, with the stored trails. -/
def freshPanels (c : Console) : Panels :=
  let blank := Panels.new c.space.title
  (c.refreshPanels { blank with ascii := blank.ascii.setHidden !c.panels.asciiVisible }).withTrails c.panels

/-- The information lines and the visible panels. -/
def livePictures (c : Console) : List Picture :=
  c.infoPicture :: c.panels.elements.filter fun picture => !picture.hidden

/-- The screen as it is drawn from nothing: on blanks, the frames, the hints, the message, the information
lines with the byte under the cursor, and the visible panels. -/
def freshScreen (c : Console) : Session :=
  (chrome c.space c.focus ++ messagePictures c.message ++
    { c with panels := c.freshPanels, pointedValue := c.readTarget c.pointed }.livePictures).foldl
      Session.draw Session.new

/-! ### Rectangles -/

/-- The rectangles of the frames. -/
def frameAreas : List Area :=
  [⟨0, 0, 10, 31⟩, ⟨0, 31, 16, 6⟩, ⟨10, 0, 6, 31⟩, ⟨16, 0, 8, 42⟩, ⟨0, 37, 8, 24⟩, ⟨16, 42, 8, 38⟩,
    ⟨8, 37, 8, 43⟩, ⟨0, 61, 8, 19⟩, ⟨24, 49, 6, 31⟩]

/-- The rectangles of the key hints and the prompt. -/
def hintAreas : List Area :=
  [⟨25, 0, 1, 47⟩, ⟨26, 0, 1, 47⟩, ⟨27, 0, 1, 19⟩, ⟨28, 0, 1, 19⟩, ⟨29, 0, 1, 49⟩]

/-- The rectangles of all that is drawn only when it changes. -/
def chromeAreas : List Area :=
  frameAreas ++ hintAreas

private theorem plainText_title (space : Space) : PlainText space.title := by
  cases space <;> decide

theorem frames_new (title : String) :
    (Panels.new title).frames =
      [Frame.new 0 0 title 10 31, Panels.stackFrame, Panels.stateFrame, Panels.codeFrame,
        Panels.portsFrame, Panels.registersFrame, Panels.controlFrame, Panels.statusFrame,
        Panels.asciiFrame] :=
  rfl

@[simp] theorem area_marked (f : Frame) (row : Nat) : (Panels.marked f row).area = f.area := by
  rw [Panels.marked, Frame.area_mark, Frame.area_mark]

theorem sound_marked {f : Frame} (sound : f.Sound) (row : Nat) : (Panels.marked f row).Sound :=
  (sound.mark row 0 (by decide)).mark row _ (by decide)

private theorem areas_frames (title : String) : (Panels.new title).frames.map Frame.area = frameAreas := by
  simp only [frames_new, List.map_cons, List.map_nil, Panels.stackFrame, Panels.stateFrame,
    Panels.codeFrame, Panels.portsFrame, Panels.registersFrame, Panels.controlFrame, Panels.statusFrame,
    Panels.asciiFrame,
    area_marked, Frame.area_new]
  rfl

theorem sound_frames (space : Space) : ∀ f ∈ (Panels.new space.title).frames, f.Sound := by
  simp only [frames_new, List.forall_mem_cons]
  refine ⟨Frame.sound_new (plainText_title space) (by decide),
    sound_marked (Frame.sound_new (by decide) (by decide)) 8, Frame.sound_new (by decide) (by decide),
    sound_marked (Frame.sound_new (by decide) (by decide)) 6,
    sound_marked (Frame.sound_new (by decide) (by decide)) 6,
    sound_marked (Frame.sound_new (by decide) (by decide)) 6,
    sound_marked (Frame.sound_new (by decide) (by decide)) 6,
    sound_marked (Frame.sound_new (by decide) (by decide)) 6, Frame.sound_new (by decide) (by decide), ?_⟩
  exact fun _ member => absurd member List.not_mem_nil

theorem fills_hintLabels (focus : Focus) : ∀ l ∈ hintLabels focus, l.picture.Fills l.area := by
  have sound : ∀ l ∈ hintLabels focus, PlainText l.text ∧ l.area.OnScreen := by
    cases focus <;> decide
  exact fun l member => Label.fills_area (sound l member).1 (sound l member).2

theorem areas_hintLabels (focus : Focus) : (hintLabels focus).map Label.area = hintAreas := by
  cases focus <;> decide

variable {row col : Nat}

/-- All pictures that are drawn only when something changes fill rectangles of the screen. -/
theorem allFill_chrome (space : Space) (focus : Focus) : Picture.AllFill (chrome space focus) := by
  intro p member
  rcases List.mem_append.mp member with member | member
  · obtain ⟨f, present, rfl⟩ := List.mem_map.mp member
    exact ⟨f.area, (sound_frames space f present).fills⟩
  · obtain ⟨l, present, rfl⟩ := List.mem_map.mp member
    exact ⟨l.area, fills_hintLabels focus l present⟩

/-- The frames, the hints and the prompt cover the same cells for every memory and every focus. -/
theorem isSome_chrome (space : Space) (focus : Focus) :
    (Picture.last? (chrome space focus) row col).isSome ↔ ∃ a ∈ chromeAreas, a.Has row col := by
  have frames := @Picture.isSome_last?_map row col Frame Frame.picture Frame.area _ fun f present =>
    ⟨(sound_frames space f present).fills, (sound_frames space f present).shown⟩
  have hints := @Picture.isSome_last?_map row col Label Label.picture Label.area _ fun l present =>
    ⟨fills_hintLabels focus l present, rfl⟩
  rw [areas_frames] at frames
  rw [areas_hintLabels] at hints
  rw [chrome, Picture.last?_append, Option.isSome_or, Bool.or_eq_true, hints, framePictures, frames]
  simp only [chromeAreas, List.mem_append, or_and_right, exists_or, or_comm]

/-! ### The status message -/

/-- A status message that fits between hints and character view. -/
structure Fits (text : String) : Prop where
  plain : PlainText text
  short : text.length ≤ lineMessageWidth

/-- The rectangle for status messages and the mark behind them. -/
def messageSlot : Area :=
  ⟨28, 22, 1, 26⟩

theorem messageSlot_apart : ∀ a ∈ chromeAreas, messageSlot.Apart a := by
  decide

/-- Whether a status message is absent or fits. -/
def MessageFits (message : Option String) : Prop :=
  ∀ text ∈ message, Fits text

theorem fills_messageLabels {message : Option String} (fits : MessageFits message) :
    ∀ l ∈ messageLabels message, l.picture.Fills l.area ∧ l.area.Within messageSlot := by
  cases message with
  | none => exact fun _ member => absurd member List.not_mem_nil
  | some text =>
    have short : text.length ≤ 24 := (fits text rfl).short
    intro l member
    rcases List.mem_cons.mp member with rfl | member
    · exact ⟨Label.fills_area (by decide) (by decide), by decide⟩
    · rw [List.mem_singleton.mp member]
      have inside : Label.area ⟨28, 46 - text.length, text⟩ |>.Within messageSlot := by
        simp only [Label.area, messageSlot, Area.Within]
        omega
      have onScreen : Label.area ⟨28, 46 - text.length, text⟩ |>.OnScreen := by
        simp only [Label.area, Area.OnScreen, height, width]
        omega
      exact ⟨Label.fills_area (fits text rfl).plain onScreen, inside⟩

/-- A message covers no cell outside its slot. -/
theorem message_of_outside {message : Option String} (fits : MessageFits message)
    (outside : ¬messageSlot.Has row col) : Picture.last? (messagePictures message) row col = none := by
  rw [← Option.not_isSome_iff_eq_none, messagePictures,
    Picture.isSome_last?_map fun l present => ⟨(fills_messageLabels fits l present).1, rfl⟩]
  rintro ⟨a, member, has⟩
  obtain ⟨l, present, rfl⟩ := List.mem_map.mp member
  exact outside (has.mono (fills_messageLabels fits l present).2)

theorem message_of_chrome {message : Option String} (fits : MessageFits message)
    (covered : ∃ a ∈ chromeAreas, a.Has row col) :
    Picture.last? (messagePictures message) row col = none := by
  obtain ⟨a, member, has⟩ := covered
  exact message_of_outside fits fun inside => inside.not_of_apart (messageSlot_apart a member) has

theorem allFill_message {message : Option String} (fits : MessageFits message) :
    Picture.AllFill (messagePictures message) := by
  intro p member
  obtain ⟨l, present, rfl⟩ := List.mem_map.mp member
  exact ⟨l.area, (fills_messageLabels fits l present).1⟩

/-! ### What changes from frame to frame -/

/-- The rectangle of the information lines. -/
def infoArea : Area :=
  ⟨11, 2, 4, infoWidth⟩

private theorem plainText_infoLines (c : Console) : ∀ line ∈ c.infoLines, PlainText line := by
  have label : PlainText c.clock.speed.label := by cases c.clock.speed <;> decide
  have bits : ∀ text ∈ (bitsOf c.pointedValue).map fun bit => toString bit.toNat, PlainText text := by
    intro text member
    obtain ⟨bit, _, rfl⟩ := List.mem_map.mp member
    exact plainText_toString _
  simp only [infoLines, List.forall_mem_cons]
  refine ⟨PlainText.append (by decide) (PlainText.intercalate (by decide) bits),
    (PlainText.append (by decide) (plainText_fixed _ _)).append (by decide),
    PlainText.append (by decide) (plainText_toString _), PlainText.append (by decide) (label.padRight 6), ?_⟩
  exact fun _ member => absurd member List.not_mem_nil

theorem fills_infoPicture (c : Console) : c.infoPicture.Fills infoArea where
  origin := rfl
  height := rfl
  width line member := by
    obtain ⟨text, _, rfl⟩ := List.mem_map.mp member
    rw [length_encode, length_fit, infoArea]
  plain line member := by
    obtain ⟨text, present, rfl⟩ := List.mem_map.mp member
    exact ((c.plainText_infoLines text present).fit infoWidth).encode
  onScreen := by decide

/-- The rectangles of the information lines and of the visible panels. -/
def liveAreas (asciiVisible : Bool) : List Area :=
  infoArea :: ((Panels.blank asciiVisible).layouts.filter fun l => !l.shape.hidden).map DataGrid.Layout.area

/-- What changes from frame to frame stands inside the frames. -/
theorem liveAreas_within (asciiVisible : Bool) :
    ∀ a ∈ liveAreas asciiVisible, ∃ b ∈ chromeAreas, a.Within b := by
  cases asciiVisible <;> decide +kernel

theorem allFill_live {c : Console} (wf : c.panels.WellFormed) : Picture.AllFill c.livePictures := by
  intro p member
  rcases List.mem_cons.mp member with rfl | member
  · exact ⟨infoArea, c.fills_infoPicture⟩
  · rw [Panels.elements_eq] at member
    obtain ⟨g, present, rfl⟩ := List.mem_map.mp (List.mem_filter.mp member).1
    exact ⟨g.layout.area, wf.fills present⟩

/-- What is drawn on every frame covers the cells of the live rectangles. -/
theorem isSome_live {c : Console} (wf : c.panels.WellFormed) :
    (Picture.last? c.livePictures row col).isSome ↔ ∃ a ∈ liveAreas c.panels.asciiVisible, a.Has row col := by
  have shown : ∀ g ∈ c.panels.grids.filter fun g => !g.surface.hidden,
      g.picture.Fills g.layout.area ∧ g.picture.hidden = false := by
    intro g member
    have visible := (List.mem_filter.mp member).2
    exact ⟨wf.fills (List.mem_filter.mp member).1, Bool.not_eq_true' _ |>.mp visible⟩
  have grids := @Picture.isSome_last?_map row col _ _ _ _ shown
  have info := @Picture.Fills.isSome_byte? _ _ row col c.fills_infoPicture rfl
  have areas : (c.panels.grids.filter fun g => !g.surface.hidden).map (fun g => g.layout.area) =
      ((Panels.blank c.panels.asciiVisible).layouts.filter fun l => !l.shape.hidden).map
        DataGrid.Layout.area := by
    rw [← wf.layouts, Panels.layouts, List.filter_map, List.map_map]
    rfl
  have elements : (c.panels.elements.filter fun picture => !picture.hidden) =
      (c.panels.grids.filter fun g => !g.surface.hidden).map DataGrid.picture := by
    rw [Panels.elements_eq, List.filter_map]
    rfl
  rw [livePictures, Picture.last?, Option.isSome_or, Bool.or_eq_true, elements, grids, info, areas, liveAreas]
  simp only [List.mem_cons, or_and_right, exists_or, exists_eq_left, or_comm]

/-- A cell that is drawn on every frame lies in a frame. -/
theorem chrome_of_live {asciiVisible : Bool} (live : ∃ a ∈ liveAreas asciiVisible, a.Has row col) :
    ∃ a ∈ chromeAreas, a.Has row col := by
  obtain ⟨a, member, has⟩ := live
  obtain ⟨b, member', within⟩ := liveAreas_within asciiVisible a member
  exact ⟨b, member', has.mono within⟩

end Console

end Mcs51
