import Mcs51.Console.Frames
import Mcs51.Proofs.Widget.Trail

/-! # Layout and content of the panels

Every operation of the console keeps the layout of all grids, up to whether the character view is shown,
and keeps their bytes such that each grid is shown in its fixed width: the bits of the status word are
digits, and the disassembly and the character view are plain text.
-/

namespace Mcs51

open Codepage Grid

/-! ### Trails -/

namespace Trail

private theorem all_push {P : UInt8 → Prop} {t : Trail} {snapshot : List UInt8} (zero : P 0)
    (all : t.grid.surface.All P) (new : ∀ byte ∈ snapshot, P byte) :
    (t.push snapshot).grid.surface.All P := by
  apply Surface.All.setRowsFrom all
  intro line member
  rcases List.mem_append.mp member with member | member
  · obtain ⟨r, _, rfl⟩ := List.mem_map.mp (List.mem_of_mem_drop member)
    exact all.of_mem_row
  · rw [List.mem_singleton.mp member]
    intro byte member
    rcases List.mem_append.mp member with member | member
    · exact new byte (List.mem_of_mem_take member)
    · rwa [List.eq_of_mem_replicate member]

end Trail

namespace Tracked

@[simp] theorem live_advance (t : Tracked) : t.advance.live = t.live := rfl

@[simp] theorem layout_trail_advance (t : Tracked) :
    t.advance.trail.grid.layout = t.trail.grid.layout :=
  t.trail.layout_push _

@[simp] theorem layout_live_setRow (t : Tracked) (bytes : List UInt8) :
    (t.setRow bytes).live.layout = t.live.layout :=
  t.live.layout_setRow 0 bytes

@[simp] theorem trail_setRow (t : Tracked) (bytes : List UInt8) :
    (t.setRow bytes).trail = t.trail := rfl

@[simp] theorem layout_live_clear (t : Tracked) : t.clear.live.layout = t.live.layout := rfl

@[simp] theorem layout_trail_clear (t : Tracked) :
    t.clear.trail.grid.layout = t.trail.grid.layout := rfl

/-- All bytes of a grid and its trail have a property. -/
structure All (P : UInt8 → Prop) (t : Tracked) : Prop where
  live : t.live.surface.All P
  trail : t.trail.grid.surface.All P

variable {P : UInt8 → Prop} {t : Tracked}

theorem All.advance (all : t.All P) (zero : P 0) : t.advance.All P :=
  ⟨all.live, Trail.all_push zero all.trail all.live.of_mem_row⟩

theorem All.setRow (all : t.All P) {bytes : List UInt8} (new : ∀ byte ∈ bytes, P byte) :
    (t.setRow bytes).All P :=
  ⟨all.live.setRow new, all.trail⟩

theorem all_clear (zero : P 0) : t.clear.All P :=
  ⟨Surface.all_clear zero, Surface.all_clear zero⟩

end Tracked

/-! ### Panels -/

namespace Panels

/-- All grids, in drawing order. -/
def grids (p : Panels) : List DataGrid :=
  [p.memory, p.memoryAddr, p.ports.live, p.ports.trail.grid, p.registers.live, p.registers.trail.grid,
    p.dataPointer.live, p.dataPointer.trail.grid, p.control.live, p.control.trail.grid, p.status.live,
    p.status.trail.grid, p.stack, p.ascii, p.addressInput, p.code.live, p.code.trail.grid]

theorem elements_eq (p : Panels) : p.elements = p.grids.map DataGrid.picture := rfl

/-- The panels with the trails of other panels. -/
def withTrails (p source : Panels) : Panels :=
  { p with
    status := { p.status with trail := source.status.trail }
    ports := { p.ports with trail := source.ports.trail }
    registers := { p.registers with trail := source.registers.trail }
    dataPointer := { p.dataPointer with trail := source.dataPointer.trail }
    code := { p.code with trail := source.code.trail }
    control := { p.control with trail := source.control.trail } }

def layouts (p : Panels) : List DataGrid.Layout :=
  p.grids.map DataGrid.layout

/-- Zeroed panels with the character view shown or hidden. -/
def blank (visible : Bool) : Panels :=
  let p := zeroed ""
  { p with ascii := p.ascii.setHidden !visible }

/-- A place that no line of the character view reaches: the blank cells between addresses and characters
and between the two columns. -/
def asciiGap (col : Nat) : Prop :=
  col = 4 ∨ col = 13 ∨ col = 18

/-- What all operations keep of the panels. -/
structure WellFormed (p : Panels) : Prop where
  layouts : p.layouts = (blank p.asciiVisible).layouts
  status : p.status.All (· < 10)
  code : p.code.All Plain
  ascii : p.ascii.surface.All Plain
  gaps : ∀ row col, asciiGap col → p.ascii.surface.get row col = 0

/-- Only the layouts and three panels matter. -/
theorem WellFormed.of_same {p q : Panels} (wf : p.WellFormed) (layouts : q.layouts = p.layouts)
    (status : q.status = p.status) (code : q.code = p.code) (ascii : q.ascii = p.ascii) :
    q.WellFormed where
  layouts := by
    have visible : q.asciiVisible = p.asciiVisible := by simp only [asciiVisible, ascii]
    rw [layouts, visible, wf.layouts]
  status := by rw [status]; exact wf.status
  code := by rw [code]; exact wf.code
  ascii := by rw [ascii]; exact wf.ascii
  gaps := by rw [ascii]; exact wf.gaps

private theorem plain_codePlaceholder : ∀ byte ∈ codePlaceholder, Plain byte :=
  PlainText.encode (by decide)

@[simp] theorem layouts_initCode (p : Panels) : p.initCode.layouts = p.layouts := by
  simp [layouts, grids, initCode, Trail.mapSurface]

@[simp] theorem layouts_advance (p : Panels) : p.advance.layouts = p.layouts := by
  simp [layouts, grids, advance]

@[simp] theorem layouts_wipe (p : Panels) : p.wipe.layouts = p.layouts := by
  rw [wipe, layouts_initCode]
  simp [layouts, grids]

theorem all_initCode {p : Panels} (plain : p.code.All Plain) : p.initCode.code.All Plain := by
  have line := plain_codePlaceholder
  unfold initCode
  generalize codePlaceholder = bytes at line ⊢
  refine ⟨plain.live.setRow line, plain.trail.setRowsFrom ?_⟩
  intro other member
  rwa [List.eq_of_mem_replicate member]

private theorem layouts_new (title : String) : (Panels.new title).layouts = (blank false).layouts := by
  rw [Panels.new, layouts_initCode]
  simp only [layouts, grids, blank, zeroed, DataGrid.setHidden, List.map_cons]
  rfl

theorem wellFormed_new (title : String) : (Panels.new title).WellFormed where
  layouts := layouts_new title
  status := ⟨Surface.all_of_zeroed rfl (by decide), Surface.all_of_zeroed rfl (by decide)⟩
  code := all_initCode (p := zeroed title)
    ⟨Surface.all_of_zeroed rfl (by decide), Surface.all_of_zeroed rfl (by decide)⟩
  ascii := Surface.all_of_zeroed rfl (by decide)
  gaps row col _ := Surface.all_of_zeroed (P := (· = 0)) rfl rfl row col

theorem WellFormed.advance {p : Panels} (wf : p.WellFormed) : p.advance.WellFormed where
  layouts := p.layouts_advance.trans wf.layouts
  status := wf.status.advance (by decide)
  code := wf.code.advance (by decide)
  ascii := wf.ascii
  gaps := wf.gaps

theorem WellFormed.wipe {p : Panels} (wf : p.WellFormed) : p.wipe.WellFormed where
  layouts := p.layouts_wipe.trans wf.layouts
  status := Tracked.all_clear (by decide)
  code := all_initCode (Tracked.all_clear (by decide))
  ascii := Surface.all_clear (by decide)
  gaps row col _ := Surface.get_clear _ row col

/-- Only the character view can be hidden, and it changes nothing else. -/
theorem WellFormed.setAsciiHidden {p : Panels} (wf : p.WellFormed) (hidden : Bool) :
    { p with ascii := p.ascii.setHidden hidden }.WellFormed where
  layouts := by
    have ascii : p.ascii.layout = (blank p.asciiVisible).ascii.layout :=
      List.cons.inj (congrArg (List.drop 13) wf.layouts) |>.1
    calc
      _ = p.layouts.set 13 { p.ascii.layout with shape.hidden := hidden } := rfl
      _ = (blank p.asciiVisible).layouts.set 13
          { (blank p.asciiVisible).ascii.layout with shape.hidden := hidden } := by rw [wf.layouts, ascii]
      _ = _ := by cases hidden <;> rfl
  status := wf.status
  code := wf.code
  ascii := wf.ascii
  gaps := wf.gaps

/-! ### Places on the screen -/

private theorem sound_layouts_blank (visible : Bool) : ∀ l ∈ (blank visible).layouts, l.Sound := by
  cases visible <;> decide +kernel

theorem WellFormed.sound {p : Panels} (wf : p.WellFormed) {g : DataGrid} (member : g ∈ p.grids) :
    g.layout.Sound := by
  apply sound_layouts_blank p.asciiVisible
  rw [← wf.layouts]
  exact List.mem_map_of_mem member

/-- Every byte of a grid is one that the grid shows in its width. -/
theorem WellFormed.admits {p : Panels} (wf : p.WellFormed) :
    ∀ g ∈ p.grids, g.surface.All g.layout.Admits := by
  have layouts := wf.layouts
  simp only [Panels.layouts, grids, List.map_cons, List.map_nil, List.cons.injEq] at layouts
  obtain ⟨memory, memoryAddr, ports, portsTrail, registers, registersTrail, dataPointer,
    dataPointerTrail, control, controlTrail, status, statusTrail, stack, ascii, addressInput, code,
    codeTrail, -⟩ := layouts
  have hex {g : DataGrid} (format : g.layout.format = .hex) : g.surface.All g.layout.Admits := by
    intro _ _ _
    rw [format]
    trivial
  have templated {g : DataGrid} (template : g.layout.template ≠ none) : g.surface.All g.layout.Admits :=
    fun _ _ missing => absurd missing template
  simp only [grids, List.forall_mem_cons]
  refine ⟨hex (by rw [memory]; rfl), hex (by rw [memoryAddr]; rfl), hex (by rw [ports]; rfl),
    hex (by rw [portsTrail]; rfl), hex (by rw [registers]; rfl), hex (by rw [registersTrail]; rfl),
    hex (by rw [dataPointer]; rfl), hex (by rw [dataPointerTrail]; rfl),
    templated (by rw [control]; exact Option.some_ne_none _),
    templated (by rw [controlTrail]; exact Option.some_ne_none _), ?_, ?_,
    templated (by rw [stack]; exact Option.some_ne_none _), ?_, hex (by rw [addressInput]; rfl), ?_, ?_,
    fun _ member => absurd member List.not_mem_nil⟩
  · intro r c _
    rw [status]
    exact wf.status.live r c
  · intro r c _
    rw [statusTrail]
    exact wf.status.trail r c
  · intro r c _
    rw [ascii]
    exact wf.ascii r c
  · intro r c _
    rw [code]
    exact wf.code.live r c
  · intro r c _
    rw [codeTrail]
    exact wf.code.trail r c

/-- Every grid of well-formed panels fills the rectangle of its layout. -/
theorem WellFormed.fills {p : Panels} (wf : p.WellFormed) {g : DataGrid} (member : g ∈ p.grids) :
    g.picture.Fills g.layout.area :=
  DataGrid.fills_area (wf.sound member) (wf.admits g member)

end Panels

end Mcs51
