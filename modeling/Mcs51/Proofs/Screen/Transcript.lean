import Mcs51.Proofs.Text.Plain

/-! # Lines are delivered once and intact

All ways into a session feed one capture of lines. What they feed it with is a transcript of signals
(`Session.transcript`), and which line can be read depends on the transcript alone: a line feed must have ended it,
with no start of a line and no reading since (`readLine_iff_completes`).
-/

namespace Mcs51

namespace Codepage

/-- A character that has a byte has its own ASCII code or is the glyph of the byte. -/
theorem eq_of_encodeChar {c : Char} {byte : UInt8} (same : encodeChar c = byte) (known : byte ≠ unmapped) :
    c.toNat = byte.toNat ∨ c = decode byte := by
  subst same
  by_cases low : c.toNat < 0x80
  · left
    rw [encodeChar, if_pos low]
    exact (UInt8.toNat_ofNat_of_lt' (by simp only [UInt8.size]; omega)).symm
  · rcases decode_encodeChar low with missing | glyph
    · contradiction
    · exact .inr glyph.symm

/-- No glyph acts as STX or as a line feed but their own ones. -/
theorem encodeChar_decode_ne {byte : UInt8} {code : Control} (signal : code = .stx ∨ code = .lineFeed)
    (other : byte ≠ code.byte) : encodeChar (decode byte) ≠ code.byte := by
  intro same
  have known : code.byte ≠ unmapped := by
    rcases signal with rfl | rfl <;> decide
  have shown := eq_of_encodeChar same known
  have unshown : ∀ entry ∈ glyphs.toList.zipIdx, entry.2 ≠ code.byte.toNat →
      ¬(entry.1.toNat = code.byte.toNat ∨ entry.1 = decode code.byte) := by
    rcases signal with rfl | rfl <;> decide +kernel
  have member : (decode byte, byte.toNat) ∈ glyphs.toList.zipIdx := by
    rw [List.mem_zipIdx_iff_getElem?, Array.getElem?_toList]
    exact Array.getElem?_eq_getElem (index byte).isLt
  exact unshown _ member (fun index => other (UInt8.toNat_inj.mp index)) shown
end Codepage

namespace Session

/-! ### Operations -/

inductive Operation
  | print (text : String)
  | printChar (c : Char)
  | printControl (code : Control)
  | writeBytes (bytes : List UInt8)
  | writeText (text : String)
  | push (byte : UInt8)
  | take
  | setEcho (echo : Bool)
  | readLine

/-- Whether an operation only draws. -/
def Operation.writes : Operation → Bool
  | .writeBytes _ | .writeText _ => true
  | _ => false

def perform (s : Session) : Operation → Session
  | .print text => s.print text
  | .printChar c => s.printChar c
  | .printControl code => s.printControl code
  | .writeBytes bytes => s.writeBytes bytes
  | .writeText text => s.writeText text
  | .push byte => s.push byte
  | .take => s.take.2
  | .setEcho echo => s.setEcho echo
  | .readLine => s.readLine.2

def follow (s : Session) (history : List Operation) : Session :=
  history.foldl perform s

/-! ### Signals -/

/-- What the capture of lines hears. -/
inductive Signal
  /-- STX. -/
  | start
  /-- A line feed. -/
  | stop
  | glyph (c : Char)
  /-- A line was read. -/
  | delivered
deriving DecidableEq

namespace Signal

/-- The signal of a control code, if it is one. -/
def ofControl? : Control → Option Signal
  | .stx => some start
  | .lineFeed => some stop
  | _ => none

def ofChar (c : Char) : Signal :=
  if Codepage.encodeChar c = Control.stx.byte then start
  else if Codepage.encodeChar c = Control.lineFeed.byte then stop
  else glyph c

/-- The signal of a pushed byte; control codes other than STX, line feed and space are none. -/
def ofByte? (byte : UInt8) : Option Signal :=
  match Control.ofByte? byte with
  | none | some .space => some (glyph (Codepage.decode byte))
  | some code => ofControl? code

def char? : Signal → Option Char
  | glyph c => some c
  | _ => none

end Signal

/-- The signals of an operation. A pushed byte is heard during a capture or with echo. -/
def heard (s : Session) : Operation → List Signal
  | .print text => text.toList.map Signal.ofChar
  | .printChar c => [Signal.ofChar c]
  | .printControl code => (Signal.ofControl? code).toList
  | .push byte => if s.capturing || s.echo then (Signal.ofByte? byte).toList else []
  | .readLine => if s.readLine.1.isSome then [.delivered] else []
  | .writeBytes _ | .writeText _ | .take | .setEcho _ => []

/-- The signals of operations. -/
def transcript (s : Session) : List Operation → List Signal
  | [] => []
  | op :: rest => s.heard op ++ (s.perform op).transcript rest

/-! ### What the capture hears -/

/-- The part of a session that captures lines. -/
structure Capture where
  capturing : Bool
  /-- The captured characters, the last one first. -/
  captured : List Char
  lineReady : Bool

/-- What a signal does to the capture of lines. -/
def Capture.hear (v : Capture) : Signal → Capture
  | .start => { capturing := true, captured := [], lineReady := false }
  | .stop => if v.capturing then { v with capturing := false, lineReady := !v.captured.isEmpty } else v
  | .glyph c => if v.capturing then { v with captured := c :: v.captured } else v
  | .delivered => { v with lineReady := false }

/-- Outside a capture characters are not heard. -/
theorem Capture.hear_glyph {v : Capture} (idle : v.capturing = false) (c : Char) : v.hear (.glyph c) = v :=
  if_neg (Bool.eq_false_iff.mp idle)

/-- The part of a session that captures lines. -/
def toCapture (s : Session) : Capture :=
  ⟨s.capturing, s.captured, s.lineReady⟩

variable {s d : Session}

theorem toCapture_printControl (s : Session) (code : Control) :
    (s.printControl code).toCapture = (Signal.ofControl? code).toList.foldl Capture.hear s.toCapture := by
  cases code with
  | lineFeed =>
    unfold printControl endLine
    cases capturing : s.capturing <;> simp [toCapture, put, Signal.ofControl?, Capture.hear, capturing]
  | _ => rfl

theorem toCapture_printChar (s : Session) (c : Char) :
    (s.printChar c).toCapture = s.toCapture.hear (Signal.ofChar c) := by
  unfold printChar Signal.ofChar
  dsimp only
  split
  · exact s.toCapture_printControl .stx
  · split
    · exact s.toCapture_printControl .lineFeed
    · cases capturing : s.capturing <;> simp [toCapture, put, capture, Capture.hear, capturing]

private theorem toCapture_print (s : Session) (text : String) :
    (s.print text).toCapture = (text.toList.map Signal.ofChar).foldl Capture.hear s.toCapture := by
  unfold print
  generalize text.toList = chars
  induction chars generalizing s with
  | nil => rfl
  | cons c rest ih => rw [List.foldl_cons, ih, toCapture_printChar, List.map_cons, List.foldl_cons]

/-- The glyph of a byte other than STX and line feed is heard as a character. -/
theorem toCapture_printGlyph (s : Session) {byte : UInt8}
    (other : Control.ofByte? byte ≠ some .stx ∧ Control.ofByte? byte ≠ some .lineFeed) :
    (s.printChar (Codepage.decode byte)).toCapture = s.toCapture.hear (.glyph (Codepage.decode byte)) := by
  have stx : byte ≠ Control.stx.byte := by
    rintro rfl
    exact other.1 (by decide)
  have lineFeed : byte ≠ Control.lineFeed.byte := by
    rintro rfl
    exact other.2 (by decide)
  rw [toCapture_printChar, Signal.ofChar, if_neg (Codepage.encodeChar_decode_ne (.inl rfl) stx),
    if_neg (Codepage.encodeChar_decode_ne (.inr rfl) lineFeed)]

theorem toCapture_captureByte (capturing : s.capturing = true) (byte : UInt8) :
    (s.captureByte byte).toCapture = (Signal.ofByte? byte).toList.foldl Capture.hear s.toCapture := by
  have joins (other : Control.ofByte? byte ≠ some .stx ∧ Control.ofByte? byte ≠ some .lineFeed) :
      (if s.echo then s.printChar (Codepage.decode byte) else s.capture (Codepage.decode byte)).toCapture =
        s.toCapture.hear (.glyph (Codepage.decode byte)) := by
    split
    · exact s.toCapture_printGlyph other
    · exact (if_pos capturing).symm
  unfold captureByte Signal.ofByte?
  cases found : Control.ofByte? byte with
  | none =>
    rw [found] at joins
    exact joins ⟨nofun, nofun⟩
  | some code =>
    rw [found] at joins
    cases code with
    | stx => exact s.toCapture_printControl .stx
    | lineFeed => exact s.toCapture_printControl .lineFeed
    | space => exact joins ⟨nofun, nofun⟩
    | _ => rfl

private theorem toCapture_echoByte (idle : s.capturing = false) (byte : UInt8) :
    (s.echoByte byte).toCapture = (Signal.ofByte? byte).toList.foldl Capture.hear s.toCapture := by
  have unheard (other : Control.ofByte? byte ≠ some .stx ∧ Control.ofByte? byte ≠ some .lineFeed) :
      (s.printChar (Codepage.decode byte)).toCapture = s.toCapture := by
    rw [toCapture_printGlyph s other]
    exact Capture.hear_glyph idle _
  have glyph : s.toCapture.hear (.glyph (Codepage.decode byte)) = s.toCapture := Capture.hear_glyph idle _
  unfold echoByte Signal.ofByte?
  cases found : Control.ofByte? byte with
  | none =>
    rw [found] at unheard
    exact (unheard ⟨nofun, nofun⟩).trans glyph.symm
  | some code =>
    rw [found] at unheard
    cases code with
    | stx => exact s.toCapture_printControl .stx
    | lineFeed => exact s.toCapture_printControl .lineFeed
    | space => exact (unheard ⟨nofun, nofun⟩).trans glyph.symm
    | _ => exact unheard ⟨nofun, nofun⟩

private theorem toCapture_push (s : Session) (byte : UInt8) :
    (s.push byte).toCapture = (s.heard (.push byte)).foldl Capture.hear s.toCapture := by
  by_cases capturing : s.capturing = true
  · rw [push, if_pos capturing, toCapture_captureByte capturing, heard, capturing]
    rfl
  · have idle := Bool.eq_false_iff.mpr capturing
    have heard : s.heard (.push byte) = if s.echo then (Signal.ofByte? byte).toList else [] := by
      rw [Session.heard, idle, Bool.false_or]
    rw [push, if_neg capturing, heard]
    dsimp only
    by_cases echo : s.echo = true
    · rw [if_pos echo, if_pos echo]
      exact @toCapture_echoByte { s with pending := some byte } idle byte
    · rw [if_neg echo, if_neg echo]
      rfl

private theorem toCapture_readLine (s : Session) :
    s.readLine.2.toCapture = (s.heard .readLine).foldl Capture.hear s.toCapture := by
  unfold heard readLine
  cases s.lineReady <;> rfl

/-- The capture of lines depends on the signals alone. -/
theorem toCapture_perform (s : Session) (op : Operation) :
    (s.perform op).toCapture = (s.heard op).foldl Capture.hear s.toCapture := by
  cases op with
  | print text => exact s.toCapture_print text
  | printChar c => exact s.toCapture_printChar c
  | printControl code => exact s.toCapture_printControl code
  | push byte => exact s.toCapture_push byte
  | readLine => exact s.toCapture_readLine
  | writeBytes | writeText | take | setEcho => rfl

private theorem toCapture_follow (s : Session) (history : List Operation) :
    (s.follow history).toCapture = (s.transcript history).foldl Capture.hear s.toCapture := by
  induction history generalizing s with
  | nil => rfl
  | cons op rest ih =>
    rw [transcript, List.foldl_append, ← toCapture_perform, ← ih]
    rfl

/-! ### Lines in a transcript -/

/-- Signals inside a line: none starts or stops it. -/
def Within (line : List Signal) : Prop :=
  .start ∉ line ∧ .stop ∉ line

def lineText (line : List Signal) : List Char :=
  line.filterMap Signal.char?

theorem lineText_concat (line : List Signal) (x : Signal) :
    lineText (line ++ [x]) = lineText line ++ x.char?.toList := by
  rw [lineText, List.filterMap_append, lineText]
  cases x <;> rfl

variable {signals line : List Signal}

/-- A line is being captured: it was started and not stopped. -/
def Open (signals line : List Signal) : Prop :=
  ∃ before, signals = before ++ .start :: line ∧ Within line

/-- A line that is not empty was stopped, and since then none was started or delivered. -/
def Completes (signals line : List Signal) : Prop :=
  ∃ before after, signals = before ++ .start :: line ++ .stop :: after ∧ Within line ∧ lineText line ≠ [] ∧
    .start ∉ after ∧ .delivered ∉ after

theorem within_concat {x : Signal} : Within (line ++ [x]) ↔ Within line ∧ x ≠ .start ∧ x ≠ .stop := by
  simp only [Within, List.mem_append, List.mem_singleton, not_or]
  constructor
  · rintro ⟨⟨start, start'⟩, stop, stop'⟩
    exact ⟨⟨start, stop⟩, Ne.symm start', Ne.symm stop'⟩
  · rintro ⟨⟨start, stop⟩, start', stop'⟩
    exact ⟨⟨start, Ne.symm start'⟩, stop, Ne.symm stop'⟩

/-- The last signal starts a line or belongs to the one that is being captured. -/
theorem open_concat {x : Signal} :
    Open (signals ++ [x]) line ↔
      x = .start ∧ line = [] ∨
        x ≠ .start ∧ x ≠ .stop ∧ ∃ earlier, Open signals earlier ∧ line = earlier ++ [x] := by
  constructor
  · rintro ⟨before, split, within⟩
    rcases line.eq_nil_or_concat with rfl | ⟨earlier, y, rfl⟩
    · obtain ⟨_, same⟩ := List.append_inj' split rfl
      exact .inl ⟨List.singleton_inj.mp same, rfl⟩
    · rw [List.concat_eq_append] at split within ⊢
      rw [← List.cons_append, ← List.append_assoc] at split
      obtain ⟨rest, same⟩ := List.append_inj' split rfl
      obtain rfl := List.singleton_inj.mp same
      obtain ⟨within, start, stop⟩ := within_concat.mp within
      exact .inr ⟨start, stop, earlier, ⟨before, rest, within⟩, rfl⟩
  · rintro (⟨rfl, rfl⟩ | ⟨start, stop, earlier, ⟨before, rfl, within⟩, rfl⟩)
    · exact ⟨signals, rfl, List.not_mem_nil, List.not_mem_nil⟩
    · refine ⟨before, ?_, within_concat.mpr ⟨within, start, stop⟩⟩
      rw [List.append_assoc, List.cons_append]

/-- The last signal completes the line that is being captured, or leaves the one that was completed. -/
theorem completes_concat {x : Signal} :
    Completes (signals ++ [x]) line ↔
      x = .stop ∧ Open signals line ∧ lineText line ≠ [] ∨
        x ≠ .start ∧ x ≠ .delivered ∧ Completes signals line := by
  constructor
  · rintro ⟨before, after, split, within, text, start, delivered⟩
    rcases after.eq_nil_or_concat with rfl | ⟨earlier, y, rfl⟩
    · obtain ⟨rest, same⟩ := List.append_inj' split rfl
      exact .inl ⟨List.singleton_inj.mp same, ⟨before, rest, within⟩, text⟩
    · rw [List.concat_eq_append] at split start delivered
      rw [← List.cons_append, ← List.append_assoc] at split
      obtain ⟨rest, same⟩ := List.append_inj' split rfl
      obtain rfl := List.singleton_inj.mp same
      simp only [List.mem_append, List.mem_singleton, not_or] at start delivered
      exact .inr ⟨Ne.symm start.2, Ne.symm delivered.2, before, earlier, rest, within, text, start.1, delivered.1⟩
  · rintro (⟨rfl, ⟨before, rfl, within⟩, text⟩ | ⟨start, delivered, completed⟩)
    · exact ⟨before, [], rfl, within, text, List.not_mem_nil, List.not_mem_nil⟩
    · obtain ⟨before, after, rfl, within, text, start', delivered'⟩ := completed
      refine ⟨before, after ++ [x], ?_, within, text, ?_, ?_⟩
      · rw [List.append_assoc _ _ [x], List.cons_append]
      · simp only [List.mem_append, List.mem_singleton, not_or]
        exact ⟨start', Ne.symm start⟩
      · simp only [List.mem_append, List.mem_singleton, not_or]
        exact ⟨delivered', Ne.symm delivered⟩

theorem open_start : Open (signals ++ [.start]) line ↔ line = [] := by
  simp [open_concat]

theorem not_open_stop : ¬Open (signals ++ [.stop]) line := by
  simp [open_concat]

theorem open_glyph {c : Char} :
    Open (signals ++ [.glyph c]) line ↔ ∃ earlier, Open signals earlier ∧ line = earlier ++ [.glyph c] := by
  simp [open_concat]

theorem open_delivered :
    Open (signals ++ [.delivered]) line ↔ ∃ earlier, Open signals earlier ∧ line = earlier ++ [.delivered] := by
  simp [open_concat]

theorem not_completes_start : ¬Completes (signals ++ [.start]) line := by
  simp [completes_concat]

theorem not_completes_delivered : ¬Completes (signals ++ [.delivered]) line := by
  simp [completes_concat]

theorem completes_glyph {c : Char} : Completes (signals ++ [.glyph c]) line ↔ Completes signals line := by
  simp [completes_concat]

theorem completes_stop :
    Completes (signals ++ [.stop]) line ↔ Open signals line ∧ lineText line ≠ [] ∨ Completes signals line := by
  simp [completes_concat]

/-! ### The captured line -/

/-- A capture that says of a transcript whether a line is being captured, whether one is complete, and its text. -/
structure Capture.Follows (v : Capture) (signals : List Signal) : Prop where
  capturing : v.capturing = true ↔ ∃ line, Open signals line
  lineReady : v.lineReady = true ↔ ∃ line, Completes signals line
  apart : v.capturing = true → v.lineReady = false
  captured : ∀ line, Open signals line ∨ Completes signals line → v.captured.reverse = lineText line

variable {v : Capture}

theorem Capture.Follows.not_open (follows : v.Follows signals) (idle : v.capturing = false) :
    ¬Open signals line := by
  intro opened
  have capturing := follows.capturing.mpr ⟨line, opened⟩
  rw [idle] at capturing
  contradiction

theorem Capture.Follows.not_completes (follows : v.Follows signals) (unready : v.lineReady = false) :
    ¬Completes signals line := by
  intro completed
  have ready := follows.lineReady.mpr ⟨line, completed⟩
  rw [unready] at ready
  contradiction

private theorem follows_new : Session.new.toCapture.Follows [] := by
  have unopened (line : List Signal) : ¬Open [] line := by
    rintro ⟨before, split, _⟩
    exact List.append_ne_nil_of_right_ne_nil _ (List.cons_ne_nil _ _) split.symm
  have incomplete (line : List Signal) : ¬Completes [] line := by
    rintro ⟨before, after, split, _⟩
    exact List.append_ne_nil_of_right_ne_nil _ (List.cons_ne_nil _ _) split.symm
  refine ⟨⟨nofun, ?_⟩, ⟨nofun, ?_⟩, nofun, ?_⟩
  · rintro ⟨line, opened⟩
    exact absurd opened (unopened line)
  · rintro ⟨line, completed⟩
    exact absurd completed (incomplete line)
  · rintro line (opened | completed)
    · exact absurd opened (unopened line)
    · exact absurd completed (incomplete line)

private theorem follows_start (v : Capture) (signals : List Signal) :
    (v.hear .start).Follows (signals ++ [.start]) where
  capturing := ⟨fun _ => ⟨[], open_start.mpr rfl⟩, fun _ => rfl⟩
  lineReady := ⟨nofun, fun ⟨_, completed⟩ => absurd completed not_completes_start⟩
  apart _ := rfl
  captured := by
    rintro line (opened | completed)
    · rw [open_start.mp opened]
      rfl
    · exact absurd completed not_completes_start

theorem Capture.Follows.delivered (follows : v.Follows signals) :
    (v.hear .delivered).Follows (signals ++ [.delivered]) where
  capturing := by
    refine follows.capturing.trans ⟨?_, ?_⟩
    · rintro ⟨line, opened⟩
      exact ⟨_, open_delivered.mpr ⟨line, opened, rfl⟩⟩
    · rintro ⟨_, opened⟩
      obtain ⟨line, opened, _⟩ := open_delivered.mp opened
      exact ⟨line, opened⟩
  lineReady := ⟨nofun, fun ⟨_, completed⟩ => absurd completed not_completes_delivered⟩
  apart _ := rfl
  captured := by
    rintro _ (opened | completed)
    · obtain ⟨line, before, rfl⟩ := open_delivered.mp opened
      rw [lineText_concat]
      exact (follows.captured line (.inl before)).trans (List.append_nil _).symm
    · exact absurd completed not_completes_delivered

/-- A character joins the line that is being captured. -/
theorem Capture.Follows.glyph (follows : v.Follows signals) (c : Char) :
    (v.hear (.glyph c)).Follows (signals ++ [.glyph c]) := by
  have complete : (∃ line, Completes (signals ++ [.glyph c]) line) ↔ ∃ line, Completes signals line := by
    simp only [completes_glyph]
  cases capturing : v.capturing with
  | true =>
    have heard : v.hear (.glyph c) = { v with captured := c :: v.captured } := if_pos capturing
    have unready := follows.apart capturing
    obtain ⟨line, opened⟩ := follows.capturing.mp capturing
    rw [heard]
    refine ⟨⟨fun _ => ⟨_, open_glyph.mpr ⟨line, opened, rfl⟩⟩, fun _ => capturing⟩,
      follows.lineReady.trans complete.symm, follows.apart, ?_⟩
    rintro _ (opened | completed)
    · obtain ⟨line, before, rfl⟩ := open_glyph.mp opened
      rw [List.reverse_cons, follows.captured line (.inl before), lineText_concat]
      rfl
    · exact absurd (completes_glyph.mp completed) (follows.not_completes unready)
  | false =>
    have unopened (line : List Signal) : ¬Open (signals ++ [.glyph c]) line := by
      intro opened
      obtain ⟨_, opened, _⟩ := open_glyph.mp opened
      exact follows.not_open capturing opened
    rw [Capture.hear_glyph capturing]
    refine ⟨⟨fun captures => ?_, ?_⟩, follows.lineReady.trans complete.symm, follows.apart, ?_⟩
    · rw [capturing] at captures
      contradiction
    · rintro ⟨line, opened⟩
      exact absurd opened (unopened line)
    · rintro line (opened | completed)
      · exact absurd opened (unopened line)
      · exact follows.captured line (.inr (completes_glyph.mp completed))

/-- A line feed ends the line that is being captured, which is complete if it has any character. -/
theorem Capture.Follows.stop (follows : v.Follows signals) :
    (v.hear .stop).Follows (signals ++ [.stop]) := by
  cases capturing : v.capturing with
  | true =>
    have heard : v.hear .stop = { v with capturing := false, lineReady := !v.captured.isEmpty } := if_pos capturing
    have completes (line : List Signal) :
        Completes (signals ++ [.stop]) line ↔ Open signals line ∧ lineText line ≠ [] := by
      rw [completes_stop, or_iff_left (follows.not_completes (follows.apart capturing))]
    obtain ⟨line, opened⟩ := follows.capturing.mp capturing
    rw [heard]
    refine ⟨⟨nofun, fun ⟨_, opened⟩ => absurd opened not_open_stop⟩, ⟨fun ready => ⟨line, ?_⟩, ?_⟩, nofun, ?_⟩
    · rw [completes, ← follows.captured line (.inl opened)]
      refine ⟨opened, ?_⟩
      simpa using ready
    · rintro ⟨line, completed⟩
      obtain ⟨opened, text⟩ := (completes line).mp completed
      rw [← follows.captured line (.inl opened)] at text
      simpa using text
    · rintro line (opened | completed)
      · exact absurd opened not_open_stop
      · exact follows.captured line (.inl ((completes line).mp completed).1)
  | false =>
    have heard : v.hear .stop = v := if_neg (Bool.eq_false_iff.mp capturing)
    have completes (line : List Signal) : Completes (signals ++ [.stop]) line ↔ Completes signals line := by
      rw [completes_stop, or_iff_right]
      exact fun opened => follows.not_open capturing opened.1
    rw [heard]
    refine ⟨⟨fun captures => ?_, fun ⟨_, opened⟩ => absurd opened not_open_stop⟩, ?_, follows.apart, ?_⟩
    · rw [capturing] at captures
      contradiction
    · simp only [completes]
      exact follows.lineReady
    · rintro line (opened | completed)
      · exact absurd opened not_open_stop
      · exact follows.captured line (.inr ((completes line).mp completed))

theorem Capture.Follows.hear (follows : v.Follows signals) (x : Signal) :
    (v.hear x).Follows (signals ++ [x]) := by
  cases x with
  | start => exact follows_start v signals
  | stop => exact follows.stop
  | glyph c => exact follows.glyph c
  | delivered => exact follows.delivered

theorem Capture.Follows.foldl (follows : v.Follows signals) (later : List Signal) :
    (later.foldl Capture.hear v).Follows (signals ++ later) := by
  induction later generalizing v signals with
  | nil => rwa [List.append_nil]
  | cons x rest ih =>
    have heard := ih (follows.hear x)
    rwa [List.append_assoc] at heard

/-- At any time the capture of lines follows the transcript. -/
theorem follows_follow (history : List Operation) :
    (Session.new.follow history).toCapture.Follows (Session.new.transcript history) := by
  rw [toCapture_follow]
  exact follows_new.foldl _

/-! ### Drawing -/

theorem echo_push (s : Session) (byte : UInt8) : (s.push byte).echo = s.echo := by
  unfold push
  split
  · exact s.echo_captureByte byte
  · dsimp only
    split
    · unfold echoByte
      split
      · exact echo_printControl _ .stx
      · exact echo_printControl _ .lineFeed
      · exact echo_printChar _ _
    · rfl

theorem echo_print (s : Session) (text : String) : (s.print text).echo = s.echo := by
  unfold print
  generalize text.toList = chars
  induction chars generalizing s with
  | nil => rfl
  | cons c rest ih => rw [List.foldl_cons, ih, echo_printChar]

theorem echo_readLine (s : Session) : s.readLine.2.echo = s.echo := by
  unfold readLine
  split <;> rfl

/-- Sessions that differ at most in what is drawn and in the byte that waits. -/
structure Alike (s d : Session) : Prop where
  toCapture : d.toCapture = s.toCapture
  echo : d.echo = s.echo

theorem Alike.readLine (alike : Alike s d) : d.readLine.1 = s.readLine.1 := by
  have ready : d.lineReady = s.lineReady := congrArg Capture.lineReady alike.toCapture
  have captured : d.captured = s.captured := congrArg Capture.captured alike.toCapture
  unfold Session.readLine
  rw [ready, captured]
  split <;> rfl

theorem Alike.heard (alike : Alike s d) (op : Operation) : d.heard op = s.heard op := by
  have capturing : d.capturing = s.capturing := congrArg Capture.capturing alike.toCapture
  cases op with
  | push byte => rw [Session.heard, Session.heard, capturing, alike.echo]
  | readLine => rw [Session.heard, Session.heard, alike.readLine]
  | print | printChar | printControl | writeBytes | writeText | take | setEcho => rfl

theorem Alike.perform (alike : Alike s d) (op : Operation) : Alike (s.perform op) (d.perform op) where
  toCapture := by rw [toCapture_perform, toCapture_perform, alike.heard, alike.toCapture]
  echo := by
    cases op with
    | print text => exact (d.echo_print text).trans (alike.echo.trans (s.echo_print text).symm)
    | printChar c => exact (d.echo_printChar c).trans (alike.echo.trans (s.echo_printChar c).symm)
    | printControl code => exact (d.echo_printControl code).trans (alike.echo.trans (s.echo_printControl code).symm)
    | push byte => exact (d.echo_push byte).trans (alike.echo.trans (s.echo_push byte).symm)
    | readLine => exact d.echo_readLine.trans (alike.echo.trans s.echo_readLine.symm)
    | writeBytes | writeText | take => exact alike.echo
    | setEcho => rfl

/-- What only draws can be left out. -/
theorem Alike.filter (alike : Alike s d) (history : List Operation) :
    Alike (s.follow history) (d.follow (history.filter (!·.writes))) := by
  induction history generalizing s d with
  | nil => exact alike
  | cons op rest ih =>
    cases writes : op.writes with
    | false =>
      rw [List.filter_cons_of_pos (by rw [writes]; rfl)]
      exact ih (alike.perform op)
    | true =>
      have drawn : Alike (s.perform op) d := by
        cases op <;> first | contradiction | exact ⟨alike.toCapture, alike.echo⟩
      rw [List.filter_cons_of_neg (by rw [writes]; decide)]
      exact ih drawn

/-! ### Delivery -/

private theorem readLine_of_follows (follows : s.toCapture.Follows signals) (text : String) :
    s.readLine.1 = some text ↔ ∃ line, Completes signals line ∧ text = String.ofList (lineText line) := by
  have ready : s.lineReady = true ↔ ∃ line, Completes signals line := follows.lineReady
  have captured (line : List Signal) (completed : Completes signals line) : s.captured.reverse = lineText line :=
    follows.captured line (.inr completed)
  unfold readLine
  constructor
  · intro delivers
    split at delivers
    · rename_i present
      obtain ⟨line, completed⟩ := ready.mp present
      refine ⟨line, completed, ?_⟩
      rw [← captured line completed]
      exact (Option.some.inj delivers).symm
    · contradiction
  · rintro ⟨line, completed, rfl⟩
    rw [if_pos (ready.mpr ⟨line, completed⟩), captured line completed]

/-- A line can be read exactly if a line feed ended it, it has characters, and no line was started or delivered
since; it is read as the characters that came between STX and line feed. What is only drawn does not matter. -/
theorem readLine_iff_completes (history : List Operation) :
    let s := Session.new.follow history
    let signals := Session.new.transcript history
    (∀ text, s.readLine.1 = some text ↔ ∃ line, Completes signals line ∧ text = String.ofList (lineText line)) ∧
      (s.capturing = true ↔ ∃ line, Open signals line) ∧
      (Session.new.follow (history.filter (!·.writes))).readLine.1 = s.readLine.1 := by
  intro s signals
  have follows := follows_follow history
  exact ⟨readLine_of_follows follows, follows.capturing, Alike.readLine (Alike.filter ⟨rfl, rfl⟩ history)⟩

/-- The glyph of STX restarts the line, a drawn text is no part of it, and a second line feed does not matter. -/
example :
    (Session.new.follow
      [.printControl .stx, .print "a☻b", .writeText "x", .push 0x0A, .print "\n"]).readLine.1 = some "b" := by
  decide +kernel

end Session

end Mcs51
