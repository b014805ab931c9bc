import Mcs51.Settings.Read
import Mcs51.Proofs.Settings.Document

/-! # Which settings are accepted

Every check looks at one setting. Settings are refused by the first check that they fail (`fault?_eq`), with a
message that names the setting (`message_of_check`). Settings that were read have passed all checks
(`ofText_eq_ok_iff`), the defaults pass them as well, and every combination of settings that machine words hold can
be written down, by the names of the fields or by their order (`ofEntries?_written`). As a document with a line for
each field they are read back if they pass the checks (`ofText_written`).
-/

namespace Mcs51.Settings

open Toml

/-- A check of one setting, and the error if it fails. -/
structure Check where
  field : String
  value : Settings → Nat
  accepts : Nat → Bool
  error : Nat → SettingsError

namespace Check

def Passes (c : Check) (s : Settings) : Prop :=
  c.accepts (c.value s) = true

def spaceSize (field : String) (value : Settings → Nat) : Check :=
  ⟨field, value, isSpaceSize, .spaceSize field⟩

def upperSize : Check :=
  ⟨"machine.upper_size", Settings.upperSize, fun n => n == 0 || n == upperRamSize, .upperSize⟩

def positive (field : String) (value : Settings → Nat) : Check :=
  ⟨field, value, (0 < ·), fun _ => .zero field⟩

/-- All checks, in their order. -/
def all : List Check :=
  [spaceSize "machine.code_size" codeSize, spaceSize "machine.external_size" externalSize, upperSize,
    positive "clock.max_ticks_per_frame" (·.maxTicksPerFrame.toNat), positive "ui.frame_ms" frameMs]

end Check

/-- Settings that pass all checks. -/
def Valid (s : Settings) : Prop :=
  ∀ c ∈ Check.all, c.Passes s

variable {s : Settings}

private theorem map_find?_cons {α β : Type} (p : α → Bool) (f : α → β) (a : α) (rest : List α) :
    ((a :: rest).find? p).map f = if p a then some (f a) else (rest.find? p).map f := by
  rw [List.find?_cons]
  cases p a <;> rfl

/-- Settings are refused by the first check that they fail. -/
theorem fault?_eq (s : Settings) :
    s.fault? = (Check.all.find? fun c => !c.accepts (c.value s)).map fun c => c.error (c.value s) := by
  have ticks : (!decide (0 < s.maxTicksPerFrame.toNat)) = true ↔ s.maxTicksPerFrame = 0 := by
    rw [Bool.not_eq_true', decide_eq_false_iff_not, Nat.pos_iff_ne_zero, Decidable.not_not, ← UInt32.toNat_inj]
    rfl
  have frame : (!decide (0 < s.frameMs)) = true ↔ s.frameMs = 0 := by
    rw [Bool.not_eq_true', decide_eq_false_iff_not, Nat.pos_iff_ne_zero, Decidable.not_not]
  have upper : (!(s.upperSize == 0 || s.upperSize == upperRamSize)) = true ↔
      s.upperSize ≠ 0 ∧ s.upperSize ≠ upperRamSize := by
    rw [Bool.not_or, Bool.and_eq_true, Bool.not_eq_true', Bool.not_eq_true', beq_eq_false_iff_ne, beq_eq_false_iff_ne]
  simp only [Check.all, map_find?_cons, Check.spaceSize, Check.positive, Check.upperSize, ticks, frame, upper,
    List.find?_nil, Option.map_none]
  rfl

/-- The first check that fails: all checks before it pass. -/
theorem fault?_eq_some_iff {e : SettingsError} :
    s.fault? = some e ↔ ∃ c before behind, Check.all = before ++ c :: behind ∧ (∀ b ∈ before, b.Passes s) ∧
      ¬c.Passes s ∧ c.error (c.value s) = e := by
  rw [fault?_eq, Option.map_eq_some_iff]
  simp only [List.find?_eq_some_iff_append, Bool.not_eq_true', Bool.not_eq_false', Check.Passes, Bool.not_eq_true]
  constructor
  · rintro ⟨c, ⟨fails, before, behind, all, pass⟩, error⟩
    exact ⟨c, before, behind, all, pass, fails, error⟩
  · rintro ⟨c, before, behind, all, pass, fails, error⟩
    exact ⟨c, ⟨fails, before, behind, all, pass⟩, error⟩

theorem fault?_eq_none_iff : s.fault? = none ↔ s.Valid := by
  rw [fault?_eq, Option.map_eq_none_iff, List.find?_eq_none]
  simp only [Bool.not_eq_true', Bool.not_eq_false, Valid, Check.Passes]

/-- The message of a check names the setting that it looks at. -/
theorem message_of_check {c : Check} (member : c ∈ Check.all) (n : Nat) :
    ∃ reason, (c.error n).message = "invalid value for " ++ c.field ++ ": " ++ reason := by
  have upper : "invalid value for machine.upper_size: " = "invalid value for " ++ "machine.upper_size" ++ ": " := by
    decide
  have zero : ": must be at least 1" = ": " ++ "must be at least 1" := by decide
  have space (field : String) : (SettingsError.spaceSize field n).message =
      "invalid value for " ++ field ++ ": " ++ (toString n ++ " is outside 1..=" ++ toString maxSpaceSize) := by
    change "invalid value for " ++ field ++ ": " ++ toString n ++ " is outside 1..=" ++ toString maxSpaceSize = _
    simp only [String.append_assoc]
  have least (field : String) :
      (SettingsError.zero field).message = "invalid value for " ++ field ++ ": " ++ "must be at least 1" := by
    change "invalid value for " ++ field ++ ": must be at least 1" = _
    simp only [zero, String.append_assoc]
  simp only [Check.all, List.mem_cons, List.not_mem_nil, or_false] at member
  rcases member with rfl | rfl | rfl | rfl | rfl
  · exact ⟨_, space _⟩
  · exact ⟨_, space _⟩
  · refine ⟨toString n ++ " must be 0 or " ++ toString upperRamSize, ?_⟩
    change "invalid value for machine.upper_size: " ++ toString n ++ " must be 0 or " ++ toString upperRamSize = _
    simp only [upper, Check.upperSize, String.append_assoc]
  · exact ⟨_, least _⟩
  · exact ⟨_, least _⟩

theorem valid_default : default.Valid := by
  rw [← fault?_eq_none_iff]
  decide

/-! ### Settings that are read -/

/-- Settings are read from a text exactly if it holds some and they pass all checks. -/
theorem ofText_eq_ok_iff {text : String} :
    ofText text = .ok s ↔ (Toml.parse text).bind ofEntries? = some s ∧ s.Valid := by
  rw [ofText, ← fault?_eq_none_iff]
  cases (Toml.parse text).bind ofEntries? with
  | none => exact iff_of_false nofun nofun
  | some settings =>
    dsimp only
    rw [Option.some.injEq]
    cases fault : settings.fault? with
    | none =>
      constructor
      · rintro ⟨⟩
        exact ⟨rfl, fault⟩
      · rintro ⟨rfl, -⟩
        rfl
    | some e =>
      refine iff_of_false nofun ?_
      rintro ⟨rfl, none⟩
      rw [fault] at none
      contradiction

/-- A text is refused because it holds no settings, or because of the first check that its settings fail. -/
theorem ofText_eq_error_iff {text : String} {e : SettingsError} :
    ofText text = .error e ↔
      (Toml.parse text).bind ofEntries? = none ∧ e = .malformed ∨
        ∃ s, (Toml.parse text).bind ofEntries? = some s ∧ s.fault? = some e := by
  rw [ofText]
  cases (Toml.parse text).bind ofEntries? with
  | none => simp only [Except.error.injEq, true_and, reduceCtorEq, false_and, exists_false, or_false, eq_comm]
  | some settings =>
    simp only [reduceCtorEq, false_and, false_or, Option.some.injEq, exists_eq_left']
    cases settings.fault? with
    | none => exact iff_of_false nofun nofun
    | some fault => simp only [Except.error.injEq, Option.some.injEq]

/-- Sections that are not known are ignored. -/
theorem ofEntries?_congr {root other : Entries}
    (same : ∀ name ∈ ["machine", "clock", "ui", "log"], root.lookup name = other.lookup name) :
    ofEntries? root = ofEntries? other := by
  have section_eq {name : String} (member : name ∈ ["machine", "clock", "ui", "log"]) :
      (section? root name = section? other name) := by
    rw [section?, section?, same name member]
  rw [ofEntries?, ofEntries?, section_eq (by decide), section_eq (by decide), section_eq (by decide),
    section_eq (by decide)]

/-- An empty file holds the defaults. -/
theorem ofText_empty : ofText "" = .ok default := by
  rw [ofText_eq_ok_iff]
  exact ⟨by decide +kernel, valid_default⟩

/-! ### Settings that are written -/

/-- Settings as a table of sections; a section lists names and values. -/
def sections (s : Settings) : List (String × Entries) :=
  [("machine", [("code_size", .integer s.codeSize), ("external_size", .integer s.externalSize),
      ("upper_size", .integer s.upperSize)]),
    ("clock", [("speed", .string s.speed.name), ("max_ticks_per_frame", .integer s.maxTicksPerFrame.toNat)]),
    ("ui", [("frame_ms", .integer s.frameMs), ("arrow_repeat_ms", .integer s.arrowRepeatMs),
      ("step_repeat_ms", .integer s.stepRepeatMs)]),
    ("log", [("file", .string s.logFile), ("level", .string s.logLevel)])]

/-- Sections with the names of their fields. -/
def named (s : Settings) : Entries :=
  table s.sections

/-- Sections that list their fields in order. -/
def ordered (s : Settings) : Entries :=
  s.sections.map fun entry => (entry.1, .array (entry.2.map Prod.snd))

/-- Sizes and times that 64 bits hold. -/
structure Fits (s : Settings) : Prop where
  codeSize : s.codeSize < sizeBound
  externalSize : s.externalSize < sizeBound
  upperSize : s.upperSize < sizeBound
  frameMs : s.frameMs < sizeBound
  arrowRepeatMs : s.arrowRepeatMs < sizeBound
  stepRepeatMs : s.stepRepeatMs < sizeBound

theorem natField_integer {bound fallback n : Nat} (small : n < bound) :
    natField bound fallback (some (.integer n)) = some n := by
  rw [natField, if_pos ⟨Int.natCast_nonneg n, Int.ofNat_lt.mpr small⟩, Int.toNat_natCast]

private theorem speedField_name (fallback speed : Speed) :
    speedField fallback (some (.string speed.name)) = some speed := by
  rw [speedField]
  cases speed <;> decide

/-- Fields that hold settings are read as these settings. -/
theorem ofEntries?_of_fields (fits : s.Fits) {root : Entries} {machine clock ui log : Section}
    (sections : section? root "machine" = some machine ∧ section? root "clock" = some clock ∧
      (section? root "ui" = some ui ∧ section? root "log" = some log))
    (sizes : machine 0 "code_size" = some (.integer s.codeSize) ∧
      machine 1 "external_size" = some (.integer s.externalSize) ∧
      machine 2 "upper_size" = some (.integer s.upperSize))
    (rates : clock 0 "speed" = some (.string s.speed.name) ∧
      clock 1 "max_ticks_per_frame" = some (.integer s.maxTicksPerFrame.toNat))
    (times : ui 0 "frame_ms" = some (.integer s.frameMs) ∧
      ui 1 "arrow_repeat_ms" = some (.integer s.arrowRepeatMs) ∧
      ui 2 "step_repeat_ms" = some (.integer s.stepRepeatMs))
    (texts : log 0 "file" = some (.string s.logFile) ∧ log 1 "level" = some (.string s.logLevel)) :
    ofEntries? root = some s := by
  have ticks : s.maxTicksPerFrame.toNat < tickBound := s.maxTicksPerFrame.toNat_lt
  simp only [ofEntries?, sections, sizes, rates, times, texts, natField_integer fits.codeSize,
    natField_integer fits.externalSize, natField_integer fits.upperSize, natField_integer fits.frameMs,
    natField_integer fits.arrowRepeatMs, natField_integer fits.stepRepeatMs, natField_integer ticks, speedField_name,
    textField, Option.bind_eq_bind, Option.bind_some, UInt32.ofNat_toNat, Option.pure_def]

/-- Written settings are read back, whichever way they are written. -/
theorem ofEntries?_written (fits : s.Fits) : ofEntries? s.named = some s ∧ ofEntries? s.ordered = some s := by
  constructor
  · exact ofEntries?_of_fields fits ⟨rfl, rfl, rfl, rfl⟩ ⟨rfl, rfl, rfl⟩ ⟨rfl, rfl⟩ ⟨rfl, rfl, rfl⟩ ⟨rfl, rfl⟩
  · exact ofEntries?_of_fields fits ⟨rfl, rfl, rfl, rfl⟩ ⟨rfl, rfl, rfl⟩ ⟨rfl, rfl⟩ ⟨rfl, rfl, rfl⟩ ⟨rfl, rfl⟩

/-! ### Settings as a text -/

/-- Settings whose numbers and texts need no escapes. -/
def Plain (s : Settings) : Prop :=
  ∀ entry ∈ s.sections, ∀ field ∈ entry.2, Simple field.2

instance (s : Settings) : Decidable s.Plain :=
  inferInstanceAs (Decidable (∀ entry ∈ s.sections, ∀ field ∈ entry.2, Simple field.2))

theorem Plain.fits (plain : s.Plain) : s.Fits := by
  simp only [Plain, sections, List.forall_mem_cons, Simple] at plain
  obtain ⟨⟨code, external, upper, -⟩, -, ⟨frame, arrow, step, -⟩, -⟩ := plain
  constructor <;> simp only [sizeBound] <;> omega

theorem Plain.sections (plain : s.Plain) : PlainSections s.sections where
  bare := by
    simp only [Settings.sections, List.forall_mem_cons]
    decide
  fields := by
    intro entry member
    have names : (∀ field ∈ entry.2, Bare field.1) ∧ entry.2.Pairwise fun first second => first.1 ≠ second.1 := by
      revert entry
      simp only [Settings.sections, List.forall_mem_cons, List.pairwise_cons]
      decide
    exact ⟨names.1, plain entry member, names.2⟩
  distinct := by
    simp only [Settings.sections, List.forall_mem_cons, List.pairwise_cons]
    decide

theorem plain_default : default.Plain := by
  decide

/-- Settings that pass all checks are read back from the document that holds them. -/
theorem ofText_written (valid : s.Valid) (plain : s.Plain) : ofText (document s.sections) = .ok s := by
  rw [ofText_eq_ok_iff, parse_document plain.sections, Option.bind_some]
  exact ⟨(ofEntries?_written plain.fits).1, valid⟩

end Mcs51.Settings
