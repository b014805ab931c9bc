import Mcs51.Proofs.Settings.Checks
import Mcs51.Startup.Launch

/-! # Command lines and launches

A command line is accepted exactly if it is made of settings files, each behind its option, and of at most one
program (`Arguments.parse_eq_ok_iff_items`). A launch ends with a console or says why it does not
(`Launch.messages_of_failed`). The console has the settings that were read, all of them in range, and the machine
that they ask for (`Launch.console_inDirectory`); of the files, only the log is touched
(`Launch.files_inDirectory`).
-/

namespace Mcs51

namespace Arguments

/-- A part of a command line. -/
inductive Item
  | program (name : String)
  | config (option path : String)

namespace Item

def words : Item → List String
  | program name => [name]
  | config option path => [option, path]

def program? : Item → Option String
  | program name => some name
  | config .. => .none

def config? : Item → Option String
  | program _ => .none
  | config _ path => some path

/-- A program does not look like an option, and a settings file stands behind its own. -/
def Valid : Item → Prop
  | program name => name.toList.head? ≠ some '-'
  | config option _ => isConfigOption option = true

end Item

theorem not_isConfigOption {argument : String} (plain : argument.toList.head? ≠ some '-') :
    ¬isConfigOption argument = true := by
  rw [isConfigOption, Bool.or_eq_true, beq_iff_eq, beq_iff_eq]
  rintro (rfl | rfl)
  · exact plain (by decide)
  · exact plain (by decide)

/-- Arguments that are made of items, and what they are read as behind earlier ones. -/
structure Made (seen a : Arguments) (arguments : List String) (items : List Item) : Prop where
  words : arguments = items.flatMap Item.words
  valid : ∀ item ∈ items, item.Valid
  program : seen.program.toList ++ items.filterMap Item.program? = a.program.toList
  config : (items.filterMap Item.config?).getLast?.or seen.config = a.config

variable {seen a : Arguments} {argument path : String} {rest : List String} {items : List Item}

private theorem made_nil : (∃ items, Made seen a [] items) ↔ seen = a := by
  constructor
  · rintro ⟨items, words, _, program, config⟩
    cases items with
    | nil =>
      obtain ⟨p, c⟩ := seen
      obtain ⟨q, d⟩ := a
      obtain rfl : c = d := config
      rw [List.filterMap_nil, List.append_nil] at program
      cases p <;> cases q <;> simp_all
    | cons item items => cases item <;> contradiction
  · rintro rfl
    exact ⟨[], rfl, fun _ absent => absurd absent List.not_mem_nil, List.append_nil _, rfl⟩

/-- A settings file behind its option is read over an earlier one. -/
private theorem made_config (option : isConfigOption argument = true) :
    (∃ items, Made seen a (argument :: path :: rest) items) ↔
      ∃ items, Made { seen with config := some path } a rest items := by
  have last (paths : List String) : (path :: paths).getLast?.or seen.config = paths.getLast?.or (some path) := by
    rw [List.getLast?_cons]
    cases paths.getLast? <;> rfl
  constructor
  · rintro ⟨items, words, valid, program, config⟩
    cases items with
    | nil => contradiction
    | cons item items =>
      obtain ⟨first, others⟩ := List.forall_mem_cons.mp valid
      simp only [List.flatMap_cons] at words
      cases item with
      | program name =>
        obtain ⟨rfl, _⟩ := List.cons.inj words
        exact absurd option (not_isConfigOption first)
      | config option path' =>
        simp only [Item.words, List.cons_append, List.nil_append, List.cons.injEq] at words
        obtain ⟨rfl, rfl, words⟩ := words
        exact ⟨items, words, others, program, (last _).symm.trans config⟩
  · rintro ⟨items, words, valid, program, config⟩
    exact ⟨.config argument path :: items, congrArg (argument :: path :: ·) words,
      List.forall_mem_cons.mpr ⟨option, valid⟩, program, (last _).trans config⟩

/-- A program is read if there is none yet. -/
private theorem made_program (plain : argument.toList.head? ≠ some '-') :
    (∃ items, Made seen a (argument :: rest) items) ↔
      seen.program = .none ∧ ∃ items, Made { seen with program := some argument } a rest items := by
  constructor
  · rintro ⟨items, words, valid, program, config⟩
    cases items with
    | nil => contradiction
    | cons item items =>
      obtain ⟨first, others⟩ := List.forall_mem_cons.mp valid
      simp only [List.flatMap_cons] at words
      cases item with
      | program name =>
        simp only [Item.words, List.cons_append, List.nil_append, List.cons.injEq] at words
        obtain ⟨rfl, words⟩ := words
        cases earlier : seen.program with
        | none =>
          rw [earlier] at program
          exact ⟨rfl, items, words, others, program, config⟩
        | some other =>
          have single : a.program.toList.length ≤ 1 := by
            cases a.program
            · exact Nat.zero_le 1
            · exact Nat.le_refl 1
          rw [← program, earlier, List.length_append, List.filterMap_cons, Item.program?] at single
          simp only [Option.toList_some, List.length_cons, List.length_nil] at single
          omega
      | config option path =>
        obtain ⟨rfl, _⟩ := List.cons.inj words
        exact absurd first (not_isConfigOption plain)
  · rintro ⟨none, items, words, valid, program, config⟩
    refine ⟨.program argument :: items, congrArg (argument :: ·) words, List.forall_mem_cons.mpr ⟨plain, valid⟩, ?_,
      config⟩
    rw [none]
    exact program

/-- What looks like an option is read if it has a settings file behind it. -/
private theorem not_made (dash : argument.toList.head? = some '-')
    (alone : isConfigOption argument = true → rest = []) :
    ¬∃ items, Made seen a (argument :: rest) items := by
  rintro ⟨items, words, valid, _⟩
  cases items with
  | nil => contradiction
  | cons item items =>
    obtain ⟨first, _⟩ := List.forall_mem_cons.mp valid
    simp only [List.flatMap_cons] at words
    cases item with
    | program name =>
      obtain ⟨rfl, _⟩ := List.cons.inj words
      exact first dash
    | config option path =>
      simp only [Item.words, List.cons_append, List.nil_append, List.cons.injEq] at words
      obtain ⟨rfl, words⟩ := words
      rw [alone first] at words
      contradiction

private theorem dash_of_isConfigOption (option : isConfigOption argument = true) :
    argument.toList.head? = some '-' := by
  by_cases dash : argument.toList.head? = some '-'
  · exact dash
  · exact absurd option (not_isConfigOption dash)

/-- What is read onto earlier arguments. -/
theorem parseOnto_eq_ok_iff {arguments : List String} :
    parseOnto seen arguments = .ok a ↔ ∃ items, Made seen a arguments items := by
  fun_induction parseOnto seen arguments with
  | case1 seen => rw [made_nil, Except.ok.injEq]
  | case2 seen argument option =>
    exact iff_of_false nofun (not_made (dash_of_isConfigOption option) fun _ => rfl)
  | case3 seen argument option path rest ih => rw [ih, made_config option]
  | case4 seen argument rest other dash => exact iff_of_false nofun (not_made dash fun option => absurd option other)
  | case5 seen argument rest _ plain earlier =>
    rw [made_program plain]
    refine iff_of_false nofun ?_
    rintro ⟨none, _⟩
    rw [none] at earlier
    contradiction
  | case6 seen argument rest _ plain earlier ih =>
    rw [made_program plain, ih, and_iff_right]
    exact Option.not_isSome_iff_eq_none.mp earlier

/-- A command line is made of settings files and at most one program; of the settings files the last one counts. -/
theorem parse_eq_ok_iff_items {arguments : List String} :
    parse arguments = .ok a ↔
      ∃ items : List Item, arguments = items.flatMap Item.words ∧ (∀ item ∈ items, item.Valid) ∧
        items.filterMap Item.program? = a.program.toList ∧ (items.filterMap Item.config?).getLast? = a.config := by
  rw [parse, parseOnto_eq_ok_iff]
  constructor
  · rintro ⟨items, words, valid, program, config⟩
    exact ⟨items, words, valid, program, (Option.or_none ..).symm.trans config⟩
  · rintro ⟨items, words, valid, program, config⟩
    exact ⟨items, words, valid, program, (Option.or_none ..).trans config⟩

end Arguments

/-- The machine that settings ask for. -/
def Settings.newMachine (s : Settings) : Machine :=
  Machine.new s.codeSize s.externalSize s.upperSize

/-- The console around a machine that settings ask for. -/
def Settings.newConsole (s : Settings) (machine : Machine) : Console :=
  Console.new machine (Clock.new s.speed s.maxTicksPerFrame)

namespace Launch

variable {arguments : List String} {files : Directory}

/-- What a launch in a working directory makes, and the directory that it leaves. -/
def inDirectory (arguments : List String) (files : Directory) : Launch × Directory :=
  run Directory.access arguments files

theorem inDirectory_of_usage {e : UsageError} (refused : Arguments.parse arguments = .error e) :
    inDirectory arguments files = (failed ["Error: " ++ e.message, "", usage], files) := by
  rw [inDirectory, run, refused]
  rfl

/-- Reading settings leaves the files alone. -/
theorem settings_access (config : Option String) (files : Directory) :
    settings Directory.access config files =
      (match config with
        | none => .ok Settings.default
        | some path =>
          match files.read path with
          | .error cause => .error (.unreadable path cause)
          | .ok text => Settings.ofText text, files) := by
  cases config with
  | none => rfl
  | some path =>
    dsimp only [settings, bind, StateT.bind, Directory.access]
    cases files.read path <;> rfl

/-- Settings that a launch goes on with are in range. -/
theorem valid_settings {config : Option String} {s : Settings}
    (read : (settings Directory.access config files).1 = .ok s) : s.Valid := by
  rw [settings_access] at read
  cases config with
  | none =>
    obtain rfl := Except.ok.inj read
    exact Settings.valid_default
  | some path =>
    dsimp only at read
    cases content : files.read path with
    | error cause =>
      rw [content] at read
      contradiction
    | ok text =>
      rw [content] at read
      exact (Settings.ofText_eq_ok_iff.mp read).2

private theorem openLog_access (path level : String) (files : Directory) :
    openLog Directory.access path level files =
      match files.create path with
      | .ok files => (LogFilter.warnings level, files)
      | .error cause => (["Warning: cannot open log file " ++ path ++ ": " ++ cause.message], files) := by
  dsimp only [openLog, bind, StateT.bind, Directory.access]
  cases files.create path <;> rfl

theorem load_access (machine : Machine) (path : String) (files : Directory) :
    load Directory.access machine path files =
      (match files.read path with
        | .error cause => ("Error loading " ++ path ++ ": " ++ cause.message, none)
        | .ok text =>
          match machine.loadHex text with
          | .error cause => ("Error loading " ++ path ++ ": " ++ cause.message, none)
          | .ok (count, machine) => (s!"Loaded {count} bytes from " ++ path, some machine), files) := by
  dsimp only [load, bind, StateT.bind, Directory.access]
  cases files.read path with
  | error cause => rfl
  | ok text =>
    dsimp only
    cases machine.loadHex text <;> rfl

private theorem files_load (machine : Machine) (path : String) (files : Directory) :
    (load Directory.access machine path files).2 = files := by
  rw [load_access]

theorem inDirectory_of_refused {a : Arguments} {e : SettingsError} (accepted : Arguments.parse arguments = .ok a)
    (refused : (settings Directory.access a.config files).1 = .error e) :
    inDirectory arguments files = (failed ["Config error: " ++ e.message], files) := by
  have read : settings Directory.access a.config files = (.error e, files) := by
    rw [← refused, settings_access]
  rw [inDirectory, run, accepted]
  dsimp only [bind, StateT.bind]
  rw [read]
  rfl

theorem inDirectory_of_settings {a : Arguments} {s : Settings} (accepted : Arguments.parse arguments = .ok a)
    (valid : (settings Directory.access a.config files).1 = .ok s) :
    inDirectory arguments files =
      let log := openLog Directory.access s.logFile s.logLevel files
      match a.program with
      | none => (⟨log.1, some (s.newConsole s.newMachine, s)⟩, log.2)
      | some path =>
        let loaded := (load Directory.access s.newMachine path log.2).1
        (⟨log.1 ++ [loaded.1], loaded.2.map fun machine => (s.newConsole machine, s)⟩, log.2) := by
  have read : settings Directory.access a.config files = (.ok s, files) := by
    rw [← valid, settings_access]
  rw [inDirectory, run, accepted]
  dsimp only [bind, StateT.bind]
  rw [read]
  cases program : a.program with
  | none => rfl
  | some path => exact Prod.ext rfl (files_load s.newMachine path _)

/-- The console of a launch has the settings that were read, all of them in range, and the machine that they ask for,
with the program of the command line loaded. -/
theorem console_inDirectory {c : Console} {s : Settings}
    (launched : (inDirectory arguments files).1.console = some (c, s)) :
    ∃ a, Arguments.parse arguments = .ok a ∧ (settings Directory.access a.config files).1 = .ok s ∧ s.Valid ∧
      ((a.program = none ∧ c = s.newConsole s.newMachine) ∨
        ∃ path text count machine, a.program = some path ∧ (inDirectory arguments files).2.read path = .ok text ∧
          s.newMachine.loadHex text = .ok (count, machine) ∧ c = s.newConsole machine) := by
  cases accepted : Arguments.parse arguments with
  | error e =>
    rw [inDirectory_of_usage accepted] at launched
    contradiction
  | ok a =>
    cases read : (settings Directory.access a.config files).1 with
    | error e =>
      rw [inDirectory_of_refused accepted read] at launched
      contradiction
    | ok t =>
      rw [inDirectory_of_settings accepted read] at launched ⊢
      cases program : a.program with
      | none =>
        rw [program] at launched
        obtain ⟨rfl, rfl⟩ := Prod.mk.inj (Option.some.inj launched)
        exact ⟨a, rfl, read, valid_settings read, .inl ⟨program, rfl⟩⟩
      | some path =>
        simp only [program, load_access] at launched ⊢
        cases content : (openLog Directory.access t.logFile t.logLevel files).2.read path with
        | error cause =>
          rw [content] at launched
          contradiction
        | ok text =>
          rw [content] at launched
          dsimp only at launched
          cases load : t.newMachine.loadHex text with
          | error cause =>
            rw [load] at launched
            contradiction
          | ok loaded =>
            rw [load] at launched
            obtain ⟨rfl, rfl⟩ := Prod.mk.inj (Option.some.inj launched)
            refine ⟨a, rfl, read, valid_settings read, .inr ?_⟩
            exact ⟨path, text, loaded.1, loaded.2, program, content, load, rfl⟩

/-- A launch without a console says why. -/
theorem messages_of_failed (failed : (inDirectory arguments files).1.console = none) :
    (inDirectory arguments files).1.messages ≠ [] := by
  cases accepted : Arguments.parse arguments with
  | error e =>
    rw [inDirectory_of_usage accepted]
    exact List.cons_ne_nil _ _
  | ok a =>
    cases read : (settings Directory.access a.config files).1 with
    | error e =>
      rw [inDirectory_of_refused accepted read]
      exact List.cons_ne_nil _ _
    | ok s =>
      rw [inDirectory_of_settings accepted read] at failed ⊢
      cases program : a.program with
      | none =>
        rw [program] at failed
        contradiction
      | some path => exact List.append_ne_nil_of_right_ne_nil _ (List.cons_ne_nil _ _)

/-- The only file that a launch touches is the log, which is created or emptied. -/
theorem files_inDirectory (arguments : List String) (files : Directory) :
    (inDirectory arguments files).2 = files ∨
      ∃ a s, Arguments.parse arguments = .ok a ∧ (settings Directory.access a.config files).1 = .ok s ∧
        files.create s.logFile = .ok (inDirectory arguments files).2 := by
  cases accepted : Arguments.parse arguments with
  | error e => exact .inl (congrArg Prod.snd (inDirectory_of_usage accepted))
  | ok a =>
    cases read : (settings Directory.access a.config files).1 with
    | error e => exact .inl (congrArg Prod.snd (inDirectory_of_refused accepted read))
    | ok s =>
      have log : (inDirectory arguments files).2 = (openLog Directory.access s.logFile s.logLevel files).2 := by
        rw [inDirectory_of_settings accepted read]
        cases a.program <;> rfl
      rw [log, openLog_access]
      cases created : files.create s.logFile with
      | error cause => exact .inl rfl
      | ok next => exact .inr ⟨a, s, rfl, read, created⟩

end Launch

end Mcs51
