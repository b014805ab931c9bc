import Mcs51.Files

/-! # Creating a file

A file that was created is there and empty, and nothing else has changed (`entry_create`). In particular a path
that led to a file still leads to it, with the content it had, unless that file is the one that was emptied
(`read_create_of_read`). All of this holds as long as the working directory and the directories above it are
directories (`Rooted`), which creating a file does not change.
-/

namespace Mcs51.Directory

variable {d e : Directory} {place other : Location} {path : String}

/-- The working directory and the directories above it are directories. -/
def Rooted (d : Directory) : Prop :=
  ∀ place, place <+: Location.working → d.entry place = .directory

/-- A working directory is rooted if all its files have names. -/
theorem rooted_ofFiles {files : List (String × String)} (named : ∀ file ∈ files, (Path.ofText file.1).names ≠ []) :
    (ofFiles files).Rooted := by
  intro place inside
  have short : place.length ≤ Location.working.length := inside.length_le
  have absent : (ofFiles files).files.lookup place = none := by
    rw [List.lookup_eq_none_iff]
    intro file member
    obtain ⟨source, listed, rfl⟩ := List.mem_map.mp member
    rw [bne_iff_ne]
    rintro rfl
    rw [List.length_append] at short
    have := List.length_pos_iff.mpr (named source listed)
    omega
  have known : (place = Location.root || Location.systemDirectories.contains place) = true ∧ place ≠ nullDevice := by
    have part : place = Location.working.take place.length := List.prefix_iff_eq_take.mp inside
    have lengths : place.length = 0 ∨ place.length = 1 ∨ place.length = 2 := by
      have two : Location.working.length = 2 := rfl
      omega
    rcases lengths with none | one | two
    · rw [part, none]
      decide
    · rw [part, one]
      decide
    · rw [part, two]
      decide
  rw [entry, if_neg known.2, absent]
  exact if_pos (by rw [known.1, Bool.true_or])

/-- The directory with an empty file at a place. -/
def emptied (d : Directory) (place : Location) : Directory :=
  ⟨(place, "") :: d.files.filter (·.1 != place)⟩

/-! ### Ways through directories -/

private theorem start_working (text : String) : (Path.ofText text).start <+: Location.working := by
  rw [Path.ofText]
  split
  · exact List.nil_prefix
  · exact List.prefix_rfl

/-- Every place above the end of a way is a directory. -/
theorem directory_of_walk {names : List String} (above : ∀ p, p <+: place → p ≠ place → d.entry p = .directory)
    (walked : d.walk place names = .ok other) : ∀ p, p <+: other → p ≠ other → d.entry p = .directory := by
  fun_induction walk d place names with
  | case1 place =>
    obtain rfl := Except.ok.inj walked
    exact above
  | case5 place rest _ ih => exact ih above walked
  | case6 place rest _ _ ih =>
    refine ih (fun p inside different => above p (inside.trans (List.dropLast_prefix place)) ?_) walked
    rintro rfl
    exact different (inside.eq_of_length (Nat.le_antisymm inside.length_le (List.dropLast_prefix p).length_le))
  | case8 place name rest here _ _ _ ih =>
    refine ih (fun p inside different => ?_) walked
    rcases List.prefix_concat_iff.mp inside with same | inside
    · exact absurd same different
    · by_cases last : p = place
      · rwa [last]
      · exact above p inside last
  | case2 | case3 | case4 | case7 => contradiction

/-- A way leads through every directory that has the same directories. -/
theorem walk_of_directories {names : List String} (kept : ∀ p, d.entry p = .directory → e.entry p = .directory)
    (walked : d.walk place names = .ok other) : e.walk place names = .ok other := by
  fun_induction walk d place names with
  | case1 place => exact walked
  | case5 place rest here ih =>
    rw [walk, kept _ here]
    exact (if_pos rfl).trans (ih walked)
  | case6 place rest here different ih =>
    rw [walk, kept _ here]
    exact (if_neg different).trans ((if_pos rfl).trans (ih walked))
  | case8 place name rest here one two short ih =>
    rw [walk, kept _ here]
    exact (if_neg one).trans ((if_neg two).trans ((if_neg short).trans (ih walked)))
  | case2 | case3 | case4 | case7 => contradiction

/-! ### The new file -/

private theorem lookup_filter_ne {files : List (Location × String)} (different : other ≠ place) :
    (files.filter (·.1 != place)).lookup other = files.lookup other := by
  induction files with
  | nil => rfl
  | cons file rest ih =>
    by_cases removed : file.1 = place
    · have miss : (other == file.1) = false := beq_eq_false_iff_ne.mpr (removed ▸ different)
      rw [List.filter_cons_of_neg (by simpa using removed), ih, List.lookup_cons, miss]
    · rw [List.filter_cons_of_pos (by simpa using removed), List.lookup_cons, List.lookup_cons, ih]

theorem entry_emptied_self (d : Directory) (place : Location) : (d.emptied place).entry place = .file "" := by
  have found : (d.emptied place).files.lookup place = some "" := List.lookup_cons_self
  unfold entry
  split
  · rfl
  · rw [found]

/-- An empty file below directories leaves all other places as they are. -/
theorem entry_emptied_of_ne (above : ∀ p, p <+: place → p ≠ place → d.entry p = .directory)
    (different : other ≠ place) : (d.emptied place).entry other = d.entry other := by
  have miss : (other == place) = false := beq_eq_false_iff_ne.mpr different
  have found : (d.emptied place).files.lookup other = d.files.lookup other := by
    rw [emptied, List.lookup_cons, miss]
    exact lookup_filter_ne different
  by_cases null : other = nullDevice
  · rw [entry, entry, if_pos null, if_pos null]
  rw [entry, entry, if_neg null, if_neg null, found]
  by_cases inside : other <+: place
  · have here := above other inside different
    have reached : (d.emptied place).hasFileBelow other = true := by
      rw [hasFileBelow, emptied, List.any_cons, List.isPrefixOf_iff_prefix.mpr inside, Bool.true_or]
    rw [entry, if_neg null] at here
    rw [here]
    cases file : d.files.lookup other with
    | some content =>
      rw [file] at here
      contradiction
    | none => rw [reached, Bool.or_true, if_pos rfl]
  · have apart : other.isPrefixOf place = false := by
      rw [Bool.eq_false_iff, ne_eq, List.isPrefixOf_iff_prefix]
      exact inside
    have below : (d.emptied place).hasFileBelow other = d.hasFileBelow other := by
      rw [hasFileBelow, emptied, List.any_cons, apart, Bool.false_or, List.any_filter]
      refine congrArg (List.any d.files) (funext fun file => ?_)
      by_cases here : file.1 = place
      · rw [here, apart, Bool.and_false]
      · rw [bne_iff_ne.mpr here, Bool.true_and]
    rw [below]

private theorem filter_of_missing (missing : d.entry place = .missing) : d.files.filter (·.1 != place) = d.files := by
  have absent : d.files.lookup place = none := by
    rw [entry] at missing
    split at missing
    · contradiction
    · cases file : d.files.lookup place with
      | none => rfl
      | some content =>
        rw [file] at missing
        contradiction
  rw [List.filter_eq_self]
  intro file member
  have different := List.lookup_eq_none_iff.mp absent file member
  rwa [bne_comm] at different

/-- A file is created at the end of a way through directories, where there is no directory. -/
theorem create_eq (created : d.create path = .ok e) :
    ∃ place, Path.fault? path = none ∧ (Path.ofText path).slashed = false ∧
      d.walk (Path.ofText path).start (Path.ofText path).names = .ok place ∧ d.entry place ≠ .directory ∧
      e = d.emptied place := by
  unfold create at created
  cases sound : Path.fault? path with
  | some fault =>
    rw [sound] at created
    contradiction
  | none =>
    rw [sound] at created
    dsimp only at created
    cases slashed : (Path.ofText path).slashed with
    | true =>
      rw [slashed, if_pos rfl] at created
      cases walked : d.walk (Path.ofText path).start ((Path.ofText path).names.dropLast ++ ["."]) with
      | error fault =>
        rw [walked] at created
        contradiction
      | ok place =>
        rw [walked] at created
        contradiction
    | false =>
      rw [slashed, if_neg Bool.false_ne_true] at created
      cases walked : d.walk (Path.ofText path).start (Path.ofText path).names with
      | error fault =>
        rw [walked] at created
        contradiction
      | ok place =>
        rw [walked] at created
        refine ⟨place, rfl, rfl, rfl, ?_⟩
        dsimp only [bind, Except.bind] at created
        cases here : d.entry place with
        | directory =>
          rw [here] at created
          contradiction
        | missing =>
          rw [here] at created
          dsimp only at created
          split at created
          · contradiction
          · obtain rfl := Except.ok.inj created
            rw [emptied, filter_of_missing here]
            exact ⟨nofun, rfl⟩
        | file content | binary =>
          rw [here] at created
          obtain rfl := Except.ok.inj created
          exact ⟨nofun, rfl⟩

/-- Creating a file makes an empty one and leaves everything else as it is. -/
theorem entry_create (rooted : d.Rooted) (created : d.create path = .ok e) :
    ∃ place, d.walk (Path.ofText path).start (Path.ofText path).names = .ok place ∧ d.entry place ≠ .directory ∧
      e.entry place = .file "" ∧ ∀ other, other ≠ place → e.entry other = d.entry other := by
  obtain ⟨place, _, _, walked, free, rfl⟩ := create_eq created
  refine ⟨place, walked, free, d.entry_emptied_self place, fun other => entry_emptied_of_ne ?_⟩
  exact directory_of_walk (fun p inside _ => rooted p (inside.trans (start_working path))) walked

/-- What was a directory stays one. -/
theorem directory_create (rooted : d.Rooted) (created : d.create path = .ok e) {p : Location}
    (here : d.entry p = .directory) : e.entry p = .directory := by
  obtain ⟨place, _, free, _, others⟩ := entry_create rooted created
  have different : p ≠ place := by
    rintro rfl
    exact free here
  rw [others p different, here]

theorem Rooted.create (rooted : d.Rooted) (created : d.create path = .ok e) : e.Rooted :=
  fun p inside => directory_create rooted created (rooted p inside)

/-- A path is read if it leads to a file. A slash at its end asks for a directory. -/
theorem read_eq_ok_iff {text : String} :
    d.read path = .ok text ↔ Path.fault? path = none ∧ ∃ place,
      d.walk (Path.ofText path).start
        ((Path.ofText path).names ++ if (Path.ofText path).slashed then ["."] else []) = .ok place ∧
      d.entry place = .file text := by
  unfold read
  cases sound : Path.fault? path with
  | some fault => exact iff_of_false nofun nofun
  | none =>
    dsimp only
    cases walked : d.walk (Path.ofText path).start
        ((Path.ofText path).names ++ if (Path.ofText path).slashed then ["."] else []) with
    | error fault =>
      refine iff_of_false nofun ?_
      rintro ⟨_, _, ⟨⟩, _⟩
    | ok place =>
      simp only [true_and, Except.ok.injEq, exists_eq_left']
      dsimp only [bind, Except.bind]
      cases d.entry place with
      | file content =>
        exact ⟨fun same => congrArg Entry.file (Except.ok.inj same), fun same => congrArg _ (Entry.file.inj same)⟩
      | binary | directory | missing => exact iff_of_false nofun nofun

/-- The created file is empty. -/
theorem read_create (rooted : d.Rooted) (created : d.create path = .ok e) : e.read path = .ok "" := by
  obtain ⟨place, sound, plain, walked, _, rfl⟩ := create_eq created
  rw [read_eq_ok_iff, plain, if_neg Bool.false_ne_true, List.append_nil]
  exact ⟨sound, place, walk_of_directories (fun _ => directory_create rooted created) walked,
    d.entry_emptied_self place⟩

/-- A path that led to a file leads to the same file, which is as before unless it is the one that was emptied. -/
theorem read_create_of_read (rooted : d.Rooted) (created : d.create path = .ok e) {other text : String}
    (content : d.read other = .ok text) : e.read other = .ok text ∨ e.read other = .ok "" := by
  obtain ⟨sound, place, walked, file⟩ := read_eq_ok_iff.mp content
  obtain ⟨made, _, _, empty, others⟩ := entry_create rooted created
  have walked' := walk_of_directories (fun _ => directory_create rooted created) walked
  rw [read_eq_ok_iff, read_eq_ok_iff]
  by_cases same : place = made
  · exact .inr ⟨sound, place, walked', same ▸ empty⟩
  · exact .inl ⟨sound, place, walked', (others place same).trans file⟩

end Mcs51.Directory
