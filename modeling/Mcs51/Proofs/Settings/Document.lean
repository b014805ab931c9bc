import Mcs51.Settings.Toml.Document

/-! # Documents as they are written

A document in the plain style has sections with bare names, and in each of them lines of a bare key and an integer or
a text without escapes. It is read as the table of its sections (`parse_document`). Reading goes along the text from
the front: a bare key is read (`key_bare`), a value up to the end of its line (`value_written`), and so line by line
(`documentLines_field`, `documentLines_header`) each section is put behind those in front of it.
-/

namespace Mcs51.Toml

/-! ### The plain style -/

/-- A name that stands without quotes. -/
structure Bare (name : String) : Prop where
  nonempty : name.toList ≠ []
  each : ∀ c ∈ name.toList, isBare c = true

instance (name : String) : Decidable (Bare name) :=
  decidable_of_iff (name.toList ≠ [] ∧ name.toList.all isBare = true)
    ⟨fun ⟨nonempty, each⟩ => ⟨nonempty, List.all_eq_true.mp each⟩,
      fun bare => ⟨bare.nonempty, List.all_eq_true.mpr bare.each⟩⟩

/-- A natural number of 63 bits, or a text that holds nothing to escape. -/
def Simple : Value → Prop
  | .integer n => 0 ≤ n ∧ n < 0x8000000000000000
  | .string text => ∀ c ∈ text.toList, isPlain c = true ∧ c ≠ '\x22' ∧ c ≠ '\\'
  | _ => False

instance : (v : Value) → Decidable (Simple v)
  | .integer n => inferInstanceAs (Decidable (0 ≤ n ∧ n < 0x8000000000000000))
  | .string text => List.decidableBAll (fun c => isPlain c = true ∧ c ≠ '\x22' ∧ c ≠ '\\') text.toList
  | .float | .boolean | .dateTime | .array _ | .table _ _ | .tables _ => isFalse id

def written : Value → List Char
  | .integer n => Nat.toDigits 10 n.toNat
  | .string text => '\x22' :: (text.toList ++ ['\x22'])
  | _ => []

/-- A line with a key and its value. -/
def fieldLine (field : String × Value) : List Char :=
  field.1.toList ++ ' ' :: '=' :: ' ' :: (written field.2 ++ ['\n'])

/-- The lines of a section: its header and its fields. -/
def sectionLines (s : String × Entries) : List Char :=
  '[' :: (s.1.toList ++ ']' :: '\n' :: s.2.flatMap fieldLine)

def document (sections : List (String × Entries)) : String :=
  String.ofList (sections.flatMap sectionLines)

/-- Fields of the plain style, no two of which have the same key. -/
structure PlainFields (fields : Entries) : Prop where
  bare : ∀ field ∈ fields, Bare field.1
  simple : ∀ field ∈ fields, Simple field.2
  distinct : fields.Pairwise fun first second => first.1 ≠ second.1

/-- Sections of the plain style, no two of which have the same name. -/
structure PlainSections (sections : List (String × Entries)) : Prop where
  bare : ∀ s ∈ sections, Bare s.1
  fields : ∀ s ∈ sections, PlainFields s.2
  distinct : sections.Pairwise fun first second => first.1 ≠ second.1

/-! ### Keys -/

variable {name : String} {rest more : List Char} {fuel : Nat}

theorem skipSpaces_of_head (dark : ∀ c ∈ rest.head?, isSpace c = false) : skipSpaces rest = rest := by
  cases rest with
  | nil => rfl
  | cons c rest => exact List.dropWhile_cons_of_neg (by simpa using dark c rfl)

theorem Bare.head_append (bare : Bare name) (rest : List Char) :
    ∀ c ∈ (name.toList ++ rest).head?, isBare c = true := by
  obtain ⟨first, others, name⟩ := List.exists_cons_of_ne_nil bare.nonempty
  intro c head
  rw [name] at head
  obtain rfl := Option.some.inj head
  exact bare.each _ (name ▸ List.mem_cons_self ..)

private theorem keyPart_bare (bare : Bare name) (stop : ∀ c ∈ rest.head?, isBare c = false) :
    keyPart fuel (name.toList ++ rest) = some (name, rest) := by
  have ends : rest.takeWhile isBare = [] ∧ rest.dropWhile isBare = rest := by
    cases rest with
    | nil => exact ⟨rfl, rfl⟩
    | cons c rest =>
      have no := stop c rfl
      exact ⟨List.takeWhile_cons_of_neg (by simp [no]), List.dropWhile_cons_of_neg (by simp [no])⟩
  have taken : (name.toList ++ rest).takeWhile isBare = name.toList := by
    rw [List.takeWhile_append_of_pos bare.each, ends.1, List.append_nil]
  have left : (name.toList ++ rest).dropWhile isBare = rest := by
    rw [List.dropWhile_append_of_pos bare.each, ends.2]
  have first := bare.head_append rest
  unfold keyPart
  split
  next quoted => exact absurd (first '\x22' (by rw [quoted]; rfl)) (by decide)
  next quoted => exact absurd (first '\x27' (by rw [quoted]; rfl)) (by decide)
  next =>
    dsimp only
    rw [taken, left, String.ofList_toList, if_neg]
    rw [List.isEmpty_iff]
    exact bare.nonempty

theorem isSpace_of_isBare {c : Char} (bare : isBare c = true) : isSpace c = false := by
  rw [Bool.eq_false_iff, isSpace, ne_eq, Bool.or_eq_true, decide_eq_true_eq, decide_eq_true_eq]
  rintro (rfl | rfl) <;> exact absurd bare (by decide)

/-- A bare key is read up to the sign behind it, which is no dot. -/
theorem key_bare (bare : Bare name) (stop : ∀ c ∈ rest.head?, isBare c = false)
    (undotted : (skipSpaces rest).head? ≠ some '.') :
    key (fuel + 1) (name.toList ++ rest) = some (([], name), skipSpaces rest) := by
  have front : skipSpaces (name.toList ++ rest) = name.toList ++ rest :=
    skipSpaces_of_head fun c head => isSpace_of_isBare (bare.head_append _ c head)
  have parts : keyParts [] (fuel + 1) (name.toList ++ rest) = some ([name], skipSpaces rest) := by
    rw [keyParts, front, keyPart_bare bare stop]
    dsimp only [bind, Option.bind]
    split
    next dotted =>
      rw [dotted] at undotted
      contradiction
    next => rfl
  rw [key, parts]
  rfl

/-! ### Numbers -/

/-- A positive number is written without a leading zero. -/
theorem head_toDigits {n : Nat} (positive : n ≠ 0) : (Nat.toDigits 10 n).head? ≠ some '0' := by
  induction n using Nat.strongRecOn with
  | ind n ih =>
    by_cases small : n < 10
    · have each : ∀ d < 10, d ≠ 0 → some (Nat.digitChar d) ≠ some '0' := by decide
      rw [Nat.toDigits_of_lt_base small]
      exact each n small positive
    · have before := ih (n / 10) (by omega) (by omega)
      rw [Nat.toDigits_of_base_le (by decide) (Nat.le_of_not_lt small)]
      obtain ⟨first, others, digits⟩ := List.exists_cons_of_ne_nil (Nat.toDigits_ne_nil (b := 10) (n := n / 10))
      rwa [digits] at before ⊢

theorem isDigit_of_mem_toDigits {n : Nat} {c : Char} (member : c ∈ Nat.toDigits 10 n) : c.isDigit = true :=
  Nat.isDigit_of_mem_toDigits (by decide) (by decide) member

private theorem hexValue?_of_isDigit {c : Char} (digit : c.isDigit = true) :
    Text.hexValue? c = some (c.toNat - '0'.toNat) := by
  rw [Char.isDigit, Bool.and_eq_true, decide_eq_true_eq, decide_eq_true_eq] at digit
  exact if_pos digit

/-- A number is read back from its digits. -/
theorem number_toDigits (n : Nat) : number 10 (Nat.toDigits 10 n) = n := by
  have digits (ds : List Char) (each : ∀ c ∈ ds, c.isDigit = true) (start : Nat) :
      ds.foldl (fun n c => 10 * n + (Text.hexValue? c).getD 0) start = Nat.ofDigitChars 10 ds start := by
    induction ds generalizing start with
    | nil => rfl
    | cons c ds ih =>
      rw [List.foldl_cons, hexValue?_of_isDigit (each c (List.mem_cons_self ..)),
        ih fun d member => each d (List.mem_cons_of_mem _ member)]
      rfl
  exact (digits _ (fun c => isDigit_of_mem_toDigits) 0).trans Nat.ofDigitChars_ten_toDigits

variable {ds : List Char}

private theorem digitRun_digits (each : ∀ c ∈ ds, c.isDigit = true) (more : List Char) :
    digitRun Char.isDigit (ds ++ '\n' :: more) = (ds, '\n' :: more) := by
  induction ds with
  | nil => cases more <;> rfl
  | cons c ds ih =>
    have digit := each c (List.mem_cons_self ..)
    have rest := ih fun d member => each d (List.mem_cons_of_mem _ member)
    rw [List.cons_append]
    unfold digitRun
    split
    next underscore =>
      obtain ⟨rfl, _⟩ := List.cons.inj underscore
      contradiction
    next same =>
      obtain ⟨rfl, rfl⟩ := List.cons.inj same
      rw [if_pos digit, rest]
    next => contradiction

/-- No sign of a date or a time stands in or behind a number. -/
theorem expect_of_field {count least greatest : Nat} {sign : Char} (other : sign.isDigit = false)
    (unfed : sign ≠ '\n') (each : ∀ c ∈ ds, c.isDigit = true) {r : Nat × List Char}
    (read : field count least greatest (ds ++ '\n' :: more) = some r) : expect sign r.2 = none := by
  unfold field at read
  dsimp only at read
  split at read
  next taken =>
    obtain rfl := Option.some.inj read
    simp only [Bool.and_eq_true, List.all_eq_true, decide_eq_true_eq] at taken
    obtain ⟨⟨⟨_, digits⟩, _⟩, _⟩ := taken
    -- The line end is no digit, so the field ends in front of it.
    have inside : count ≤ ds.length := by
      refine Nat.le_of_not_lt fun beyond => ?_
      have feed : '\n' ∈ (ds ++ '\n' :: more).take count := by
        rw [List.take_append, List.take_of_length_le (by omega)]
        obtain ⟨k, hk⟩ : ∃ k, count - ds.length = k + 1 := ⟨count - ds.length - 1, by omega⟩
        rw [hk, List.take_succ_cons]
        exact List.mem_append_right _ (List.mem_cons_self ..)
      exact absurd (digits _ feed) (by decide)
    rw [List.drop_append_of_le_length inside]
    cases behind : ds.drop count with
    | nil => exact if_neg unfed
    | cons c rest =>
      refine if_neg fun same => ?_
      have digit := each c (List.mem_of_mem_drop (behind ▸ List.mem_cons_self ..))
      rw [← same, other] at digit
      contradiction
  next => contradiction

private theorem dateTime_digits (each : ∀ c ∈ ds, c.isDigit = true) (more : List Char) :
    dateTime (ds ++ '\n' :: more) = none := by
  have date : date? (ds ++ '\n' :: more) = none := by
    unfold date?
    cases read : field 4 0 9999 (ds ++ '\n' :: more) with
    | none => rfl
    | some r =>
      dsimp only [bind, Option.bind]
      rw [expect_of_field (by decide) (by decide) each read]
  have time : time? (ds ++ '\n' :: more) = none := by
    unfold time?
    cases read : field 2 0 23 (ds ++ '\n' :: more) with
    | none => rfl
    | some r =>
      dsimp only [bind, Option.bind]
      rw [expect_of_field (by decide) (by decide) each read]
  rw [dateTime, date, time]
  rfl

private theorem decimal_toDigits (n : Nat) (more : List Char) :
    decimal (Nat.toDigits 10 n ++ '\n' :: more) = some (Nat.toDigits 10 n, '\n' :: more) := by
  by_cases zero : n = 0
  · rw [zero]
    rfl
  · have head := head_toDigits zero
    have each : ∀ c ∈ Nat.toDigits 10 n, c.isDigit = true := fun c => isDigit_of_mem_toDigits
    have run := digitRun_digits each more
    obtain ⟨c, ds, digits⟩ := List.exists_cons_of_ne_nil (Nat.toDigits_ne_nil (b := 10) (n := n))
    rw [digits] at head each run ⊢
    rw [List.cons_append] at run ⊢
    unfold decimal
    split
    next leading =>
      obtain ⟨rfl, _⟩ := List.cons.inj leading
      contradiction
    next =>
      rw [Toml.digits, if_pos (each c (List.mem_cons_self ..)), run]

/-- The digits of a number begin with a digit. -/
theorem toDigits_eq_cons (n : Nat) : ∃ c ds, Nat.toDigits 10 n = c :: ds ∧ c.isDigit = true := by
  obtain ⟨c, ds, digits⟩ := List.exists_cons_of_ne_nil (Nat.toDigits_ne_nil (b := 10) (n := n))
  exact ⟨c, ds, digits, isDigit_of_mem_toDigits (digits ▸ List.mem_cons_self ..)⟩

theorem ne_of_isDigit {c d : Char} (digit : c.isDigit = true) (other : d.isDigit = false) : c ≠ d := by
  rintro rfl
  rw [digit] at other
  contradiction

theorem sign_of_isDigit {c : Char} (digit : c.isDigit = true) (rest : List Char) :
    sign (c :: rest) = (false, c :: rest) := by
  unfold sign
  split
  next minus => exact absurd (List.cons.inj minus).1 (ne_of_isDigit digit rfl)
  next plus => exact absurd (List.cons.inj plus).1 (ne_of_isDigit digit rfl)
  next => rfl

/-- A number without a point and an exponent is no float. -/
private theorem float_toDigits (n : Nat) (more : List Char) : float (Nat.toDigits 10 n ++ '\n' :: more) = none := by
  have digits := decimal_toDigits n more
  obtain ⟨c, ds, cons, digit⟩ := toDigits_eq_cons n
  rw [cons, List.cons_append] at digits ⊢
  unfold float
  rw [sign_of_isDigit digit]
  dsimp only
  split
  next infinite => exact absurd (List.cons.inj infinite).1 (ne_of_isDigit digit rfl)
  next nan => exact absurd (List.cons.inj nan).1 (ne_of_isDigit digit rfl)
  next =>
    rw [digits]
    rfl

private theorem plain_toDigits {n : Nat} (small : n < 0x8000000000000000) (more : List Char) :
    integer.plain (Nat.toDigits 10 n ++ '\n' :: more) = some (.integer n, '\n' :: more) := by
  have fits : isInt64 n = true := by
    rw [isInt64, Bool.and_eq_true, decide_eq_true_eq, decide_eq_true_eq]
    omega
  have digits := decimal_toDigits n more
  obtain ⟨c, ds, cons, digit⟩ := toDigits_eq_cons n
  rw [cons, List.cons_append] at digits ⊢
  unfold integer.plain
  rw [sign_of_isDigit digit]
  dsimp only [bind, Option.bind]
  rw [digits]
  dsimp only
  rw [← cons, number_toDigits, if_neg Bool.false_ne_true, if_pos fits]
  rfl

private theorem integer_toDigits {n : Nat} (small : n < 0x8000000000000000) (more : List Char) :
    integer (Nat.toDigits 10 n ++ '\n' :: more) = some (.integer n, '\n' :: more) := by
  have plain := plain_toDigits small more
  obtain ⟨c, ds, cons, -⟩ := toDigits_eq_cons n
  unfold integer
  split
  next mark behind based =>
    -- Only the number zero begins with a zero, and then the line ends.
    have zero : n = 0 := by
      refine Decidable.by_contra fun positive => head_toDigits positive ?_
      rw [cons, List.cons_append] at based
      rw [cons, (List.cons.inj based).1]
      rfl
    rw [zero] at based
    obtain ⟨rfl, _⟩ := List.cons.inj (List.cons.inj based).2
    exact (if_neg (by decide)).trans plain
  next => exact plain

/-- A number at the end of a line is an integer. -/
theorem numeric_toDigits {n : Nat} (small : n < 0x8000000000000000) (more : List Char) :
    numeric (Nat.toDigits 10 n ++ '\n' :: more) = some (.integer n, '\n' :: more) := by
  have date := dateTime_digits (fun c => isDigit_of_mem_toDigits (n := n)) more
  rw [numeric, date, float_toDigits, integer_toDigits small]
  rfl

/-! ### Values -/

private theorem lineString_plain {text read : List Char} {fuel : Nat} (enough : text.length < fuel)
    (plain : ∀ c ∈ text, isPlain c = true ∧ c ≠ '\x22' ∧ c ≠ '\\') :
    lineString '\x22' read fuel (text ++ '\x22' :: more) = some (String.ofList (read.reverse ++ text), more) := by
  obtain ⟨fuel, rfl⟩ : ∃ k, fuel = k + 1 := ⟨fuel - 1, by omega⟩
  induction text generalizing read fuel with
  | nil => rw [List.nil_append, lineString, if_pos rfl, List.append_nil]
  | cons c text ih =>
    obtain ⟨visible, unquoted, unescaped⟩ := plain c (List.mem_cons_self ..)
    rw [List.length_cons] at enough
    obtain ⟨fuel, rfl⟩ : ∃ k, fuel = k + 1 := ⟨fuel - 1, by omega⟩
    rw [List.cons_append, lineString, if_neg unquoted, if_neg (by simp [unescaped]), if_pos visible,
      ih (fun d member => plain d (List.mem_cons_of_mem _ member)) fuel (by omega), List.reverse_cons,
      List.append_assoc, List.singleton_append]

private theorem stringBehind_plain {text : List Char} (enough : text.length < fuel)
    (plain : ∀ c ∈ text, isPlain c = true ∧ c ≠ '\x22' ∧ c ≠ '\\') :
    stringBehind '\x22' fuel (text ++ '\x22' :: '\n' :: more) = some (String.ofList text, '\n' :: more) := by
  have read : lineString '\x22' [] fuel (text ++ '\x22' :: '\n' :: more) = some (String.ofList text, '\n' :: more) :=
    lineString_plain enough plain
  cases text with
  | nil => exact read
  | cons c text =>
    have unquoted := (plain c (List.mem_cons_self ..)).2.1
    unfold stringBehind
    split
    next second third rest same =>
      obtain ⟨rfl, _⟩ := List.cons.inj same
      rw [if_neg (by simp [unquoted])]
      exact read
    next => exact read

private theorem isSpace_of_head_written {v : Value} (simple : Simple v) :
    ∀ c ∈ (written v ++ rest).head?, isSpace c = false := by
  cases v with
  | integer n =>
    obtain ⟨c, ds, cons⟩ := List.exists_cons_of_ne_nil (Nat.toDigits_ne_nil (b := 10) (n := n.toNat))
    have digit : c.isDigit = true := isDigit_of_mem_toDigits (cons ▸ List.mem_cons_self ..)
    rw [written, cons]
    rintro _ ⟨⟩
    rw [Bool.eq_false_iff, isSpace, ne_eq, Bool.or_eq_true, decide_eq_true_eq, decide_eq_true_eq]
    rintro (rfl | rfl) <;> contradiction
  | string text =>
    rintro _ ⟨⟩
    rfl
  | _ => exact simple.elim

/-- A simple value is read up to the end of its line. -/
theorem value_written {v : Value} (simple : Simple v) (enough : (written v).length ≤ fuel) :
    value 0 (fuel + 1) (written v ++ '\n' :: more) = some (v, '\n' :: more) := by
  cases v with
  | integer n =>
    obtain ⟨natural, small⟩ := simple
    have read := numeric_toDigits (n := n.toNat) (by omega) more
    rw [Int.toNat_of_nonneg natural] at read
    rw [written]
    obtain ⟨c, ds, cons, digit⟩ := toDigits_eq_cons n.toNat
    have other {d : Char} (letter : d.isDigit = false) : c ≠ d := ne_of_isDigit digit letter
    rw [cons, List.cons_append] at read ⊢
    have unquoted : ¬((c = '\x22' || c = '\x27') = true) := by simp [other (d := '\x22') rfl, other (d := '\x27') rfl]
    rw [value, if_neg unquoted, if_neg (other rfl), if_neg (other rfl), if_neg (other rfl), if_neg (other rfl), read]
  | string text =>
    rw [written, List.length_cons, List.length_append] at enough
    rw [written, List.cons_append, List.append_assoc, List.singleton_append, value, if_pos (by decide),
      stringBehind_plain (by omega) simple, String.ofList_toList]
    rfl
  | _ => exact simple.elim

/-! ### Tables -/

variable {root : Entries}

theorem lookup_of_absent (absent : ∀ entry ∈ root, entry.1 ≠ name) : root.lookup name = none := by
  rw [List.lookup_eq_none_iff]
  intro entry member
  exact bne_iff_ne.mpr (absent entry member).symm

private theorem put_of_absent (absent : ∀ entry ∈ root, entry.1 ≠ name) (v : Value) :
    put name v root = root ++ [(name, v)] := by
  induction root with
  | nil => rfl
  | cons entry rest ih =>
    rw [put, if_neg (absent entry (List.mem_cons_self ..)), ih fun e member => absent e (List.mem_cons_of_mem _ member)]
    rfl

private theorem put_last (absent : ∀ entry ∈ root, entry.1 ≠ name) (v w : Value) :
    put name v (root ++ [(name, w)]) = root ++ [(name, v)] := by
  induction root with
  | nil => exact if_pos rfl
  | cons entry rest ih =>
    rw [List.cons_append, put, if_neg (absent entry (List.mem_cons_self ..)),
      ih fun e member => absent e (List.mem_cons_of_mem _ member)]
    rfl

private theorem openTable_of_absent (absent : ∀ entry ∈ root, entry.1 ≠ name) :
    openTable [] name root = some (root ++ [(name, .table .header [])]) := by
  rw [openTable, descend, lookup_of_absent absent]
  exact congrArg some (put_of_absent absent _)

private theorem insertBelow_of_absent (absent : ∀ entry ∈ root, entry.1 ≠ name) {inner : Entries} {key : String}
    (new : ∀ entry ∈ inner, entry.1 ≠ key) (v : Value) :
    insertBelow [name] [] key v (root ++ [(name, .table .header inner)]) =
      some (root ++ [(name, .table .header (inner ++ [(key, v)]))]) := by
  have found : (root ++ [(name, Value.table .header inner)]).lookup name = some (.table .header inner) := by
    rw [List.lookup_append, lookup_of_absent absent, List.lookup_cons_self]
    rfl
  have inserted : insertKey [] key v inner = some (inner ++ [(key, v)]) := by
    rw [insertKey, descend, lookup_of_absent new]
    rfl
  rw [insertBelow, descend, found]
  dsimp only
  rw [if_neg (by simp), descend, inserted]
  exact congrArg some (put_last absent _ _)

/-! ### Lines -/

/-- The rest of a line whose expression is read. -/
theorem documentLines_of_expression {draft next : Draft} {text : List Char}
    (dark : ∀ c ∈ text.head?, isSpace c = false)
    (read : expression draft fuel text = some (next, '\n' :: more)) :
    documentLines draft (fuel + 1) text = documentLines next fuel more := by
  rw [documentLines, skipSpaces_of_head dark, read]
  rfl

theorem Bare.head_ne (bare : Bare name) {c d : Char} {text : List Char} (same : name.toList ++ rest = c :: text)
    (other : isBare d = false) : c ≠ d := by
  rintro rfl
  have := bare.head_append rest c (by rw [same]; rfl)
  rw [this] at other
  contradiction

/-- A header opens a table at the end of the root. -/
theorem documentLines_header (bare : Bare name) (absent : ∀ entry ∈ root, entry.1 ≠ name) (current : List String) :
    documentLines ⟨root, current⟩ (fuel + 2) ('[' :: (name.toList ++ ']' :: '\n' :: more)) =
      documentLines ⟨root ++ [(name, .table .header [])], [name]⟩ (fuel + 1) more := by
  apply documentLines_of_expression
  · rintro c ⟨⟩
    rfl
  · have read : key (fuel + 1) (name.toList ++ ']' :: '\n' :: more) = some (([], name), ']' :: '\n' :: more) :=
      key_bare bare (by rintro c ⟨⟩; rfl) (by simp [skipSpaces, isSpace])
    rw [expression, if_pos rfl]
    unfold header
    split
    next bracket => exact absurd rfl (bare.head_ne bracket (d := '[') rfl)
    next =>
      rw [read]
      dsimp only [bind, Option.bind]
      rw [show expect ']' (']' :: '\n' :: more) = some ('\n' :: more) from rfl]
      dsimp only
      rw [openTable_of_absent absent]
      rfl

/-- A field is put at the end of the table that was opened last. -/
theorem documentLines_field (absent : ∀ entry ∈ root, entry.1 ≠ name) {inner : Entries} {field : String × Value}
    (bare : Bare field.1) (simple : Simple field.2) (new : ∀ entry ∈ inner, entry.1 ≠ field.1)
    (enough : (written field.2).length ≤ fuel) :
    documentLines ⟨root ++ [(name, .table .header inner)], [name]⟩ (fuel + 2) (fieldLine field ++ more) =
      documentLines ⟨root ++ [(name, .table .header (inner ++ [field]))], [name]⟩ (fuel + 1) more := by
  have line : fieldLine field ++ more =
      field.1.toList ++ ' ' :: '=' :: ' ' :: (written field.2 ++ '\n' :: more) := by
    simp [fieldLine]
  have read : key (fuel + 1) (field.1.toList ++ ' ' :: '=' :: ' ' :: (written field.2 ++ '\n' :: more)) =
      some (([], field.1), '=' :: ' ' :: (written field.2 ++ '\n' :: more)) :=
    key_bare bare (by rintro c ⟨⟩; rfl) (by simp [skipSpaces, isSpace])
  rw [line]
  apply documentLines_of_expression
  · exact fun c head => isSpace_of_isBare (bare.head_append _ c head)
  · have assigned : assignment ⟨root ++ [(name, .table .header inner)], [name]⟩ (fuel + 1)
        (field.1.toList ++ ' ' :: '=' :: ' ' :: (written field.2 ++ '\n' :: more)) =
        some (⟨root ++ [(name, .table .header (inner ++ [field]))], [name]⟩, '\n' :: more) := by
      have dark : skipSpaces (' ' :: (written field.2 ++ '\n' :: more)) = written field.2 ++ '\n' :: more :=
        skipSpaces_of_head fun c head => isSpace_of_head_written simple c head
      rw [assignment, read]
      dsimp only [bind, Option.bind]
      rw [show expect '=' ('=' :: ' ' :: (written field.2 ++ '\n' :: more)) =
          some (' ' :: (written field.2 ++ '\n' :: more)) from rfl]
      dsimp only
      rw [dark, value_written simple enough]
      dsimp only
      rw [insertBelow_of_absent absent new]
      rfl
    unfold expression
    split
    next empty => exact absurd (List.append_eq_nil_iff.mp empty).1 bare.nonempty
    next c text same =>
      have other {d : Char} (unbare : isBare d = false) : c ≠ d := bare.head_ne same unbare
      rw [if_neg (other rfl), if_neg (by simp [other (d := '#') rfl, other (d := '\n') rfl, other (d := '\r') rfl])]
      exact assigned

/-! ### Documents -/

/-- The fields of a section are read one after the other, with steps to spare for the lines behind them. -/
theorem documentLines_fields (absent : ∀ entry ∈ root, entry.1 ≠ name) {inner fields : Entries}
    (plain : PlainFields (inner ++ fields)) (enough : (fields.flatMap fieldLine ++ more).length < fuel) :
    ∃ left, more.length < left ∧
      documentLines ⟨root ++ [(name, .table .header inner)], [name]⟩ fuel (fields.flatMap fieldLine ++ more) =
        documentLines ⟨root ++ [(name, .table .header (inner ++ fields))], [name]⟩ left more := by
  induction fields generalizing inner fuel with
  | nil => exact ⟨fuel, enough, by rw [List.append_nil]; rfl⟩
  | cons field fields ih =>
    have here : field ∈ inner ++ field :: fields := List.mem_append_right _ (List.mem_cons_self ..)
    have new : ∀ entry ∈ inner, entry.1 ≠ field.1 := fun entry member =>
      (List.pairwise_append.mp plain.distinct).2.2 entry member field (List.mem_cons_self ..)
    rw [List.flatMap_cons, List.append_assoc] at enough ⊢
    have length : (fieldLine field).length = field.1.toList.length + (written field.2).length + 4 := by
      simp only [fieldLine, List.length_append, List.length_cons, List.length_nil]
      omega
    rw [List.length_append, length] at enough
    obtain ⟨fuel, rfl⟩ : ∃ k, fuel = k + 2 := ⟨fuel - 2, by omega⟩
    rw [documentLines_field absent (plain.bare field here) (plain.simple field here) new (by omega)]
    have rest : PlainFields (inner ++ [field] ++ fields) := by rwa [List.append_assoc]
    have steps : (fields.flatMap fieldLine ++ more).length < fuel + 1 := by omega
    obtain ⟨left, spare, same⟩ := ih rest steps
    exact ⟨left, spare, same.trans (by rw [List.append_assoc]; rfl)⟩

/-- The table of sections. -/
def table (sections : List (String × Entries)) : Entries :=
  sections.map fun s => (s.1, .table .header s.2)

private theorem documentLines_sections {before sections : List (String × Entries)}
    (plain : PlainSections (before ++ sections)) (current : List String)
    (enough : (sections.flatMap sectionLines).length < fuel) :
    documentLines ⟨table before, current⟩ fuel (sections.flatMap sectionLines) = some (table (before ++ sections)) := by
  induction sections generalizing before current fuel with
  | nil =>
    obtain ⟨fuel, rfl⟩ : ∃ k, fuel = k + 1 := ⟨fuel - 1, by omega⟩
    rw [List.append_nil]
    rfl
  | cons s sections ih =>
    have here : s ∈ before ++ s :: sections := List.mem_append_right _ (List.mem_cons_self ..)
    have absent : ∀ entry ∈ table before, entry.1 ≠ s.1 := by
      intro entry member
      obtain ⟨other, earlier, rfl⟩ := List.mem_map.mp member
      exact (List.pairwise_append.mp plain.distinct).2.2 other earlier s (List.mem_cons_self ..)
    have lines : (s :: sections).flatMap sectionLines =
        '[' :: (s.1.toList ++ ']' :: '\n' :: (s.2.flatMap fieldLine ++ sections.flatMap sectionLines)) := by
      simp [sectionLines]
    rw [lines] at enough ⊢
    simp only [List.length_cons, List.length_append] at enough
    obtain ⟨fuel, rfl⟩ : ∃ k, fuel = k + 2 := ⟨fuel - 2, by omega⟩
    rw [documentLines_header (plain.bare s here) absent]
    have fields : PlainFields ([] ++ s.2) := plain.fields s here
    have steps : (s.2.flatMap fieldLine ++ sections.flatMap sectionLines).length < fuel + 1 := by
      rw [List.length_append]
      omega
    obtain ⟨left, spare, same⟩ := documentLines_fields absent fields steps
    have extended : table before ++ [(s.1, .table .header ([] ++ s.2))] = table (before ++ [s]) := by
      rw [table, table, List.map_append]
      rfl
    have rest : PlainSections (before ++ [s] ++ sections) := by rwa [List.append_assoc]
    rw [same, extended, ih rest [s.1] spare, List.append_assoc]
    rfl

/-- A document in the plain style is read as the table of its sections. -/
theorem parse_document {sections : List (String × Entries)} (plain : PlainSections sections) :
    parse (document sections) = some (table sections) := by
  have unmarked : (sections.flatMap sectionLines).head? ≠ some '\ufeff' := by
    cases sections with
    | nil => nofun
    | cons s sections =>
      intro head
      exact absurd (Option.some.inj head) (by decide)
  rw [parse, document, String.toList_ofList, if_neg unmarked]
  have all : PlainSections ([] ++ sections) := plain
  exact documentLines_sections all [] (by omega)

end Mcs51.Toml
