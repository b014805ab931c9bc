import Mcs51.Proofs.Text.Lines
import Mcs51.Startup.LogFilter

/-! # Directives of a log filter

A target that stands alone is always read (`Directive.fault?_of_target`). A target with a level is read exactly if that
is a level and no blanks stand around the directive (`Directive.fault?_eq_none_iff`): blanks in front shift what is
taken for the level back onto the equals sign, and those behind belong to it, while neither a sign nor a blank occurs in
a level (`isLevelChar_of_mem`).
-/

namespace Mcs51.LogFilter

open Text (isBlank trim)

/-! ### Levels -/

/-- The characters that levels are made of: letters, digits and the plus sign. -/
def isLevelChar (c : Char) : Bool :=
  c.isAlphanum || c = '+'

theorem isBlank_of_isLevelChar {c : Char} (level : isLevelChar c = true) : isBlank c = false := by
  rw [Bool.eq_false_iff]
  intro blank
  have visible : 0x21 ≤ c.toNat ∧ c.toNat ≤ 0x7F := by
    unfold isLevelChar Char.isAlphanum Char.isAlpha Char.isUpper Char.isLower Char.isDigit at level
    simp only [Bool.or_eq_true, Bool.and_eq_true, decide_eq_true_eq, UInt32.le_iff_toNat_le, ge_iff_le] at level
    change _ ≤ c.val.toNat ∧ c.val.toNat ≤ _
    rcases level with ((between | between) | between) | rfl
    · exact ⟨Nat.le_trans (by decide) between.1, Nat.le_trans between.2 (by decide)⟩
    · exact ⟨Nat.le_trans (by decide) between.1, Nat.le_trans between.2 (by decide)⟩
    · exact ⟨Nat.le_trans (by decide) between.1, Nat.le_trans between.2 (by decide)⟩
    · decide
  simp only [isBlank, Bool.or_eq_true, Bool.and_eq_true, decide_eq_true_eq, beq_iff_eq] at blank
  omega

private theorem isLevelChar_of_isDigit {c : Char} (digit : c.isDigit = true) : isLevelChar c = true := by
  unfold isLevelChar Char.isAlphanum
  rw [digit, Bool.or_true, Bool.true_or]

/-- Only a letter has a letter as its lower case. -/
private theorem isLevelChar_of_toLower {c : Char} (letter : c.toLower.isAlpha = true) : isLevelChar c = true := by
  by_cases upper : c.isUpper = true
  · unfold isLevelChar Char.isAlphanum Char.isAlpha
    rw [upper, Bool.true_or, Bool.true_or, Bool.true_or]
  · have same : c.toLower = c := dif_neg fun between => upper (decide_eq_true between)
    rw [same] at letter
    unfold isLevelChar Char.isAlphanum
    rw [letter, Bool.true_or, Bool.true_or]

private theorem isLevelChar_of_number {text : List Char} {n : Nat} (number : number? text = some n) {c : Char}
    (member : c ∈ text) : isLevelChar c = true := by
  have digits {ds : List Char} {value : Nat}
      (read : (if ds.isEmpty || !ds.all Char.isDigit then none else some value) = some n) :
      ∀ d ∈ ds, isLevelChar d = true := by
    intro d present
    split at read
    · contradiction
    next all =>
      rw [Bool.or_eq_true, not_or, Bool.not_eq_true', Bool.not_eq_false, List.all_eq_true] at all
      exact isLevelChar_of_isDigit (all.2 d present)
  rw [number?] at number
  by_cases plus : text.head? = some '+'
  · rw [if_pos plus] at number
    cases text with
    | nil => contradiction
    | cons first rest =>
      obtain rfl := Option.some.inj plus
      rcases List.mem_cons.mp member with rfl | behind
      · rfl
      · exact digits number c behind
  · rw [if_neg plus] at number
    exact digits number c member

theorem isLevelChar_of_mem {text : List Char} (level : isLevel text = true) {c : Char} (member : c ∈ text) :
    isLevelChar c = true := by
  simp only [isLevel, Bool.or_eq_true, List.isEmpty_iff, Option.any_eq_true] at level
  rcases level with (rfl | name) | ⟨n, number, -⟩
  · contradiction
  · have letters : ∀ word ∈ levels, word.toList.all Char.isAlpha = true := by decide
    have lower := List.all_eq_true.mp (letters _ (List.contains_iff_mem.mp name)) c.toLower
    rw [String.toList_ofList] at lower
    exact isLevelChar_of_toLower (lower (List.mem_map_of_mem member))
  · exact isLevelChar_of_number number member

/-! ### Places -/

variable {front rest : List Char}

theorem size_append (front rest : List Char) : size (front ++ rest) = size front + size rest := by
  induction front with
  | nil => exact (Nat.zero_add _).symm
  | cons c front ih =>
    simp only [size, List.cons_append, List.foldr_cons] at ih ⊢
    omega

private theorem dropBytes_zero (text : List Char) : dropBytes 0 text = text := by
  cases text <;> rfl

/-- What is dropped within the front of a text leaves the rest. -/
theorem dropBytes_append {n : Nat} (inside : n ≤ size front) (rest : List Char) :
    dropBytes n (front ++ rest) = dropBytes n front ++ rest := by
  induction front generalizing n with
  | nil =>
    obtain rfl := Nat.le_zero.mp inside
    rw [List.nil_append, dropBytes_zero, dropBytes_zero, List.nil_append]
  | cons c front ih =>
    cases n with
    | zero => rfl
    | succ n =>
      simp only [size, List.foldr_cons] at inside
      exact ih (Nat.sub_le_iff_le_add'.mpr inside)

theorem dropBytes_size (front : List Char) : dropBytes (size front) front = [] := by
  induction front with
  | nil => rfl
  | cons c front ih =>
    have positive : 0 < c.utf8Size := c.utf8Size_pos
    obtain ⟨n, total⟩ : ∃ n, size (c :: front) = n + 1 := by
      refine ⟨size (c :: front) - 1, ?_⟩
      simp only [size, List.foldr_cons]
      omega
    have behind : n + 1 - c.utf8Size = size front := by
      rw [← total]
      exact Nat.add_sub_cancel_left ..
    rw [total, dropBytes, behind, ih]

/-- A text with the blanks around it. -/
theorem exists_append_trim (text : List Char) :
    ∃ left right, text = left ++ trim text ++ right ∧ (∀ c ∈ left, isBlank c = true) ∧
      ∀ c ∈ right, isBlank c = true := by
  have behind := List.takeWhile_append_dropWhile (p := isBlank) (l := (text.dropWhile isBlank).reverse)
  refine ⟨text.takeWhile isBlank, ((text.dropWhile isBlank).reverse.takeWhile isBlank).reverse, ?_, ?_, ?_⟩
  · rw [trim, List.append_assoc, ← List.reverse_append, behind, List.reverse_reverse, List.takeWhile_append_dropWhile]
  · exact fun c member => List.mem_takeWhile_imp member
  · exact fun c member => List.mem_takeWhile_imp (List.mem_reverse.mp member)

namespace Directive

variable {d : Directive} {target level : List Char}

/-! ### Targets -/

/-- A name that directives begin with, up to an equals sign or a bracket. -/
structure IsTarget (target : List Char) : Prop where
  starts : ∃ c rest, target = c :: rest ∧ startsTarget c = true
  plain : ∀ c ∈ target, c ≠ '=' ∧ c ≠ '['

theorem inTarget_append (plain : ∀ c ∈ target, c ≠ '=' ∧ c ≠ '[') (rest : List Char) :
    d.inTarget (target ++ rest) = d.inTarget rest := by
  induction target with
  | nil => rfl
  | cons c target ih =>
    obtain ⟨equals, bracket⟩ := plain c (List.mem_cons_self ..)
    rw [List.cons_append]
    conv =>
      lhs
      unfold inTarget
    split
    next nothing => contradiction
    next same => exact absurd (List.cons.inj same).1 equals
    next same => exact absurd (List.cons.inj same).1 bracket
    next same =>
      obtain ⟨rfl, rfl⟩ := List.cons.inj same
      exact ih fun c member => plain c (List.mem_cons_of_mem _ member)

/-- A directive that begins with a target is read behind it. -/
theorem fault?_of_form (isTarget : IsTarget target) (form : d.form = target ++ rest) :
    d.fault? = d.inTarget rest := by
  obtain ⟨c, others, rfl, starts⟩ := isTarget.starts
  rw [← inTarget_append (fun c member => isTarget.plain c (List.mem_cons_of_mem _ member)) rest]
  unfold fault?
  rw [form, List.cons_append]
  split
  next nothing => contradiction
  next same => exact absurd (List.cons.inj same).1 (isTarget.plain c (List.mem_cons_self ..)).2
  next same =>
    obtain ⟨rfl, rfl⟩ := List.cons.inj same
    rw [if_pos starts]

/-- A target that stands alone is read. -/
theorem fault?_of_target (isTarget : IsTarget target) (form : d.form = target) : d.fault? = none := by
  have alone : d.form = target ++ [] := by rw [form, List.append_nil]
  rw [fault?_of_form isTarget alone]
  rfl

/-! ### Levels behind targets -/

/-- What is taken for the level. -/
theorem behind_level (form : d.form = target ++ '=' :: level) :
    d.behind level = dropBytes (size (target ++ ['='])) d.written := by
  have sizes : size d.form = size (target ++ ['=']) + size level := by
    rw [form, ← size_append, List.append_assoc]
    rfl
  rw [behind, sizes, Nat.add_sub_cancel_right]

/-- With a blank in front of the directive the equals sign is taken for a part of the level. -/
private theorem sign_mem_behind (form : d.form = target ++ '=' :: level) {c : Char} {left right : List Char}
    (written : d.written = c :: left ++ d.form ++ right) : '=' ∈ d.behind level := by
  have shifted : d.written = (c :: left ++ target) ++ '=' :: (level ++ right) := by
    rw [written, form]
    simp only [List.append_assoc, List.cons_append]
  -- The blank is at least as wide as the equals sign.
  have inside : size (target ++ ['=']) ≤ size (c :: left ++ target) := by
    have positive : 0 < c.utf8Size := c.utf8Size_pos
    have sign : size ['='] = 1 := rfl
    have blank : size (c :: left) = c.utf8Size + size left := rfl
    rw [size_append, size_append]
    omega
  rw [behind_level form, shifted, dropBytes_append inside]
  exact List.mem_append_right _ (List.mem_cons_self ..)

/-- Without such a blank the level is taken with all that is written behind it. -/
private theorem behind_of_flush (form : d.form = target ++ '=' :: level) {right : List Char}
    (written : d.written = d.form ++ right) : d.behind level = level ++ right := by
  have text : d.written = (target ++ ['=']) ++ (level ++ right) := by
    rw [written, form]
    simp only [List.append_assoc, List.cons_append, List.nil_append]
  rw [behind_level form, text, dropBytes_append (Nat.le_refl _), dropBytes_size, List.nil_append]

/-- With blanks around it a directive is read for another text than its level. -/
theorem isLevel_behind (form : d.form = target ++ '=' :: level) :
    isLevel (d.behind level) = true ↔ d.written = d.form ∧ isLevel level = true := by
  constructor
  · intro taken
    obtain ⟨left, right, written, -, blank⟩ := exists_append_trim d.written
    change d.written = left ++ d.form ++ right at written
    cases left with
    | cons c left =>
      have sign := isLevelChar_of_mem taken (sign_mem_behind form written)
      contradiction
    | nil =>
      rw [List.nil_append] at written
      rw [behind_of_flush form written] at taken
      have none : right = [] := by
        refine List.eq_nil_iff_forall_not_mem.mpr fun c member => ?_
        have visible := isBlank_of_isLevelChar (isLevelChar_of_mem taken (List.mem_append_right _ member))
        rw [blank c member] at visible
        contradiction
      rw [none, List.append_nil] at written taken
      exact ⟨written, taken⟩
  · rintro ⟨flush, isLevel⟩
    have written : d.written = d.form ++ [] := flush.trans (List.append_nil _).symm
    rwa [behind_of_flush form written, List.append_nil]

/-- A target with a level is read exactly if the level is one and no blanks stand around the directive. -/
theorem fault?_eq_none_iff (isTarget : IsTarget target) (form : d.form = target ++ '=' :: level) :
    d.fault? = none ↔ d.written = d.form ∧ isLevel level = true := by
  rw [fault?_of_form isTarget form, inTarget, Directive.level, ← isLevel_behind form]
  split
  next taken => exact iff_of_true rfl taken
  next other => exact iff_of_false nofun other

end Directive

end Mcs51.LogFilter
