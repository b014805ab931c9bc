import Mathlib.Data.List.TakeWhile
import Mcs51.Text.Lines

/-! # Lines of a written text

What is written line by line is split into the same lines (`lines_append`), and the blanks around a text
without blanks are dropped again (`trim_append`).
-/

namespace Mcs51.Text

/-! ### Blanks -/

theorem dropWhile_isBlank {blanks rest : List Char} (before : ∀ c ∈ blanks, isBlank c = true)
    (boundary : ∀ c, rest.head? = some c → isBlank c = false) : (blanks ++ rest).dropWhile isBlank = rest := by
  rw [List.dropWhile_append_of_pos before]
  cases rest with
  | nil => rfl
  | cons c rest => rw [List.dropWhile_cons_of_neg (Bool.eq_false_iff.mp (boundary c rfl))]

/-- A text of blanks is dropped as a whole. -/
theorem trim_of_blank {blanks : List Char} (blank : ∀ c ∈ blanks, isBlank c = true) : trim blanks = [] := by
  have dropped : (blanks ++ []).dropWhile isBlank = [] := dropWhile_isBlank blank (by simp)
  rw [List.append_nil] at dropped
  rw [trim, dropped]
  rfl

/-- A text without blanks is what stays of it between blanks. -/
theorem trim_append {left text right : List Char} (before : ∀ c ∈ left, isBlank c = true)
    (inside : ∀ c ∈ text, isBlank c = false) (behind : ∀ c ∈ right, isBlank c = true) :
    trim (left ++ text ++ right) = text := by
  by_cases none : text = []
  · subst none
    apply trim_of_blank
    intro c member
    rw [List.append_nil] at member
    rcases List.mem_append.mp member with member | member
    · exact before c member
    · exact behind c member
  · have head : ∀ c, (text ++ right).head? = some c → isBlank c = false := by
      intro c found
      obtain ⟨first, rest, rfl⟩ := List.exists_cons_of_ne_nil none
      obtain rfl := Option.some.inj found
      exact inside first List.mem_cons_self
    have last : ∀ c, text.reverse.head? = some c → isBlank c = false := by
      intro c found
      exact inside c (List.mem_reverse.mp (List.mem_of_head? found))
    have reversed : ∀ c ∈ right.reverse, isBlank c = true := by
      intro c member
      exact behind c (List.mem_reverse.mp member)
    rw [trim, List.append_assoc, dropWhile_isBlank before head, List.reverse_append,
      dropWhile_isBlank reversed last, List.reverse_reverse]

/-- Blanks behind a visible character are dropped up to it, whatever is in front of them. -/
theorem dropWhile_isBlank_append (right : List Char) {rest : List Char}
    (boundary : ∀ c, rest.head? = some c → isBlank c = false) :
    (right ++ rest).dropWhile isBlank = right.dropWhile isBlank ++ rest := by
  have kept : ([] ++ rest).dropWhile isBlank = rest := dropWhile_isBlank (by simp) boundary
  rw [List.nil_append] at kept
  rw [List.dropWhile_append]
  split
  case isTrue none =>
    rw [List.isEmpty_iff.mp none, kept]
    rfl
  case isFalse => rfl

/-- Between visible characters nothing is dropped, and what stays behind them does not depend on them. -/
theorem trim_of_visible {left text : List Char} (before : ∀ c ∈ left, isBlank c = true)
    (first : ∀ c, text.head? = some c → isBlank c = false) (last : ∀ c, text.getLast? = some c → isBlank c = false)
    (present : text ≠ []) (right : List Char) :
    trim (left ++ text ++ right) = text ++ (right.reverse.dropWhile isBlank).reverse := by
  have head : ∀ c, (text ++ right).head? = some c → isBlank c = false := by
    intro c found
    obtain ⟨d, rest, rfl⟩ := List.exists_cons_of_ne_nil present
    exact first c found
  have reversed : ∀ c, text.reverse.head? = some c → isBlank c = false := by
    intro c found
    rw [List.head?_reverse] at found
    exact last c found
  rw [trim, List.append_assoc, dropWhile_isBlank before head, List.reverse_append,
    dropWhile_isBlank_append _ reversed, List.reverse_append, List.reverse_reverse]

/-- No character but a blank is dropped. -/
theorem mem_trim {text : List Char} {c : Char} (visible : isBlank c = false) : c ∈ trim text ↔ c ∈ text := by
  have kept (l : List Char) : c ∈ l.dropWhile isBlank ↔ c ∈ l := by
    constructor
    · intro member
      exact (List.dropWhile_sublist _).subset member
    · intro member
      rw [← List.takeWhile_append_dropWhile (p := isBlank) (l := l), List.mem_append] at member
      rcases member with taken | dropped
      · have blank := List.mem_takeWhile_imp taken
        rw [visible] at blank
        contradiction
      · exact dropped
  rw [trim, List.mem_reverse, kept, List.mem_reverse, kept]

/-! ### Lines -/

/-- What ends a line: a line feed, or a carriage return and a line feed. -/
def lineEnds : List (List Char) :=
  [['\n'], ['\r', '\n']]

theorem linesFrom_append {line : List Char} (plain : '\n' ∉ line) (read rest : List Char) :
    linesFrom read (line ++ rest) = linesFrom (line.reverse ++ read) rest := by
  induction line generalizing read with
  | nil => rfl
  | cons c line ih =>
    have other : c ≠ '\n' := fun same => plain (same ▸ List.mem_cons_self)
    rw [List.cons_append, linesFrom, if_neg other, ih fun member => plain (List.mem_cons_of_mem _ member),
      List.reverse_cons, List.append_assoc]
    rfl

/-- A line without a carriage return ends as it is. -/
theorem endLine_reverse {line : List Char} (plain : '\r' ∉ line) : endLine line.reverse = line := by
  cases same : line.reverse with
  | nil => exact (List.reverse_eq_nil_iff.mp same).symm
  | cons c rest =>
    have other : c ≠ '\r' := by
      intro last
      apply plain
      rw [← List.mem_reverse, same, last]
      exact List.mem_cons_self
    rw [endLine, if_neg other, ← same, List.reverse_reverse]

/-- A line, what ends it and further text are split into that line and the lines of the text. -/
theorem lines_append {line : List Char} (feed : '\n' ∉ line) (ret : '\r' ∉ line) {ending : List Char}
    (ends : ending ∈ lineEnds) (rest : List Char) : lines (line ++ ending ++ rest) = line :: lines rest := by
  rw [lines, List.append_assoc, linesFrom_append feed, List.append_nil]
  simp only [lineEnds, List.mem_cons, List.not_mem_nil, or_false] at ends
  rcases ends with rfl | rfl
  · rw [List.singleton_append, linesFrom, if_pos rfl, endLine_reverse ret]
    rfl
  · have other : '\r' ≠ '\n' := by decide
    rw [List.cons_append, linesFrom, if_neg other, List.singleton_append, linesFrom, if_pos rfl, endLine, if_pos rfl,
      List.reverse_reverse]
    rfl

/-- Lines that are each followed by a line feed are split apart again. -/
theorem lines_flatMap_feed {written : List (List Char)} (plain : ∀ line ∈ written, '\n' ∉ line ∧ '\r' ∉ line) :
    lines (written.flatMap fun line => line ++ ['\n']) = written := by
  induction written with
  | nil => rfl
  | cons line written ih =>
    obtain ⟨⟨feed, ret⟩, others⟩ := List.forall_mem_cons.mp plain
    rw [List.flatMap_cons, lines_append feed ret (List.mem_cons_self ..), ih others]

/-- A line that nothing follows is the only one. -/
theorem lines_of_plain {line : List Char} (feed : '\n' ∉ line) (present : line ≠ []) : lines line = [line] := by
  have split := linesFrom_append feed [] []
  rw [List.append_nil, List.append_nil, linesFrom] at split
  have reversed : line.reverse.isEmpty = false := by
    rw [List.isEmpty_reverse, List.isEmpty_eq_false_iff]
    exact present
  rw [lines, split, reversed, List.reverse_reverse]
  rfl

/-! ### Whole lines -/

def EndsLine (text : List Char) : Prop :=
  ∀ c ∈ text.getLast?, c = '\n'

theorem EndsLine.eq_nil_or {text : List Char} (ends : EndsLine text) : text = [] ∨ ∃ rest, text = rest ++ ['\n'] := by
  rcases List.eq_nil_or_concat text with none | ⟨rest, c, rfl⟩
  · exact .inl none
  · rw [List.concat_eq_append] at ends
    obtain rfl := ends c List.getLast?_concat
    exact .inr ⟨rest, List.concat_eq_append⟩

private theorem linesFrom_feed (read line rest : List Char) :
    linesFrom read (line ++ '\n' :: rest) = linesFrom read (line ++ ['\n']) ++ linesFrom [] rest := by
  induction line generalizing read with
  | nil => simp [linesFrom]
  | cons c line ih =>
    rw [List.cons_append, List.cons_append, linesFrom, linesFrom]
    split
    · rw [ih]
      rfl
    · exact ih _

private theorem length_linesFrom_feed (read line : List Char) :
    (linesFrom read (line ++ ['\n'])).length = line.count '\n' + 1 := by
  induction line generalizing read with
  | nil => simp [linesFrom]
  | cons c line ih =>
    rw [List.cons_append, linesFrom]
    by_cases feed : c = '\n'
    · rw [if_pos feed, List.length_cons, ih, feed, List.count_cons_self]
    · rw [if_neg feed, ih, List.count_cons_of_ne feed]

/-- Whole lines and the text behind them are split apart. -/
theorem lines_append_of_endsLine {earlier : List Char} (whole : EndsLine earlier) (rest : List Char) :
    lines (earlier ++ rest) = lines earlier ++ lines rest := by
  rcases whole.eq_nil_or with rfl | ⟨line, rfl⟩
  · rfl
  · rw [List.append_assoc, lines, lines, lines]
    exact linesFrom_feed [] line rest

/-- There are as many whole lines as line feeds. -/
theorem length_lines_of_endsLine {earlier : List Char} (whole : EndsLine earlier) :
    (lines earlier).length = earlier.count '\n' := by
  rcases whole.eq_nil_or with rfl | ⟨line, rfl⟩
  · rfl
  · rw [lines, length_linesFrom_feed, List.count_append]
    rfl

private theorem endLine_append {read fragment : List Char} (last : ∀ c, fragment.getLast? = some c → c ≠ '\r')
    (present : fragment ≠ []) : endLine (read ++ fragment.reverse) = fragment ++ endLine read := by
  cases read with
  | nil =>
    obtain ⟨c, rest, same⟩ := List.exists_cons_of_ne_nil (List.reverse_ne_nil_iff.mpr present)
    have other : c ≠ '\r' := by
      apply last
      rw [← List.head?_reverse, same]
      rfl
    have kept : endLine (c :: rest) = (c :: rest).reverse := if_neg other
    rw [List.nil_append, same, kept, ← same, List.reverse_reverse]
    exact (List.append_nil _).symm
  | cons c read =>
    rw [List.cons_append, endLine, endLine]
    split
    · rw [List.reverse_append, List.reverse_reverse]
    · rw [← List.cons_append, List.reverse_append, List.reverse_reverse]

/-- The rest of a text splits in one way, whatever the beginning of its first line is. -/
theorem exists_lines_append (right : List Char) :
    ∃ tail rest, ∀ fragment : List Char, '\n' ∉ fragment → fragment ≠ [] →
      (∀ c, fragment.getLast? = some c → c ≠ '\r') → lines (fragment ++ right) = (fragment ++ tail) :: rest := by
  by_cases feed : '\n' ∈ right
  · obtain ⟨line, rest, rfl, whole⟩ := List.eq_append_cons_of_mem feed
    refine ⟨endLine line.reverse, lines rest, ?_⟩
    intro fragment plain present last
    have unbroken : '\n' ∉ fragment ++ line := by
      rw [List.mem_append, not_or]
      exact ⟨plain, whole⟩
    rw [← List.append_assoc, lines, linesFrom_append unbroken, linesFrom, if_pos rfl, List.append_nil,
      List.reverse_append, endLine_append last present]
    rfl
  · refine ⟨right, [], ?_⟩
    intro fragment plain present last
    apply lines_of_plain
    · rw [List.mem_append, not_or]
      exact ⟨plain, feed⟩
    · exact List.append_ne_nil_of_left_ne_nil present right

end Mcs51.Text
