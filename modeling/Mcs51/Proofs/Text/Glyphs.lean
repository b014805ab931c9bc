import Mcs51.Screen.Codepage
import Mcs51.Text.Width

/-! # Glyphs of a text

The clusters of a text are parts of it, one behind the other (`flatten_clusters`), and none is empty
(`ne_nil_of_mem_clusters`). What is drawn on the terminal is made of characters of the code page. Of the rules for
clusters and columns it needs no more than this: each of these characters is a glyph of its own and takes one column
(`glyphs_of_codepage`).
-/

namespace Mcs51.Text

/-! ### Clusters -/

/-- Nothing of a text is lost in its clusters. -/
theorem flatten_clusters (text : List Char) : (clusters text).flatten = text := by
  fun_induction clusters text with
  | case1 => rfl
  | case2 c rest parts ih =>
    rw [List.flatten_cons, ih, List.cons_append]
    exact congrArg (c :: ·) (restOfCluster_append _ rest)

theorem ne_nil_of_mem_clusters {cluster text : List Char} (member : cluster ∈ clusters text) : cluster ≠ [] := by
  fun_induction clusters text with
  | case1 => contradiction
  | case2 c rest parts ih =>
    rcases List.mem_cons.mp member with rfl | member
    · exact List.cons_ne_nil _ _
    · exact ih member

theorem symbols_glyphs (text : List Char) :
    ((glyphs text).map (·.symbol.toList)).flatten = text := by
  rw [glyphs, List.map_map]
  refine Eq.trans ?_ (flatten_clusters text)
  congr 1
  exact (List.map_congr_left fun _ _ => String.toList_ofList).trans (List.map_id' _)

/-! ### Characters that stand alone -/

/-- A character that joins none of its kind, and takes one column. -/
structure Alone (c : Char) : Prop where
  joining : Joining.ofChar c = .other ∨ Joining.ofChar c = .pictograph
  columns : charColumns c = 1

instance (c : Char) : Decidable (Alone c) :=
  decidable_of_iff (_ ∧ _) ⟨fun both => ⟨both.1, both.2⟩, fun alone => ⟨alone.joining, alone.columns⟩⟩

private theorem clusters_of_alone {text : List Char} (alone : ∀ c ∈ text, Alone c) :
    clusters text = text.map ([·]) := by
  induction text with
  | nil => rw [clusters, List.map_nil]
  | cons c rest ih =>
    have ends : restOfCluster (Ending.start (Joining.ofChar c)) rest = ([], rest) := by
      cases rest with
      | nil => rfl
      | cons d rest =>
        have apart : (Ending.start (Joining.ofChar c)).admits (Joining.ofChar d) = false := by
          rcases (alone c (List.mem_cons_self ..)).joining with first | first <;>
            rcases (alone d (List.mem_cons_of_mem _ (List.mem_cons_self ..))).joining with second | second <;>
            rw [first, second] <;> rfl
        simp only [restOfCluster, apart, Bool.false_eq_true, if_false]
    rw [clusters, ends, ih fun d member => alone d (List.mem_cons_of_mem _ member), List.map_cons]

private theorem glyphs_of_alone {text : List Char} (alone : ∀ c ∈ text, Alone c) :
    glyphs text = text.map fun c => ⟨String.singleton c, 1⟩ := by
  rw [glyphs, clusters_of_alone alone, List.map_map]
  refine List.map_congr_left fun c member => ?_
  have width : columns [c] = 1 := (Nat.zero_add _).trans (alone c member).columns
  rw [Function.comp_apply, width]
  rfl

/-- Characters with rules of their own, besides those of the tables. -/
def singular : Property :=
  [(0x00, 0x1F), (0x17D8, 0x17D8), (0x200C, 0x200D), (0xAC00, 0xD7A3)]

/-- The characters that join others or do not take one column. -/
def special : List Property :=
  [singular, Property.control, Property.linker, Property.extending, Property.skinTone, Property.spacing,
    Property.prepended, Property.regional, Property.leadingJamo, Property.vowelJamo, Property.trailingJamo,
    Property.conjunct, Property.hidden, Property.wide]

/-- Ranges between the special characters, as many as the code page needs. -/
def ordinary : Property :=
  [(0x20, 0x7E), (0xA0, 0xAC), (0xAE, 0x2FF), (0x370, 0x482), (0x2010, 0x2027), (0x202F, 0x205F), (0x2070, 0x20CF),
    (0x20F1, 0x2319), (0x231C, 0x2328), (0x2500, 0x25FC), (0x25FF, 0x2613), (0x2616, 0x2647), (0x2654, 0x267E)]

private theorem special_apart :
    ∀ p ∈ special, ∀ range ∈ p, ∀ free ∈ ordinary, range.2 < free.1 ∨ free.2 < range.1 := by
  decide +kernel

private theorem holds_eq_false_of_ordinary {c : Char} (plain : ordinary.holds c) {p : Property} (member : p ∈ special) :
    p.holds c = false := by
  simp only [Property.holds, List.any_eq_true, Bool.and_eq_true, decide_eq_true_eq] at plain
  obtain ⟨free, among, low, high⟩ := plain
  simp only [Property.holds, List.any_eq_false, Bool.and_eq_true, decide_eq_true_eq]
  intro range inside
  have := special_apart p member range inside free among
  omega

private theorem alone_of_ordinary {c : Char} (plain : ordinary.holds c) : Alone c := by
  have clear : ∀ p ∈ special, p.holds c = false := fun _ member => holds_eq_false_of_ordinary plain member
  simp only [special, List.forall_mem_cons] at clear
  obtain ⟨single, control, linker, extending, skinTone, spacing, prepended, regional, leading, vowel, trailing,
    conjunct, hidden, wide, -⟩ := clear
  simp only [Property.holds, singular, List.any_cons, List.any_nil, Bool.or_false, Bool.or_eq_false_iff,
    Bool.and_eq_false_iff, decide_eq_false_iff_not] at single
  have notReturn : c ≠ '\r' := by
    rintro rfl
    exact absurd single.1 (by decide)
  have notFeed : c ≠ '\n' := by
    rintro rfl
    exact absurd single.1 (by decide)
  constructor
  · have nonJoiner : c.toNat ≠ 0x200C := by omega
    have joiner : c.toNat ≠ 0x200D := by omega
    have syllable : ¬ (0xAC00 ≤ c.toNat ∧ c.toNat ≤ 0xD7A3) := by omega
    unfold Joining.ofChar
    simp only [notReturn, notFeed, nonJoiner, joiner, syllable, control, linker, extending, skinTone, spacing,
      prepended, regional, leading, vowel, trailing, conjunct, Bool.or_false, Bool.false_eq_true, if_false]
    split
    · exact .inl rfl
    · split
      · exact .inr rfl
      · exact .inl rfl
  · have sign : c.toNat ≠ 0x17D8 := by omega
    unfold charColumns
    simp only [notFeed, sign, hidden, wide, Bool.false_eq_true, if_false, ite_self]

private theorem ordinary_of_mem_codepage {c : Char} (member : c ∈ Codepage.glyphs) : ordinary.holds c := by
  have each : Codepage.glyphs.toList.all ordinary.holds = true := by decide +kernel
  exact List.all_eq_true.mp each c (Array.mem_toList_iff.mpr member)

/-- Of a text of the code page every character is a glyph of its own, one column wide. -/
theorem glyphs_of_codepage {text : List Char} (page : ∀ c ∈ text, c ∈ Codepage.glyphs) :
    glyphs text = text.map fun c => ⟨String.singleton c, 1⟩ :=
  glyphs_of_alone fun c member => alone_of_ordinary (ordinary_of_mem_codepage (page c member))

end Mcs51.Text
