import Mcs51.Text.Property.Joining

/-! # Clusters

A cluster is what a reader takes for one character: a letter with its marks, a syllable of Hangul, a flag,
emoji that are joined into one. Whether a character joins the cluster in front of it depends on how the
character joins others and on what the cluster ends with.

The terminal is drawn cluster by cluster, whatever the text is. All that is relied on is that the characters of the
screen are clusters of their own.
-/

namespace Mcs51.Text

/-- How a character joins the characters around it. -/
inductive Joining
  | other
  | control
  | carriageReturn
  | lineFeed
  | extending
  | linker
  | nonJoiner
  | joiner
  | spacing
  | prepended
  | regional
  | leading
  | vowel
  | trailing
  /-- A syllable without a final letter. -/
  | openSyllable
  | closedSyllable
  | pictograph
  | conjunct
deriving DecidableEq, Repr

namespace Joining

/-- Syllables of Hangul come in runs of this length: one without a final letter, then one for each. -/
def syllableRun : Nat := 28

/-- How a character joins others. -/
def ofChar (c : Char) : Joining :=
  let n := c.toNat
  if ' ' ≤ c ∧ c ≤ '~' then .other
  else if c = '\r' then .carriageReturn
  else if c = '\n' then .lineFeed
  else if Property.control.holds c then .control
  else if n = 0x200C then .nonJoiner
  else if n = 0x200D then .joiner
  else if Property.linker.holds c then .linker
  else if Property.extending.holds c || Property.skinTone.holds c then .extending
  else if Property.spacing.holds c then .spacing
  else if Property.prepended.holds c then .prepended
  else if Property.regional.holds c then .regional
  else if Property.leadingJamo.holds c then .leading
  else if Property.vowelJamo.holds c then .vowel
  else if Property.trailingJamo.holds c then .trailing
  else if 0xAC00 ≤ n ∧ n ≤ 0xD7A3 then
    if (n - 0xAC00) % syllableRun = 0 then .openSyllable else .closedSyllable
  else if Property.pictograph.holds c then .pictograph
  else if Property.conjunct.holds c then .conjunct
  else .other

end Joining

/-- What a cluster ends with, as far as it matters for what may join it. -/
inductive Ending
  | other
  | control
  | carriageReturn
  | prepended
  /-- A regional indicator that waits for its second. -/
  | regional
  | leading
  | vowel
  | trailing
  /-- A consonant, its marks, and a linker among them if it is linked. -/
  | conjunct (linked : Bool)
  /-- A pictograph, its marks, and a joiner behind them if it is joined. -/
  | pictograph (joined : Bool)
deriving DecidableEq, Repr

namespace Ending

/-- The ending of a cluster that a character starts. -/
def start : Joining → Ending
  | .control | .lineFeed => control
  | .carriageReturn => carriageReturn
  | .prepended => prepended
  | .regional => regional
  | .leading => leading
  | .vowel | .openSyllable => vowel
  | .trailing | .closedSyllable => trailing
  | .conjunct => conjunct false
  | .pictograph => pictograph false
  | _ => other

/-- The ending of a cluster once a character has joined it. -/
def append : Ending → Joining → Ending
  | regional, .regional => other
  | conjunct _, .linker => conjunct true
  | conjunct linked, .extending | conjunct linked, .joiner => conjunct linked
  | pictograph false, .extending | pictograph false, .linker | pictograph false, .nonJoiner =>
    pictograph false
  | pictograph false, .joiner => pictograph true
  | _, joining => start joining

/-- Whether a character joins a cluster. -/
def admits : Ending → Joining → Bool
  | carriageReturn, .lineFeed => true
  | carriageReturn, _ | control, _ => false
  | _, .control | _, .carriageReturn | _, .lineFeed => false
  | _, .extending | _, .linker | _, .nonJoiner | _, .joiner | _, .spacing => true
  | prepended, _ => true
  | leading, .leading | leading, .vowel | leading, .openSyllable | leading, .closedSyllable => true
  | vowel, .vowel | vowel, .trailing | trailing, .trailing => true
  | regional, .regional => true
  | conjunct true, .conjunct => true
  | pictograph true, .pictograph => true
  | _, _ => false

end Ending

/-- The rest of a cluster with a given ending, and the text behind the cluster. -/
def restOfCluster (ending : Ending) : List Char → List Char × List Char
  | [] => ([], [])
  | c :: rest =>
    let joining := Joining.ofChar c
    if ending.admits joining then
      let (own, behind) := restOfCluster (ending.append joining) rest
      (c :: own, behind)
    else ([], c :: rest)

/-- Nothing is lost where a cluster ends. -/
theorem restOfCluster_append (ending : Ending) (text : List Char) :
    (restOfCluster ending text).1 ++ (restOfCluster ending text).2 = text := by
  induction text generalizing ending with
  | nil => rfl
  | cons c rest ih =>
    simp only [restOfCluster]
    split
    · simp [ih]
    · rfl

def clusters : List Char → List (List Char)
  | [] => []
  | c :: rest =>
    let parts := restOfCluster (Ending.start (Joining.ofChar c)) rest
    (c :: parts.1) :: clusters parts.2
termination_by text => text.length
decreasing_by
  have := congrArg List.length (restOfCluster_append (Ending.start (Joining.ofChar c)) rest)
  simp only [List.length_append] at this
  simp only [List.length_cons]
  omega

end Mcs51.Text
