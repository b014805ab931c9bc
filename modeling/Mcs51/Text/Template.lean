/-! # Line templates

A template is text with numbered slots. A slot is written `{n}` or `{n:anything}`; what follows the
colon has no effect. A doubled brace is a literal brace, and a brace that begins no slot is literal as
well. A slot beyond the arguments is rendered empty.
-/

namespace Mcs51

inductive TemplatePiece
  | literal (c : Char)
  | slot (index : Nat)
deriving DecidableEq, Repr

structure Template where
  pieces : List TemplatePiece
deriving DecidableEq, Repr

namespace Template

def opening : Char := '\x7b'

def closing : Char := '\x7d'

/-- Slot numbers stay below this bound. -/
def indexBound : Nat := 0x10000000000000000

/-- The number that a sequence of decimal digits writes. -/
def number (digits : List Char) : Nat :=
  digits.foldl (fun n c => 10 * n + (c.toNat - '0'.toNat)) 0

/-- The slot number in the text between two braces, if that text is a slot. -/
def slotIndex? (inner : List Char) : Option Nat :=
  let digits := inner.takeWhile (· != ':')
  if digits.isEmpty || !digits.all Char.isDigit || inner.contains opening then none
  else if number digits < indexBound then some (number digits)
  else none

/-- The slot at the start of the text behind an opening brace, and the text behind the slot. -/
def slot? (text : List Char) : Option (Nat × List Char) :=
  match text.dropWhile (· != closing) with
  | [] => none
  | _ :: rest => (slotIndex? (text.takeWhile (· != closing))).map fun index => (index, rest)

private theorem length_of_slot? {text rest : List Char} {index : Nat} (found : slot? text = some (index, rest)) :
    rest.length < text.length := by
  unfold slot? at found
  have shorter := (List.dropWhile_sublist (l := text) (· != closing)).length_le
  split at found
  · contradiction
  · rename_i behind
    obtain ⟨_, _, same⟩ := Option.map_eq_some_iff.mp found
    cases same
    rw [behind, List.length_cons] at shorter
    omega

/-- The pieces of a source text. -/
def parsePieces : List Char → List TemplatePiece
  | [] => []
  | c :: rest =>
    if (c = opening ∨ c = closing) ∧ rest.head? = some c then .literal c :: parsePieces rest.tail
    else if c = opening then
      match found : slot? rest with
      | some (index, behind) =>
        have := length_of_slot? found
        .slot index :: parsePieces behind
      | none => .literal c :: parsePieces rest
    else .literal c :: parsePieces rest
termination_by text => text.length
decreasing_by
  all_goals simp only [List.length_cons, List.length_tail]
  all_goals omega

def parse (source : String) : Template :=
  ⟨parsePieces source.toList⟩

def renderPiece (args : List String) : TemplatePiece → List Char
  | .literal c => [c]
  | .slot index => (args[index]?.getD "").toList

/-- Fill the slots with arguments. -/
def render (t : Template) (args : List String) : String :=
  String.ofList (t.pieces.flatMap (renderPiece args))

end Template

end Mcs51
