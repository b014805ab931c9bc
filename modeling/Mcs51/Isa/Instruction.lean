/-! # Instructions

One constructor per shape of operation, with operands that can only be what the machine accepts, so
that every instruction can be executed. Jump targets are resolved addresses. `Instruction.length`
counts the opcode byte and one byte for each operand that is encoded behind it.
-/

namespace Mcs51

/-- A byte that an instruction can both read and write. -/
inductive Place
  | acc
  /-- Rn of the active bank. -/
  | reg (n : Fin 8)
  /-- The byte of internal RAM that R0 or R1 points at. -/
  | indirect (i : Fin 2)
  /-- Lower internal RAM below 80h, a special function register from 80h on. -/
  | direct (addr : UInt8)
deriving DecidableEq, Repr

/-- A byte that an instruction reads. -/
inductive Source
  | place (p : Place)
  | immediate (value : UInt8)
deriving DecidableEq, Repr

/-- A bit that an instruction can change: the carry flag, or a bit address. -/
inductive BitPlace
  | carry
  | bit (addr : UInt8)
deriving DecidableEq, Repr

/-- What holds the address of an external byte. -/
inductive Pointer
  | dptr
  /-- R0 or R1, which reach the first 256 bytes. -/
  | reg (i : Fin 2)
deriving DecidableEq, Repr

/-- The base that the accumulator is added to when code memory is read. -/
inductive CodeBase
  | dptr
  | pc
deriving DecidableEq, Repr

/-- How a jump target is encoded: within the 2K page, in full, or relative. -/
inductive JumpForm
  | absolute
  | long
  | short
deriving DecidableEq, Repr

/-- How a call target is encoded: within the 2K page, or in full. -/
inductive CallForm
  | absolute
  | long
deriving DecidableEq, Repr

/-- Arithmetic into the accumulator. -/
inductive ArithOp
  | add
  | addc
  | subb
deriving DecidableEq, Repr

/-- Bitwise logic on bytes. -/
inductive LogicOp
  | orl
  | anl
  | xrl
deriving DecidableEq, Repr

/-- Logic into the carry flag. -/
inductive CarryOp
  | orl
  | anl
deriving DecidableEq, Repr

/-- Rotation of the accumulator, through the carry flag or not. -/
inductive Rotation
  | rr
  | rrc
  | rl
  | rlc
deriving DecidableEq, Repr

/-- Change of a single bit. -/
inductive BitOp
  | cpl
  | clr
  | setb
deriving DecidableEq, Repr

/-- Condition on the carry flag or the accumulator. -/
inductive Condition
  | carry
  | noCarry
  | zero
  | nonzero
deriving DecidableEq, Repr

/-- Condition on an addressed bit; `setClearing` also clears the bit. -/
inductive BitCondition
  | setClearing
  | set
  | clear
deriving DecidableEq, Repr

/-- A decoded instruction. -/
inductive Instruction
  | nop
  /-- The one opcode without a meaning; it does nothing. -/
  | reserved
  | jump (form : JumpForm) (target : UInt16)
  /-- Jump to the data pointer plus the accumulator. -/
  | jumpTable
  | call (form : CallForm) (target : UInt16)
  | ret
  | reti
  | inc (p : Place)
  | dec (p : Place)
  | incDptr
  | arith (op : ArithOp) (src : Source)
  | mul
  | div
  | decimalAdjust
  | logic (op : LogicOp) (dst : Place) (src : Source)
  | carryLogic (op : CarryOp) (bit : UInt8) (complement : Bool)
  | clearAcc
  | complementAcc
  | rotate (how : Rotation)
  | swap
  | bitOp (op : BitOp) (target : BitPlace)
  | mov (dst : Place) (src : Source)
  | movDptr (value : UInt16)
  | bitFromCarry (bit : UInt8)
  | carryFromBit (bit : UInt8)
  | loadCode (base : CodeBase)
  | loadExternal (src : Pointer)
  | storeExternal (dst : Pointer)
  | push (addr : UInt8)
  | pop (addr : UInt8)
  | exchange (p : Place)
  /-- Exchange the low halves of the accumulator and an indirect byte. -/
  | exchangeDigit (i : Fin 2)
  | branch (condition : Condition) (target : UInt16)
  | bitBranch (condition : BitCondition) (bit : UInt8) (target : UInt16)
  | compareBranch (lhs : Place) (rhs : Source) (target : UInt16)
  | countBranch (p : Place) (target : UInt16)
deriving DecidableEq, Repr

/-- Bytes that a place takes behind the opcode. -/
def Place.size : Place → Nat
  | .direct _ => 1
  | _ => 0

/-- Bytes that a source takes behind the opcode. -/
def Source.size : Source → Nat
  | .place p => p.size
  | .immediate _ => 1

/-- Bytes that a bit operand takes behind the opcode. -/
def BitPlace.size : BitPlace → Nat
  | .carry => 0
  | .bit _ => 1

/-- Bytes that a jump target takes behind the opcode. -/
def JumpForm.size : JumpForm → Nat
  | .long => 2
  | .absolute | .short => 1

/-- Bytes that a call target takes behind the opcode. -/
def CallForm.size : CallForm → Nat
  | .long => 2
  | .absolute => 1

namespace Instruction

/-- Length in bytes. -/
def length : Instruction → Nat
  | jump form _ => 1 + form.size
  | call form _ => 1 + form.size
  | inc p | dec p | exchange p => 1 + p.size
  | arith _ src => 1 + src.size
  | logic _ dst src | mov dst src => 1 + dst.size + src.size
  | bitOp _ target => 1 + target.size
  | carryLogic .. | bitFromCarry _ | carryFromBit _ | push _ | pop _ | branch .. => 2
  | movDptr _ | bitBranch .. => 3
  | compareBranch lhs rhs _ => 2 + lhs.size + rhs.size
  | countBranch p _ => 2 + p.size
  | _ => 1

theorem one_le_length (i : Instruction) : 1 ≤ i.length := by
  cases i <;> simp only [length] <;> omega

end Instruction

end Mcs51
