import Mcs51.Core.Sfr
import Mcs51.Isa.Instruction
import Mcs51.Text.Hex

/-! # Assembly text

An instruction is written as its mnemonic and its operands, separated by commas. Direct addresses
and bit addresses of named registers are written by name, all other numbers in hex with a trailing
`h`.
-/

namespace Mcs51

open Text

/-- An operand as it is written. -/
inductive Operand
  | acc
  /-- The register pair of multiplication and division. -/
  | pair
  | carry
  | dptr
  | atDptr
  | atAccDptr
  | atAccPc
  | reg (n : Fin 8)
  | indirect (i : Fin 2)
  | direct (addr : UInt8)
  | immediate (value : UInt8)
  | immediateWord (value : UInt16)
  | bit (addr : UInt8)
  /-- A bit that is read complemented. -/
  | notBit (addr : UInt8)
  /-- A resolved jump or call target. -/
  | target (addr : UInt16)
deriving DecidableEq, Repr

/-- The name of a bit address: the register's name and the bit number for the bits of a named
register, the address itself otherwise. -/
def bitText (bit : UInt8) : String :=
  match if 0x80 ≤ bit then Sfr.name? (bit &&& 0xF8) else none with
  | some name => name ++ "." ++ toString (bit &&& 0x07).toNat
  | none => byteHex bit ++ "h"

def Operand.text : Operand → String
  | .acc => "A"
  | .pair => "AB"
  | .carry => "C"
  | .dptr => "DPTR"
  | .atDptr => "@DPTR"
  | .atAccDptr => "@A+DPTR"
  | .atAccPc => "@A+PC"
  | .reg n => "R" ++ toString n.val
  | .indirect i => "@R" ++ toString i.val
  | .direct addr => (Sfr.name? addr).getD (byteHex addr ++ "h")
  | .immediate value => "#" ++ byteHex value ++ "h"
  | .immediateWord value => "#" ++ wordHex value ++ "h"
  | .bit addr => bitText addr
  | .notBit addr => "/" ++ bitText addr
  | .target addr => wordHex addr ++ "h"

/-- The written form of a place. -/
def Place.operand : Place → Operand
  | .acc => .acc
  | .reg n => .reg n
  | .indirect i => .indirect i
  | .direct addr => .direct addr

/-- The written form of a source. -/
def Source.operand : Source → Operand
  | .place p => p.operand
  | .immediate value => .immediate value

/-- The written form of a bit that is changed. -/
def BitPlace.operand : BitPlace → Operand
  | .carry => .carry
  | .bit addr => .bit addr

/-- The written form of a pointer into external memory. -/
def Pointer.operand : Pointer → Operand
  | .dptr => .atDptr
  | .reg i => .indirect i

/-- The written form of a base in code memory. -/
def CodeBase.operand : CodeBase → Operand
  | .dptr => .atAccDptr
  | .pc => .atAccPc

/-- The written name of an operation. Several instructions can share one. -/
inductive Mnemonic
  | nop | ajmp | ljmp | sjmp | jmp | acall | lcall | ret | reti | inc | dec | add | addc | subb
  | mul | div | da | anl | orl | xrl | clr | cpl | setb | rl | rlc | rr | rrc | swap | mov
  | movc | movx | push | pop | xch | xchd | jc | jnc | jb | jnb | jbc | jz | jnz | cjne | djnz
  | reserved
deriving DecidableEq, Repr

/-- How a mnemonic is written. -/
def Mnemonic.text : Mnemonic → String
  | .nop => "NOP"
  | .ajmp => "AJMP"
  | .ljmp => "LJMP"
  | .sjmp => "SJMP"
  | .jmp => "JMP"
  | .acall => "ACALL"
  | .lcall => "LCALL"
  | .ret => "RET"
  | .reti => "RETI"
  | .inc => "INC"
  | .dec => "DEC"
  | .add => "ADD"
  | .addc => "ADDC"
  | .subb => "SUBB"
  | .mul => "MUL"
  | .div => "DIV"
  | .da => "DA"
  | .anl => "ANL"
  | .orl => "ORL"
  | .xrl => "XRL"
  | .clr => "CLR"
  | .cpl => "CPL"
  | .setb => "SETB"
  | .rl => "RL"
  | .rlc => "RLC"
  | .rr => "RR"
  | .rrc => "RRC"
  | .swap => "SWAP"
  | .mov => "MOV"
  | .movc => "MOVC"
  | .movx => "MOVX"
  | .push => "PUSH"
  | .pop => "POP"
  | .xch => "XCH"
  | .xchd => "XCHD"
  | .jc => "JC"
  | .jnc => "JNC"
  | .jb => "JB"
  | .jnb => "JNB"
  | .jbc => "JBC"
  | .jz => "JZ"
  | .jnz => "JNZ"
  | .cjne => "CJNE"
  | .djnz => "DJNZ"
  | .reserved => "???"

namespace Instruction

def operation : Instruction → Mnemonic
  | nop => .nop
  | reserved => .reserved
  | jump .absolute _ => .ajmp
  | jump .long _ => .ljmp
  | jump .short _ => .sjmp
  | jumpTable => .jmp
  | call .absolute _ => .acall
  | call .long _ => .lcall
  | ret => .ret
  | reti => .reti
  | inc _ | incDptr => .inc
  | dec _ => .dec
  | arith .add _ => .add
  | arith .addc _ => .addc
  | arith .subb _ => .subb
  | mul => .mul
  | div => .div
  | decimalAdjust => .da
  | logic .orl .. | carryLogic .orl .. => .orl
  | logic .anl .. | carryLogic .anl .. => .anl
  | logic .xrl .. => .xrl
  | clearAcc | bitOp .clr _ => .clr
  | complementAcc | bitOp .cpl _ => .cpl
  | bitOp .setb _ => .setb
  | rotate .rr => .rr
  | rotate .rrc => .rrc
  | rotate .rl => .rl
  | rotate .rlc => .rlc
  | swap => .swap
  | mov .. | movDptr _ | bitFromCarry _ | carryFromBit _ => .mov
  | loadCode _ => .movc
  | loadExternal _ | storeExternal _ => .movx
  | push _ => .push
  | pop _ => .pop
  | exchange _ => .xch
  | exchangeDigit _ => .xchd
  | branch .carry _ => .jc
  | branch .noCarry _ => .jnc
  | branch .zero _ => .jz
  | branch .nonzero _ => .jnz
  | bitBranch .setClearing .. => .jbc
  | bitBranch .set .. => .jb
  | bitBranch .clear .. => .jnb
  | compareBranch .. => .cjne
  | countBranch .. => .djnz

def mnemonic (i : Instruction) : String :=
  i.operation.text

/-- The operands, in written order. -/
def operands : Instruction → List Operand
  | nop | reserved | ret | reti => []
  | jump _ target | call _ target | branch _ target => [.target target]
  | jumpTable => [.atAccDptr]
  | inc p | dec p => [p.operand]
  | incDptr => [.dptr]
  | arith _ src => [.acc, src.operand]
  | mul | div => [.pair]
  | decimalAdjust | clearAcc | complementAcc | rotate _ | swap => [.acc]
  | logic _ dst src | mov dst src => [dst.operand, src.operand]
  | carryLogic _ bit complement => [.carry, if complement then .notBit bit else .bit bit]
  | bitOp _ target => [target.operand]
  | movDptr value => [.dptr, .immediateWord value]
  | bitFromCarry bit => [.bit bit, .carry]
  | carryFromBit bit => [.carry, .bit bit]
  | loadCode base => [.acc, base.operand]
  | loadExternal src => [.acc, src.operand]
  | storeExternal dst => [dst.operand, .acc]
  | push addr | pop addr => [.direct addr]
  | exchange p => [.acc, p.operand]
  | exchangeDigit i => [.acc, .indirect i]
  | bitBranch _ bit target => [.bit bit, .target target]
  | compareBranch lhs rhs target => [lhs.operand, rhs.operand, .target target]
  | countBranch p target => [p.operand, .target target]

/-- Operands separated by commas. -/
def operandText : List Operand → String
  | [] => ""
  | [last] => last.text
  | first :: rest => first.text ++ ", " ++ operandText rest

def text (i : Instruction) : String :=
  match i.operands with
  | [] => i.mnemonic
  | operands => i.mnemonic ++ " " ++ operandText operands

end Instruction

end Mcs51
