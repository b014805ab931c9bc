import Mcs51.Core.Cpu

/-! # Changes

What a stretch of execution changed in memory: for each memory the maximal runs of consecutive bytes
that differ.
-/

namespace Mcs51

/-- A maximal run of changed bytes with their new values. -/
structure Change where
  space : Space
  start : Nat
  bytes : List UInt8
deriving DecidableEq, Repr

/-- Put a changed byte in front of the runs behind it. -/
def Change.extend (space : Space) (addr : Nat) (byte : UInt8) (runs : List Change) : List Change :=
  match runs with
  | run :: rest =>
    if run.start = addr + 1 then ⟨space, addr, byte :: run.bytes⟩ :: rest
    else ⟨space, addr, [byte]⟩ :: runs
  | [] => [⟨space, addr, [byte]⟩]

/-- The runs of bytes of one memory that differ. -/
def Change.between (space : Space) (before after : Array UInt8) : List Change :=
  if before = after then []
  else
    (List.range after.size).foldr (fun addr runs =>
      if before[addr]? = after[addr]? then runs
      else Change.extend space addr ((after[addr]?).getD 0) runs) []

/-- The changes of all memories, in viewing order. -/
def Cpu.changes (before after : Cpu) : List Change :=
  Space.all.flatMap fun space => Change.between space (before.memory space) (after.memory space)

end Mcs51
