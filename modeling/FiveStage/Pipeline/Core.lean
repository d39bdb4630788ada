import FiveStage.Pipeline.Statistics

/-!
# The core

Everything that a core holds between two clock cycles: the architectural state, the four latches,
how the last cycle went, and the counters.
-/

namespace FiveStage

structure Core where
  clock : Nat := 0
  pc : Doubleword := 0
  registers : RegisterFile := RegisterFile.empty
  memory : DataMemory
  program : Program
  ifId : IfId := {}
  idEx : IdEx := {}
  exMem : ExMem := {}
  memWb : MemWb := {}
  stalled : Bool := false
  fault : Option Fault := none
  complete : Bool := false
  stats : Statistics := {}
  deriving DecidableEq, Repr

inductive CoreStatus where
  | running
  | stalled
  | halted (fault : Fault)
  | complete
  deriving DecidableEq, Repr

namespace Core

def boot (program : Program) (dataSize : Nat) : Core :=
  { memory := DataMemory.zeroed dataSize, program }

def boot? (program : Program) (dataSize : Nat) : Option Core :=
  (DataMemory.ofSize? dataSize).map fun memory => { memory, program }

def endPc (c : Core) : Doubleword := c.program.endPc

def isDrained (c : Core) : Bool :=
  c.ifId.isEmpty && c.idEx.isEmpty && c.exMem.isEmpty && c.memWb.isEmpty

def status (c : Core) : CoreStatus :=
  match c.fault with
  | some fault => .halted fault
  | none => if c.complete then .complete else if c.stalled then .stalled else .running

def isFinished (c : Core) : Bool := c.fault.isSome || c.complete

theorem boot?_eq_some_iff {program : Program} {dataSize : Nat} {c : Core} :
    boot? program dataSize = some c ↔
      dataSize ≤ DataMemory.maxSize ∧ c = boot program dataSize := by
  unfold boot? DataMemory.ofSize?
  split <;> simp [*, boot, eq_comm]

theorem boot?_eq_none_iff {program : Program} {dataSize : Nat} :
    boot? program dataSize = none ↔ DataMemory.maxSize < dataSize := by
  unfold boot? DataMemory.ofSize?
  split
  next fits => simpa using fits
  next vast => simpa using vast

end Core

end FiveStage
