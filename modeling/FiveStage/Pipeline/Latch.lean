import FiveStage.Datapath.Control
import FiveStage.Isa.Word

/-!
# Pipeline latches

A latch holds the one instruction that is between two stages, or nothing.  The default value of
each latch is the empty one.
-/

namespace FiveStage

structure IfId where
  pc : Doubleword := 0
  word : Word := 0
  valid : Bool := false
  deriving DecidableEq, Repr

structure IdEx where
  pc : Doubleword := 0
  word : Word := 0
  rd : Nat := 0
  rs1 : Nat := 0
  rs2 : Nat := 0
  funct3 : Nat := 0
  funct7 : Nat := 0
  imm : Doubleword := 0
  value1 : Doubleword := 0
  value2 : Doubleword := 0
  control : Control := Control.bubble
  deriving DecidableEq, Repr

structure ExMem where
  pc : Doubleword := 0
  word : Word := 0
  rd : Nat := 0
  funct3 : Nat := 0
  /-- The calculated value: an address for loads and stores, the return address for jumps. -/
  alu : Doubleword := 0
  zero : Bool := false
  storeData : Doubleword := 0
  taken : Bool := false
  target : Doubleword := 0
  control : Control := Control.bubble
  deriving DecidableEq, Repr

structure MemWb where
  pc : Doubleword := 0
  word : Word := 0
  rd : Nat := 0
  alu : Doubleword := 0
  loadData : Doubleword := 0
  control : Control := Control.bubble
  deriving DecidableEq, Repr

def IfId.isEmpty (latch : IfId) : Bool := !latch.valid

def IdEx.isEmpty (latch : IdEx) : Bool := latch.control.isBubble

def ExMem.isEmpty (latch : ExMem) : Bool := latch.control.isBubble

def MemWb.isEmpty (latch : MemWb) : Bool := latch.control.isBubble

def MemWb.result (latch : MemWb) : Doubleword :=
  if latch.control.memToReg then latch.loadData else latch.alu

end FiveStage
