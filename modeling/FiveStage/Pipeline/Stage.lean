import FiveStage.Datapath.Access
import FiveStage.Datapath.Alu
import FiveStage.Datapath.Branch
import FiveStage.Isa.Immediate
import FiveStage.Machine.DataMemory
import FiveStage.Machine.Program
import FiveStage.Machine.RegisterFile
import FiveStage.Pipeline.Hazard

/-!
# Pipeline stages

Each stage is a function of what it reads, as it stood at the end of the previous cycle, and
returns what it wants changed.
-/

namespace FiveStage

/-! ## Fetch -/

structure Fetched where
  latch : IfId
  nextPc : Doubleword
  deriving DecidableEq, Repr

/-- At the very end of the program an empty latch is fetched, and the program counter stays. -/
def Program.fetch (p : Program) (pc : Doubleword) : Except Fault Fetched :=
  (p.fetchWord pc).map fun
    | some word => ⟨{ pc, word, valid := true }, pc + BitVec.ofNat 64 instructionSize⟩
    | none => ⟨{}, pc⟩

/-! ## Write-back -/

structure Retirement where
  pc : Doubleword
  word : Word
  control : Control
  write : Option RegisterWrite
  deriving DecidableEq, Repr

def MemWb.retire? (latch : MemWb) : Option Retirement :=
  if latch.isEmpty then none
  else
    some
      { pc := latch.pc
        word := latch.word
        control := latch.control
        write :=
          if latch.control.regWrite ∧ latch.rd ≠ 0 then some ⟨latch.rd, latch.result⟩ else none }

/-! ## Decode -/

/-- Reads a register in the cycle in which `retiring` is written: the new value is seen already. -/
def RegisterFile.readThrough (rf : RegisterFile) (retiring : Option RegisterWrite) (index : Nat) :
    Doubleword :=
  match retiring with
  | some w => if index ≠ 0 ∧ w.rd = index then w.value else rf.read index
  | none => rf.read index

/-- An unknown opcode decodes to a bubble, with its fields still in the latch. -/
def IfId.decode (latch : IfId) (rf : RegisterFile) (retiring : Option RegisterWrite) : IdEx :=
  if latch.valid then
    { pc := latch.pc
      word := latch.word
      rd := latch.word.rd
      rs1 := latch.word.rs1
      rs2 := latch.word.rs2
      funct3 := latch.word.funct3
      funct7 := latch.word.funct7
      imm := latch.word.immediate
      value1 := rf.readThrough retiring latch.word.rs1
      value2 := rf.readThrough retiring latch.word.rs2
      control := Control.ofCode latch.word.opcode }
  else {}

/-! ## Execute -/

structure Operands where
  rs1 : Doubleword
  rs2 : Doubleword
  deriving DecidableEq, Repr

def Forwarding.operands (fwd : Forwarding) (idEx : IdEx) (exMem : ExMem) (memWb : MemWb) :
    Operands :=
  ⟨fwd.first.value idEx.value1 exMem memWb, fwd.second.value idEx.value2 exMem memWb⟩

def IdEx.firstInput (latch : IdEx) (operands : Operands) : Doubleword :=
  match latch.control.first with
  | .reg1 => operands.rs1
  | .pc => latch.pc
  | .zero => 0

def IdEx.secondInput (latch : IdEx) (operands : Operands) : Doubleword :=
  match latch.control.second with
  | .reg2 => operands.rs2
  | .imm => latch.imm

def IdEx.aluOp? (latch : IdEx) : Option AluOp :=
  FiveStage.aluOp? latch.control.aluClass latch.funct3 latch.funct7

/-- The output of the arithmetic unit, which is 0 if the function codes name no operation. -/
def IdEx.calculated (latch : IdEx) (operands : Operands) : Doubleword :=
  match latch.aluOp? with
  | some op => op.eval (latch.firstInput operands) (latch.secondInput operands)
  | none => 0

/-- The value that goes on: jumps carry their return address. -/
def IdEx.outcome (latch : IdEx) (operands : Operands) : Doubleword :=
  if latch.control.jump then latch.pc + BitVec.ofNat 64 instructionSize
  else latch.calculated operands

def IdEx.taken (latch : IdEx) (operands : Operands) : Bool :=
  if latch.control.jump then true
  else if latch.control.branch then branchTaken latch.funct3 operands.rs1 operands.rs2
  else false

def IdEx.target (latch : IdEx) (operands : Operands) : Doubleword :=
  if latch.control.jump then
    if latch.control.first = .pc then latch.calculated operands
    else registerTarget (latch.calculated operands)
  else if latch.control.branch then relativeTarget latch.pc latch.imm
  else 0

def IdEx.execute (latch : IdEx) (fwd : Forwarding) (exMem : ExMem) (memWb : MemWb) : ExMem :=
  if latch.isEmpty then {}
  else
    let operands := fwd.operands latch exMem memWb
    { pc := latch.pc
      word := latch.word
      rd := latch.rd
      funct3 := latch.funct3
      alu := latch.outcome operands
      zero := latch.calculated operands == 0
      storeData := operands.rs2
      taken := latch.taken operands
      target := latch.target operands
      control := latch.control }

/-! ## Memory access -/

/-- A store that has passed its check and waits for the end of the cycle. -/
structure PendingStore where
  addr : Doubleword
  width : Nat
  value : Doubleword
  deriving DecidableEq, Repr

structure AccessResult where
  latch : MemWb := {}
  store : Option PendingStore := none
  redirect : Option Doubleword := none
  deriving DecidableEq, Repr

def ExMem.load (latch : ExMem) (memory : DataMemory) : Except Fault Doubleword :=
  if latch.control.memRead then
    match Access.load? latch.funct3 with
    | some access => (memory.read latch.alu access.width).map access.extend
    | none => .ok 0
  else .ok 0

def ExMem.stage (latch : ExMem) (memory : DataMemory) : Except Fault (Option PendingStore) :=
  if latch.control.memWrite then
    match Access.store? latch.funct3 with
    | some access =>
        (memory.check latch.alu access.width).map fun _ =>
          some ⟨latch.alu, access.width, latch.storeData⟩
    | none => .ok none
  else .ok none

def ExMem.redirect? (latch : ExMem) : Option Doubleword :=
  if latch.control.isControlFlow ∧ latch.taken then some latch.target else none

/-- Loads come before stores.  Nothing is written here. -/
def ExMem.access (latch : ExMem) (memory : DataMemory) : Except Fault AccessResult :=
  if latch.isEmpty then .ok {}
  else
    match latch.load memory with
    | .error fault => .error fault
    | .ok loadData =>
        match latch.stage memory with
        | .error fault => .error fault
        | .ok store =>
            .ok
              { latch :=
                  { pc := latch.pc
                    word := latch.word
                    rd := latch.rd
                    alu := latch.alu
                    loadData
                    control := latch.control }
                store
                redirect := latch.redirect? }

def DataMemory.apply (memory : DataMemory) : Option PendingStore → Except Fault DataMemory
  | some store => memory.write store.addr store.width store.value
  | none => .ok memory

end FiveStage
