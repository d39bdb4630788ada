import FiveStage.Datapath.Access
import FiveStage.Datapath.Alu
import FiveStage.Datapath.Branch
import FiveStage.Isa.Immediate
import FiveStage.Machine.DataMemory
import FiveStage.Machine.Program
import FiveStage.Machine.RegisterFile

/-!
# The sequential machine

The machine that a program is written for: every instruction is carried out in full before the
next one starts.  It has registers, memory and a program counter, and nothing of a pipeline.  It
decodes, calculates and reaches memory with the same units as the core.
-/

namespace FiveStage

/-- What a program can observe between two instructions. -/
structure MachineState where
  pc : Doubleword := 0
  registers : RegisterFile := RegisterFile.empty
  memory : DataMemory
  deriving DecidableEq, Repr

structure Execution where
  pc : Doubleword
  word : Word
  write : Option RegisterWrite
  taken : Bool
  deriving DecidableEq, Repr

inductive SequentialStep where
  | executed (execution : Execution) (next : MachineState)
  | finished
  | faulted (fault : Fault)
  deriving DecidableEq, Repr

namespace MachineState

def firstInput (s : MachineState) (w : Word) : Doubleword :=
  match (Control.ofCode w.opcode).first with
  | .reg1 => s.registers.read w.rs1
  | .pc => s.pc
  | .zero => 0

def secondInput (s : MachineState) (w : Word) : Doubleword :=
  match (Control.ofCode w.opcode).second with
  | .reg2 => s.registers.read w.rs2
  | .imm => w.immediate

def calculated (s : MachineState) (w : Word) : Doubleword :=
  match aluOp? (Control.ofCode w.opcode).aluClass w.funct3 w.funct7 with
  | some op => op.eval (s.firstInput w) (s.secondInput w)
  | none => 0

def taken (s : MachineState) (w : Word) : Bool :=
  let control := Control.ofCode w.opcode
  control.jump ||
    (control.branch && branchTaken w.funct3 (s.registers.read w.rs1) (s.registers.read w.rs2))

def target (s : MachineState) (w : Word) : Doubleword :=
  let control := Control.ofCode w.opcode
  if control.branch then relativeTarget s.pc w.immediate
  else if control.first = .pc then s.calculated w
  else registerTarget (s.calculated w)

def nextPc (s : MachineState) (w : Word) : Doubleword :=
  if s.taken w then s.target w else s.pc + BitVec.ofNat 64 instructionSize

def loaded (s : MachineState) (w : Word) : Except Fault Doubleword :=
  if (Control.ofCode w.opcode).memRead then
    match Access.load? w.funct3 with
    | some access => (s.memory.read (s.calculated w) access.width).map access.extend
    | none => .ok 0
  else .ok 0

def stored (s : MachineState) (w : Word) : Except Fault DataMemory :=
  if (Control.ofCode w.opcode).memWrite then
    match Access.store? w.funct3 with
    | some access => s.memory.write (s.calculated w) access.width (s.registers.read w.rs2)
    | none => .ok s.memory
  else .ok s.memory

def write (s : MachineState) (w : Word) (loadData : Doubleword) : Option RegisterWrite :=
  let control := Control.ofCode w.opcode
  let value :=
    if control.memToReg then loadData
    else if control.jump then s.pc + BitVec.ofNat 64 instructionSize
    else s.calculated w
  if control.regWrite ∧ w.rd ≠ 0 then some ⟨w.rd, value⟩ else none

/-- Carries out one word.  A word of no known category only moves the program counter on. -/
def execute (s : MachineState) (w : Word) : Except Fault (Execution × MachineState) :=
  match s.loaded w with
  | .error fault => .error fault
  | .ok loadData =>
      match s.stored w with
      | .error fault => .error fault
      | .ok memory =>
          let write := s.write w loadData
          .ok
            ({ pc := s.pc, word := w, write, taken := s.taken w },
              { pc := s.nextPc w, registers := s.registers.apply write, memory })

/-- One step.  The end of the program is the only place where the machine may stop in order. -/
def step (p : Program) (s : MachineState) : SequentialStep :=
  match p.fetchWord s.pc with
  | .error fault => .faulted fault
  | .ok none => .finished
  | .ok (some word) =>
      match s.execute word with
      | .error fault => .faulted fault
      | .ok (execution, next) => .executed execution next

def run (p : Program) : Nat → MachineState → List Execution × MachineState
  | 0, s => ([], s)
  | n + 1, s =>
      match s.step p with
      | .executed execution next =>
          let (executions, last) := run p n next
          (execution :: executions, last)
      | .finished | .faulted _ => ([], s)

end MachineState

end FiveStage
