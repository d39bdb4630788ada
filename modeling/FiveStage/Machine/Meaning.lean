import FiveStage.Isa.Instruction
import FiveStage.Machine.Sequential

/-!
# The meaning of instructions

What each instruction does to registers, memory and the program counter, in the terms of the
instruction set and not of any circuit.  Sums and addresses are taken modulo two to the 64.
-/

namespace FiveStage

def truthValue (condition : Prop) [Decidable condition] : Doubleword :=
  if condition then 1 else 0

def RegisterOp.apply (op : RegisterOp) (a b : Doubleword) : Doubleword :=
  match op with
  | .add => a + b
  | .sub => a - b
  | .sll => BitVec.ofNat 64 (a.toNat <<< (b.toNat % 64))
  | .slt => truthValue (a.toInt < b.toInt)
  | .sltu => truthValue (a.toNat < b.toNat)
  | .xor => a ^^^ b
  | .srl => BitVec.ofNat 64 (a.toNat >>> (b.toNat % 64))
  | .sra => BitVec.ofInt 64 (a.toInt >>> (b.toNat % 64))
  | .or => a ||| b
  | .and => a &&& b

def ImmediateOp.registerOp : ImmediateOp → RegisterOp
  | .addi => .add
  | .slti => .slt
  | .sltiu => .sltu
  | .xori => .xor
  | .ori => .or
  | .andi => .and

def ShiftOp.registerOp : ShiftOp → RegisterOp
  | .slli => .sll
  | .srli => .srl
  | .srai => .sra

def LoadOp.width : LoadOp → Nat
  | .lb | .lbu => 1
  | .lh | .lhu => 2
  | .lw | .lwu => 4
  | .ld => 8

def LoadOp.isSigned : LoadOp → Bool
  | .lb | .lh | .lw | .ld => true
  | .lbu | .lhu | .lwu => false

def StoreOp.width : StoreOp → Nat
  | .sb => 1
  | .sh => 2
  | .sw => 4
  | .sd => 8

def LoadOp.fill (op : LoadOp) (raw : Nat) : Doubleword :=
  let bytes := BitVec.ofNat (8 * op.width) raw
  if op.isSigned then BitVec.ofInt 64 bytes.toInt else BitVec.ofNat 64 bytes.toNat

def BranchOp.Holds (op : BranchOp) (a b : Doubleword) : Prop :=
  match op with
  | .beq => a = b
  | .bne => a ≠ b
  | .blt => a.toInt < b.toInt
  | .bge => b.toInt ≤ a.toInt
  | .bltu => a.toNat < b.toNat
  | .bgeu => b.toNat ≤ a.toNat

instance (op : BranchOp) (a b : Doubleword) : Decidable (op.Holds a b) := by
  cases op <;> unfold BranchOp.Holds <;> infer_instance

/-- The value of an upper immediate: its 20 bits above twelve zeros, with the sign of the word. -/
def upperImmediate (value : Int) : Doubleword :=
  BitVec.ofInt 64 (Int.bmod (value * 4096) 4294967296)

namespace MachineState

def read (s : MachineState) (r : Register) : Doubleword := s.registers.read r.val

def put (s : MachineState) (rd : Register) (value : Doubleword) : MachineState :=
  { s with registers := s.registers.write rd.val value, pc := s.pc + 4 }

def link (s : MachineState) (rd : Register) (target : Doubleword) : MachineState :=
  { s with registers := s.registers.write rd.val (s.pc + 4), pc := target }

def addressAt (s : MachineState) (base : Register) (offset : Int) : Doubleword :=
  s.read base + BitVec.ofInt 64 offset

end MachineState

namespace Instruction

/-- The state after an instruction, or the fault that keeps it from having any effect. -/
def effect (i : Instruction) (s : MachineState) : Except Fault MachineState :=
  match i with
  | register op rd rs1 rs2 => .ok (s.put rd (op.apply (s.read rs1) (s.read rs2)))
  | immediate op rd rs1 value =>
      .ok (s.put rd (op.registerOp.apply (s.read rs1) (BitVec.ofInt 64 value)))
  | shift op rd rs1 amount =>
      .ok (s.put rd (op.registerOp.apply (s.read rs1) (BitVec.ofNat 64 amount)))
  | load op rd base offset =>
      let addr := s.addressAt base offset
      if addr.toNat + op.width ≤ s.memory.size then
        .ok (s.put rd (op.fill (littleEndian s.memory.bytes addr.toNat op.width)))
      else .error (.accessOutOfRange addr op.width)
  | store op source base offset =>
      let addr := s.addressAt base offset
      if addr.toNat + op.width ≤ s.memory.size then
        .ok
          { s with
            pc := s.pc + 4
            memory :=
              ⟨putLittleEndian s.memory.bytes addr.toNat op.width (s.read source).toNat⟩ }
      else .error (.accessOutOfRange addr op.width)
  | branch op rs1 rs2 offset =>
      let distance := if op.Holds (s.read rs1) (s.read rs2) then BitVec.ofInt 64 offset else 4
      .ok { s with pc := s.pc + distance }
  | upper .lui rd value => .ok (s.put rd (upperImmediate value))
  | upper .auipc rd value => .ok (s.put rd (s.pc + upperImmediate value))
  | jal rd offset => .ok (s.link rd (s.pc + BitVec.ofInt 64 offset))
  | jalr rd base offset =>
      let sum := s.addressAt base offset
      .ok (s.link rd (BitVec.ofNat 64 (2 * (sum.toNat / 2))))

end Instruction

end FiveStage
