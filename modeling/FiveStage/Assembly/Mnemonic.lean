import FiveStage.Assembly.Statement
import FiveStage.Isa.Instruction

/-!
# Mnemonics

What each mnemonic asks for.  Besides the instructions proper there are short forms, each of
which stands for one instruction with some operands fixed.
-/

namespace FiveStage.Assembly

inductive Mnemonic where
  | register (op : RegisterOp)
  | immediate (op : ImmediateOp)
  | shift (op : ShiftOp)
  | load (op : LoadOp)
  | store (op : StoreOp)
  | branch (op : BranchOp)
  | upper (op : UpperOp)
  | jal
  | jalr
  | j
  | jr
  | ret
  | nop
  | mv
  | li
  deriving DecidableEq, Repr

namespace Mnemonic

def table : List (String × Mnemonic) :=
  RegisterOp.all.map (fun op => (op.mnemonic, register op)) ++
    ImmediateOp.all.map (fun op => (op.mnemonic, immediate op)) ++
    ShiftOp.all.map (fun op => (op.mnemonic, shift op)) ++
    LoadOp.all.map (fun op => (op.mnemonic, load op)) ++
    StoreOp.all.map (fun op => (op.mnemonic, store op)) ++
    BranchOp.all.map (fun op => (op.mnemonic, branch op)) ++
    UpperOp.all.map (fun op => (op.mnemonic, upper op)) ++
    [("jal", jal), ("jalr", jalr), ("j", j), ("jr", jr), ("ret", ret), ("nop", nop), ("mv", mv),
      ("li", li)]

def ofString? (text : String) : Option Mnemonic := (table.find? (·.1 = text)).map (·.2)

end Mnemonic

namespace Statement

/-- `jalr rs1`, `jalr rd, offset(rs1)` or `jalr rd, rs1, offset`. -/
def toJalr (s : Statement) : Except Problem Instruction := do
  match s.operands.length with
  | 1 =>
      let base ← s.register 0
      return .jalr Register.ra base 0
  | 2 =>
      let (offset, base) ← s.address 1
      let rd ← s.register 0
      return .jalr rd base offset
  | _ =>
      s.requireOperands 3
      let rd ← s.register 0
      let base ← s.register 1
      let offset ← s.immediate 2 immediateRange
      return .jalr rd base offset

/-- Reads the operands that a mnemonic calls for.  Their number is looked at first; then
immediates, addresses and branch targets come before the registers, but for the destinations of
upper immediates and jumps. -/
def toInstruction (s : Statement) (context : Context) : Mnemonic → Except Problem Instruction
  | .register op => do
      s.requireOperands 3
      let rd ← s.register 0
      let rs1 ← s.register 1
      let rs2 ← s.register 2
      return .register op rd rs1 rs2
  | .immediate op => do
      s.requireOperands 3
      let value ← s.immediate 2 immediateRange
      let rd ← s.register 0
      let rs1 ← s.register 1
      return .immediate op rd rs1 value
  | .shift op => do
      s.requireOperands 3
      let amount ← s.immediate 2 shiftRange
      let rd ← s.register 0
      let rs1 ← s.register 1
      return .shift op rd rs1 amount.toNat
  | .load op => do
      s.requireOperands 2
      let (offset, base) ← s.address 1
      let rd ← s.register 0
      return .load op rd base offset
  | .store op => do
      s.requireOperands 2
      let (offset, base) ← s.address 1
      let source ← s.register 0
      return .store op source base offset
  | .branch op => do
      s.requireOperands 3
      let offset ← s.target context 2 branchRange
      let rs1 ← s.register 0
      let rs2 ← s.register 1
      return .branch op rs1 rs2 offset
  | .upper op => do
      s.requireOperands 2
      let rd ← s.register 0
      let value ← s.immediate 1 upperRange
      return .upper op rd value
  | .jal => do
      if s.operands.length = 1 then
        let offset ← s.target context 0 jumpRange
        return .jal Register.ra offset
      else
        s.requireOperands 2
        let rd ← s.register 0
        let offset ← s.target context 1 jumpRange
        return .jal rd offset
  | .jalr => s.toJalr
  | .j => do
      s.requireOperands 1
      let offset ← s.target context 0 jumpRange
      return .jal Register.zero offset
  | .jr => do
      s.requireOperands 1
      let base ← s.register 0
      return .jalr Register.zero base 0
  | .ret => do
      s.requireOperands 0
      return .jalr Register.zero Register.ra 0
  | .nop => do
      s.requireOperands 0
      return .immediate .addi Register.zero Register.zero 0
  | .mv => do
      s.requireOperands 2
      let rd ← s.register 0
      let rs1 ← s.register 1
      return .immediate .addi rd rs1 0
  | .li => do
      s.requireOperands 2
      let rd ← s.register 0
      let value ← s.immediate 1 immediateRange
      return .immediate .addi rd Register.zero value

end Statement

end FiveStage.Assembly
