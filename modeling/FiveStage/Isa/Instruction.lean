import FiveStage.Isa.Encoding
import FiveStage.Isa.Immediate
import FiveStage.Isa.Operation
import FiveStage.Isa.Register

/-!
# Instructions

An instruction is an operation with its operands.  `encode` packs it into a word, `ofWord?`
reads a word of the supported subset back, and `render` writes it in assembler syntax.
-/

namespace FiveStage

inductive Instruction where
  | register (op : RegisterOp) (rd rs1 rs2 : Register)
  | immediate (op : ImmediateOp) (rd rs1 : Register) (value : Int)
  | shift (op : ShiftOp) (rd rs1 : Register) (amount : Nat)
  | load (op : LoadOp) (rd base : Register) (offset : Int)
  | store (op : StoreOp) (source base : Register) (offset : Int)
  | branch (op : BranchOp) (rs1 rs2 : Register) (offset : Int)
  | upper (op : UpperOp) (rd : Register) (value : Int)
  | jal (rd : Register) (offset : Int)
  | jalr (rd base : Register) (offset : Int)
  deriving DecidableEq, Repr

namespace Word

def rdRegister (w : Word) : Register := ⟨w.rd, w.rd_lt⟩

def rs1Register (w : Word) : Register := ⟨w.rs1, w.rs1_lt⟩

def rs2Register (w : Word) : Register := ⟨w.rs2, w.rs2_lt⟩

def shiftAmount (w : Word) : Nat := (w.extractLsb' 20 6).toNat

def upperValue (w : Word) : Nat := (w.extractLsb' 12 20).toNat

end Word

def UpperOp.opcode : UpperOp → Opcode
  | .lui => .lui
  | .auipc => .auipc

namespace Instruction

def encode : Instruction → Word
  | register op rd rs1 rs2 => Encoding.r Opcode.op.code rd op.funct3 rs1 rs2 op.funct7
  | immediate op rd rs1 value => Encoding.i Opcode.opImm.code rd op.funct3 rs1 value
  | shift op rd rs1 amount =>
      Encoding.i Opcode.opImm.code rd op.funct3 rs1 (op.highBits + amount : Nat)
  | load op rd base offset => Encoding.i Opcode.load.code rd op.funct3 base offset
  | store op source base offset => Encoding.s Opcode.store.code op.funct3 base source offset
  | branch op rs1 rs2 offset => Encoding.b Opcode.branch.code op.funct3 rs1 rs2 offset
  | upper op rd value => Encoding.u op.opcode.code rd value
  | jal rd offset => Encoding.j Opcode.jal.code rd offset
  | jalr rd base offset => Encoding.i Opcode.jalr.code rd 0 base offset

def ofCategory? (w : Word) : Opcode → Option Instruction
  | .op =>
      (RegisterOp.ofFunct? w.funct3 w.funct7).map fun op =>
        register op w.rdRegister w.rs1Register w.rs2Register
  | .opImm =>
      match ImmediateOp.ofFunct3? w.funct3 with
      | some op =>
          some (immediate op w.rdRegister w.rs1Register (ImmediateFormat.i.extract w).toInt)
      | none =>
          (ShiftOp.ofFunct? w.funct3 w.funct7).map fun op =>
            shift op w.rdRegister w.rs1Register w.shiftAmount
  | .load =>
      (LoadOp.ofFunct3? w.funct3).map fun op =>
        load op w.rdRegister w.rs1Register (ImmediateFormat.i.extract w).toInt
  | .store =>
      (StoreOp.ofFunct3? w.funct3).map fun op =>
        store op w.rs2Register w.rs1Register (ImmediateFormat.s.extract w).toInt
  | .branch =>
      (BranchOp.ofFunct3? w.funct3).map fun op =>
        branch op w.rs1Register w.rs2Register (ImmediateFormat.b.extract w).toInt
  | .lui => some (upper .lui w.rdRegister w.upperValue)
  | .auipc => some (upper .auipc w.rdRegister w.upperValue)
  | .jal => some (jal w.rdRegister (ImmediateFormat.j.extract w).toInt)
  | .jalr =>
      if w.funct3 = 0 then
        some (jalr w.rdRegister w.rs1Register (ImmediateFormat.i.extract w).toInt)
      else none
  | .system => none

def ofWord? (w : Word) : Option Instruction := (Opcode.ofCode? w.opcode).bind (ofCategory? w)

def render : Instruction → String
  | register op rd rs1 rs2 => s!"{op.mnemonic} {rd.name}, {rs1.name}, {rs2.name}"
  | immediate op rd rs1 value => s!"{op.mnemonic} {rd.name}, {rs1.name}, {value}"
  | shift op rd rs1 amount => s!"{op.mnemonic} {rd.name}, {rs1.name}, {amount}"
  | load op rd base offset => s!"{op.mnemonic} {rd.name}, {offset}({base.name})"
  | store op source base offset => s!"{op.mnemonic} {source.name}, {offset}({base.name})"
  | branch op rs1 rs2 offset => s!"{op.mnemonic} {rs1.name}, {rs2.name}, {offset}"
  | upper op rd value => s!"{op.mnemonic} {rd.name}, {Text.hex (BitVec.ofInt 20 value).toNat}"
  | jal rd offset => s!"jal {rd.name}, {offset}"
  | jalr rd base offset => s!"jalr {rd.name}, {offset}({base.name})"

end Instruction

/-- A word in assembler syntax; words outside the supported subset are shown in hexadecimal. -/
def Word.disassemble (w : Word) : String :=
  match Instruction.ofWord? w with
  | some instruction => instruction.render
  | none => s!"unknown ({Text.hex32 w.toNat})"

end FiveStage
