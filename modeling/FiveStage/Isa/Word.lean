/-!
# Instruction words

Every instruction is one 32-bit word.  The opcode, the function codes and the register fields
sit at the same bits in all formats, whether or not a format uses them.
-/

namespace FiveStage

abbrev Word := BitVec 32

abbrev Doubleword := BitVec 64

def instructionSize : Nat := 4

namespace Word

def opcode (w : Word) : Nat := (w.extractLsb' 0 7).toNat

def rd (w : Word) : Nat := (w.extractLsb' 7 5).toNat

def funct3 (w : Word) : Nat := (w.extractLsb' 12 3).toNat

def rs1 (w : Word) : Nat := (w.extractLsb' 15 5).toNat

def rs2 (w : Word) : Nat := (w.extractLsb' 20 5).toNat

def funct7 (w : Word) : Nat := (w.extractLsb' 25 7).toNat

theorem rd_lt (w : Word) : w.rd < 32 := (w.extractLsb' 7 5).isLt

theorem funct3_lt (w : Word) : w.funct3 < 8 := (w.extractLsb' 12 3).isLt

theorem rs1_lt (w : Word) : w.rs1 < 32 := (w.extractLsb' 15 5).isLt

theorem rs2_lt (w : Word) : w.rs2 < 32 := (w.extractLsb' 20 5).isLt

theorem funct7_lt (w : Word) : w.funct7 < 128 := (w.extractLsb' 25 7).isLt

end Word

end FiveStage
