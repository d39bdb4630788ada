import FiveStage.Isa.Word

/-!
# Encoding

One packer for each base format.  A field keeps the low bits of its argument that fit, so no
argument spills into the field of another.
-/

namespace FiveStage.Encoding

def r (opcode rd funct3 rs1 rs2 funct7 : Nat) : Word :=
  BitVec.ofNat 7 funct7 ++ BitVec.ofNat 5 rs2 ++ BitVec.ofNat 5 rs1 ++ BitVec.ofNat 3 funct3 ++
    BitVec.ofNat 5 rd ++ BitVec.ofNat 7 opcode

def i (opcode rd funct3 rs1 : Nat) (imm : Int) : Word :=
  BitVec.ofInt 12 imm ++ BitVec.ofNat 5 rs1 ++ BitVec.ofNat 3 funct3 ++ BitVec.ofNat 5 rd ++
    BitVec.ofNat 7 opcode

def s (opcode funct3 rs1 rs2 : Nat) (imm : Int) : Word :=
  let bits := BitVec.ofInt 12 imm
  bits.extractLsb' 5 7 ++ BitVec.ofNat 5 rs2 ++ BitVec.ofNat 5 rs1 ++ BitVec.ofNat 3 funct3 ++
    bits.extractLsb' 0 5 ++ BitVec.ofNat 7 opcode

/-- Bit 0 of the offset is dropped. -/
def b (opcode funct3 rs1 rs2 : Nat) (imm : Int) : Word :=
  let bits := BitVec.ofInt 13 imm
  bits.extractLsb' 12 1 ++ bits.extractLsb' 5 6 ++ BitVec.ofNat 5 rs2 ++ BitVec.ofNat 5 rs1 ++
    BitVec.ofNat 3 funct3 ++ bits.extractLsb' 1 4 ++ bits.extractLsb' 11 1 ++ BitVec.ofNat 7 opcode

/-- The argument is the upper immediate itself, not shifted into place. -/
def u (opcode rd : Nat) (imm : Int) : Word :=
  BitVec.ofInt 20 imm ++ BitVec.ofNat 5 rd ++ BitVec.ofNat 7 opcode

def j (opcode rd : Nat) (imm : Int) : Word :=
  let bits := BitVec.ofInt 21 imm
  bits.extractLsb' 20 1 ++ bits.extractLsb' 1 10 ++ bits.extractLsb' 11 1 ++
    bits.extractLsb' 12 8 ++ BitVec.ofNat 5 rd ++ BitVec.ofNat 7 opcode

end FiveStage.Encoding
