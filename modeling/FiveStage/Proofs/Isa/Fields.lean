import FiveStage.Isa.Instruction
import Mathlib.Algebra.Group.Int.Defs
import Mathlib.Algebra.Group.Nat.Defs
import Mathlib.Tactic.Common

/-!
# Fields of encoded words

What each packer puts into the fields and the immediate of a word, for arguments of any size, and
that packing the fields of a word gives the word back.
-/

namespace FiveStage

/-! ## Immediates as integers -/

theorem toInt_signExtend_ofInt {n : Nat} (narrow : n ≤ 64) (value : Int) :
    ((BitVec.ofInt n value).signExtend 64).toInt = value.bmod (2 ^ n) := by
  rw [BitVec.toInt_signExtend_of_le narrow, BitVec.toInt_ofInt]

theorem toInt_append_zero {n : Nat} (m : Nat) (pos : 0 < n) (value : Int) :
    (BitVec.ofInt n value ++ 0#m).toInt = ((2 ^ m : Nat) * value).bmod (2 ^ m * 2 ^ n) := by
  have even : 2 ∣ 2 ^ n := Nat.pow_dvd_pow 2 (show 1 ≤ n from pos)
  rw [BitVec.toInt_append_zero, BitVec.toInt_ofInt,
    Int.mod_bmod_mul_of_pos value _ (Nat.two_pow_pos m) even, Int.natCast_pow]
  rfl

theorem extractLsb'_one_ofInt (n : Nat) (value : Int) :
    (BitVec.ofInt (n + 1) value).extractLsb' 1 n = BitVec.ofInt n (value / 2) := by
  have half : value % (2 * 2 ^ n : Nat) / 2 = value / 2 % (2 ^ n : Nat) := by
    rw [Int.emod_def, Int.emod_def, Int.natCast_mul, Int.cast_ofNat_Int,
      Int.ediv_ediv_of_nonneg (by decide), Int.mul_assoc]
    omega
  have pos : 0 < 2 ^ n := Nat.two_pow_pos n
  have low := Int.emod_nonneg value (show ((2 * 2 ^ n : Nat) : Int) ≠ 0 by omega)
  have high := Int.emod_lt_of_pos value (show 0 < ((2 * 2 ^ n : Nat) : Int) by omega)
  apply BitVec.eq_of_toNat_eq
  rw [BitVec.extractLsb'_toNat, BitVec.toNat_ofInt, BitVec.toNat_ofInt, Nat.shiftRight_eq_div_pow,
    Nat.pow_succ', ← half, Nat.mod_eq_of_lt (by omega)]
  omega

namespace Encoding

/-! ## Fields -/

theorem r_fields (opcode rd funct3 rs1 rs2 funct7 : Nat) :
    (r opcode rd funct3 rs1 rs2 funct7).opcode = opcode % 128 ∧
      (r opcode rd funct3 rs1 rs2 funct7).rd = rd % 32 ∧
      (r opcode rd funct3 rs1 rs2 funct7).funct3 = funct3 % 8 ∧
      (r opcode rd funct3 rs1 rs2 funct7).rs1 = rs1 % 32 ∧
      (r opcode rd funct3 rs1 rs2 funct7).rs2 = rs2 % 32 ∧
      (r opcode rd funct3 rs1 rs2 funct7).funct7 = funct7 % 128 := by
  unfold r Word.opcode Word.rd Word.funct3 Word.rs1 Word.rs2 Word.funct7
  simp (disch := decide) only [BitVec.extractLsb'_append_eq_of_le,
    BitVec.extractLsb'_append_eq_of_add_le, Nat.reduceSub, BitVec.extractLsb'_eq_self,
    BitVec.toNat_ofNat, Nat.reducePow, and_self]

theorem i_fields (opcode rd funct3 rs1 : Nat) (imm : Int) :
    (i opcode rd funct3 rs1 imm).opcode = opcode % 128 ∧
      (i opcode rd funct3 rs1 imm).rd = rd % 32 ∧
      (i opcode rd funct3 rs1 imm).funct3 = funct3 % 8 ∧
      (i opcode rd funct3 rs1 imm).rs1 = rs1 % 32 := by
  unfold i Word.opcode Word.rd Word.funct3 Word.rs1
  simp (disch := decide) only [BitVec.extractLsb'_append_eq_of_le,
    BitVec.extractLsb'_append_eq_of_add_le, Nat.reduceSub, BitVec.extractLsb'_eq_self,
    BitVec.toNat_ofNat, Nat.reducePow, and_self]

theorem s_fields (opcode funct3 rs1 rs2 : Nat) (imm : Int) :
    (s opcode funct3 rs1 rs2 imm).opcode = opcode % 128 ∧
      (s opcode funct3 rs1 rs2 imm).funct3 = funct3 % 8 ∧
      (s opcode funct3 rs1 rs2 imm).rs1 = rs1 % 32 ∧
      (s opcode funct3 rs1 rs2 imm).rs2 = rs2 % 32 := by
  unfold s Word.opcode Word.funct3 Word.rs1 Word.rs2
  simp (disch := decide) only [BitVec.extractLsb'_append_eq_of_le,
    BitVec.extractLsb'_append_eq_of_add_le, Nat.reduceSub, BitVec.extractLsb'_eq_self,
    BitVec.toNat_ofNat, Nat.reducePow, and_self]

theorem b_fields (opcode funct3 rs1 rs2 : Nat) (imm : Int) :
    (b opcode funct3 rs1 rs2 imm).opcode = opcode % 128 ∧
      (b opcode funct3 rs1 rs2 imm).funct3 = funct3 % 8 ∧
      (b opcode funct3 rs1 rs2 imm).rs1 = rs1 % 32 ∧
      (b opcode funct3 rs1 rs2 imm).rs2 = rs2 % 32 := by
  unfold b Word.opcode Word.funct3 Word.rs1 Word.rs2
  simp (disch := decide) only [BitVec.extractLsb'_append_eq_of_le,
    BitVec.extractLsb'_append_eq_of_add_le, Nat.reduceSub, BitVec.extractLsb'_eq_self,
    BitVec.toNat_ofNat, Nat.reducePow, and_self]

theorem u_fields (opcode rd : Nat) (imm : Int) :
    (u opcode rd imm).opcode = opcode % 128 ∧ (u opcode rd imm).rd = rd % 32 := by
  unfold u Word.opcode Word.rd
  simp (disch := decide) only [BitVec.extractLsb'_append_eq_of_le,
    BitVec.extractLsb'_append_eq_of_add_le, Nat.reduceSub, BitVec.extractLsb'_eq_self,
    BitVec.toNat_ofNat, Nat.reducePow, and_self]

theorem j_fields (opcode rd : Nat) (imm : Int) :
    (j opcode rd imm).opcode = opcode % 128 ∧ (j opcode rd imm).rd = rd % 32 := by
  unfold j Word.opcode Word.rd
  simp (disch := decide) only [BitVec.extractLsb'_append_eq_of_le,
    BitVec.extractLsb'_append_eq_of_add_le, Nat.reduceSub, BitVec.extractLsb'_eq_self,
    BitVec.toNat_ofNat, Nat.reducePow, and_self]

/-! ## Immediates -/

theorem toInt_extract_i (opcode rd funct3 rs1 : Nat) (imm : Int) :
    (ImmediateFormat.i.extract (i opcode rd funct3 rs1 imm)).toInt = imm.bmod 4096 := by
  have packed : ImmediateFormat.i.extract (i opcode rd funct3 rs1 imm) =
      (BitVec.ofInt 12 imm).signExtend 64 := by
    unfold ImmediateFormat.extract i
    simp (disch := decide) only [BitVec.extractLsb'_append_eq_of_le, Nat.reduceSub,
      BitVec.extractLsb'_eq_self]
  rw [packed]
  exact toInt_signExtend_ofInt (by decide) imm

theorem toInt_extract_s (opcode funct3 rs1 rs2 : Nat) (imm : Int) :
    (ImmediateFormat.s.extract (s opcode funct3 rs1 rs2 imm)).toInt = imm.bmod 4096 := by
  have packed : ImmediateFormat.s.extract (s opcode funct3 rs1 rs2 imm) =
      (BitVec.ofInt 12 imm).signExtend 64 := by
    unfold ImmediateFormat.extract s
    simp (disch := decide) only [BitVec.extractLsb'_append_eq_of_le,
      BitVec.extractLsb'_append_eq_of_add_le, Nat.reduceSub, BitVec.extractLsb'_eq_self,
      BitVec.extractLsb'_append_extractLsb'_eq_extractLsb']
  rw [packed]
  exact toInt_signExtend_ofInt (by decide) imm

theorem toInt_extract_b (opcode funct3 rs1 rs2 : Nat) (imm : Int) :
    (ImmediateFormat.b.extract (b opcode funct3 rs1 rs2 imm)).toInt =
      (2 * (imm / 2)).bmod 8192 := by
  have packed : ImmediateFormat.b.extract (b opcode funct3 rs1 rs2 imm) =
      ((BitVec.ofInt 13 imm).extractLsb' 1 12 ++ 0#1).signExtend 64 := by
    unfold ImmediateFormat.extract b
    simp (disch := decide) only [BitVec.extractLsb'_append_eq_of_le,
      BitVec.extractLsb'_append_eq_of_add_le, Nat.reduceSub, BitVec.extractLsb'_eq_self,
      BitVec.extractLsb'_append_extractLsb'_eq_extractLsb']
  rw [packed, extractLsb'_one_ofInt, BitVec.toInt_signExtend_of_le (by decide)]
  exact toInt_append_zero 1 (by decide) (imm / 2)

theorem toInt_extract_j (opcode rd : Nat) (imm : Int) :
    (ImmediateFormat.j.extract (j opcode rd imm)).toInt = (2 * (imm / 2)).bmod 2097152 := by
  have packed : ImmediateFormat.j.extract (j opcode rd imm) =
      ((BitVec.ofInt 21 imm).extractLsb' 1 20 ++ 0#1).signExtend 64 := by
    unfold ImmediateFormat.extract j
    simp (disch := decide) only [BitVec.extractLsb'_append_eq_of_le,
      BitVec.extractLsb'_append_eq_of_add_le, Nat.reduceSub, BitVec.extractLsb'_eq_self,
      BitVec.extractLsb'_append_extractLsb'_eq_extractLsb']
  rw [packed, extractLsb'_one_ofInt, BitVec.toInt_signExtend_of_le (by decide)]
  exact toInt_append_zero 1 (by decide) (imm / 2)

theorem toInt_extract_u (opcode rd : Nat) (imm : Int) :
    (ImmediateFormat.u.extract (u opcode rd imm)).toInt = (4096 * imm).bmod 4294967296 := by
  have packed : ImmediateFormat.u.extract (u opcode rd imm) =
      (BitVec.ofInt 20 imm ++ 0#12).signExtend 64 := by
    unfold ImmediateFormat.extract u
    simp (disch := decide) only [BitVec.extractLsb'_append_eq_of_le, Nat.reduceSub,
      BitVec.extractLsb'_eq_self]
  rw [packed, BitVec.toInt_signExtend_of_le (by decide)]
  exact toInt_append_zero 12 (by decide) imm

/-! ## Packing fields again -/

theorem i_of_fields (w : Word) :
    i w.opcode w.rd w.funct3 w.rs1 (ImmediateFormat.i.extract w).toInt = w := by
  unfold i ImmediateFormat.extract Word.opcode Word.rd Word.funct3 Word.rs1
  simp (disch := decide) only [BitVec.ofNat_toNat, BitVec.setWidth_eq,
    BitVec.toInt_signExtend_of_le, BitVec.ofInt_toInt,
    BitVec.extractLsb'_append_extractLsb'_eq_extractLsb', BitVec.extractLsb'_eq_self]

theorem r_of_fields (w : Word) :
    r w.opcode w.rd w.funct3 w.rs1 w.rs2 w.funct7 = w := by
  unfold r Word.opcode Word.rd Word.funct3 Word.rs1 Word.rs2 Word.funct7
  simp (disch := decide) only [BitVec.ofNat_toNat, BitVec.setWidth_eq,
    BitVec.extractLsb'_append_extractLsb'_eq_extractLsb', BitVec.extractLsb'_eq_self]

theorem s_of_fields (w : Word) :
    s w.opcode w.funct3 w.rs1 w.rs2 (ImmediateFormat.s.extract w).toInt = w := by
  unfold s ImmediateFormat.extract Word.opcode Word.funct3 Word.rs1 Word.rs2
  simp (disch := decide) only [BitVec.ofNat_toNat, BitVec.setWidth_eq,
    BitVec.toInt_signExtend_of_le, BitVec.ofInt_toInt, BitVec.extractLsb'_append_eq_of_le,
    BitVec.extractLsb'_append_eq_of_add_le, Nat.reduceSub,
    BitVec.extractLsb'_append_extractLsb'_eq_extractLsb', BitVec.extractLsb'_eq_self]

theorem b_of_fields (w : Word) :
    b w.opcode w.funct3 w.rs1 w.rs2 (ImmediateFormat.b.extract w).toInt = w := by
  unfold b ImmediateFormat.extract Word.opcode Word.funct3 Word.rs1 Word.rs2
  simp (disch := decide) only [BitVec.ofNat_toNat, BitVec.setWidth_eq,
    BitVec.toInt_signExtend_of_le, BitVec.ofInt_toInt, BitVec.extractLsb'_append_eq_of_le,
    BitVec.extractLsb'_append_eq_of_add_le, Nat.reduceSub,
    BitVec.extractLsb'_append_extractLsb'_eq_extractLsb', BitVec.extractLsb'_eq_self]

theorem u_of_fields (w : Word) : u w.opcode w.rd w.upperValue = w := by
  unfold u Word.upperValue Word.opcode Word.rd
  simp (disch := decide) only [BitVec.ofInt_natCast, BitVec.ofNat_toNat, BitVec.setWidth_eq,
    BitVec.extractLsb'_append_extractLsb'_eq_extractLsb', BitVec.extractLsb'_eq_self]

theorem j_of_fields (w : Word) :
    j w.opcode w.rd (ImmediateFormat.j.extract w).toInt = w := by
  unfold j ImmediateFormat.extract Word.opcode Word.rd
  simp (disch := decide) only [BitVec.ofNat_toNat, BitVec.setWidth_eq,
    BitVec.toInt_signExtend_of_le, BitVec.ofInt_toInt, BitVec.extractLsb'_append_eq_of_le,
    BitVec.extractLsb'_append_eq_of_add_le, Nat.reduceSub,
    BitVec.extractLsb'_append_extractLsb'_eq_extractLsb', BitVec.extractLsb'_eq_self]

end Encoding

end FiveStage
