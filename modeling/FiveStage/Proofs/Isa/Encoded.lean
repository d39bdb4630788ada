import FiveStage.Proofs.Isa.Fields
import FiveStage.Proofs.Isa.Holding

/-!
# Encoded instructions

`EncodedBy` spells out the fields and the immediate that the word of an instruction has to have, in
the terms of the decoder.  The packed word has them whenever the operands fit.
-/

namespace FiveStage.Instruction

def Fits : Instruction → Prop
  | register .. => True
  | immediate _ _ _ value => -2048 ≤ value ∧ value ≤ 2047
  | shift _ _ _ amount => amount < 64
  | load _ _ _ offset | store _ _ _ offset | jalr _ _ offset => -2048 ≤ offset ∧ offset ≤ 2047
  | branch _ _ _ offset => -4096 ≤ offset ∧ offset ≤ 4095 ∧ offset % 2 = 0
  | upper _ _ value => -524288 ≤ value ∧ value ≤ 1048575
  | jal _ offset => -1048576 ≤ offset ∧ offset ≤ 1048575 ∧ offset % 2 = 0

/-- The low six bits of the immediate of a shift are its amount.  Of the others only bit 10 may be
set, which asks for an arithmetic shift. -/
def EncodedBy (i : Instruction) (w : Word) : Prop :=
  match i with
  | register op rd rs1 rs2 =>
      w.opcode = Opcode.op.code ∧ w.funct3 = op.funct3 ∧ w.funct7 = op.funct7 ∧
        w.rdRegister = rd ∧ w.rs1Register = rs1 ∧ w.rs2Register = rs2
  | immediate op rd rs1 value =>
      w.opcode = Opcode.opImm.code ∧ w.funct3 = op.funct3 ∧ w.rdRegister = rd ∧
        w.rs1Register = rs1 ∧ w.immediate.toInt = value
  | shift op rd rs1 amount =>
      w.opcode = Opcode.opImm.code ∧ w.funct3 = op.funct3 ∧ w.rdRegister = rd ∧
        w.rs1Register = rs1 ∧ w.immediate.toInt = amount + if op = .srai then 2 ^ 10 else 0
  | load op rd base offset =>
      w.opcode = Opcode.load.code ∧ w.funct3 = op.funct3 ∧ w.rdRegister = rd ∧
        w.rs1Register = base ∧ w.immediate.toInt = offset
  | store op source base offset =>
      w.opcode = Opcode.store.code ∧ w.funct3 = op.funct3 ∧ w.rs1Register = base ∧
        w.rs2Register = source ∧ w.immediate.toInt = offset
  | branch op rs1 rs2 offset =>
      w.opcode = Opcode.branch.code ∧ w.funct3 = op.funct3 ∧ w.rs1Register = rs1 ∧
        w.rs2Register = rs2 ∧ w.immediate.toInt = offset
  | upper op rd value =>
      w.opcode = op.opcode.code ∧ w.rdRegister = rd ∧
        w.immediate.toInt = (value % 2 ^ 20 * 2 ^ 12).bmod (2 ^ 32)
  | jal rd offset =>
      w.opcode = Opcode.jal.code ∧ w.rdRegister = rd ∧ w.immediate.toInt = offset
  | jalr rd base offset =>
      w.opcode = Opcode.jalr.code ∧ w.funct3 = 0 ∧ w.rdRegister = rd ∧ w.rs1Register = base ∧
        w.immediate.toInt = offset

theorem code_mod (o : Opcode) : o.code % 128 = o.code := by cases o <;> rfl

theorem val_mod (r : Register) : r.val % 32 = r.val := Nat.mod_eq_of_lt r.isLt

variable {rd rs1 rs2 : Register} {funct3 : Nat} {w : Word}

theorem immediate_of_code {o : Opcode} {format : ImmediateFormat} (opcode : w.opcode = o.code)
    (carries : o.immediateFormat? = some format) : w.immediate = format.extract w :=
  Word.immediate_of_category (opcode ▸ Opcode.ofCode?_code o) carries

theorem fields_i (o : Opcode) (imm : Int) (carries : o.immediateFormat? = some .i)
    (code : funct3 < 8) (fits : -2048 ≤ imm ∧ imm ≤ 2047)
    (made : w = Encoding.i o.code rd funct3 rs1 imm) :
    w.opcode = o.code ∧ w.funct3 = funct3 ∧ w.rdRegister = rd ∧ w.rs1Register = rs1 ∧
      w.immediate.toInt = imm := by
  obtain ⟨opcode, destination, function, source⟩ := Encoding.i_fields o.code rd funct3 rs1 imm
  rw [← made, code_mod] at opcode
  rw [← made, val_mod] at destination source
  rw [← made, Nat.mod_eq_of_lt code] at function
  refine ⟨opcode, function, Fin.ext destination, Fin.ext source, ?_⟩
  rw [immediate_of_code opcode carries, made, Encoding.toInt_extract_i]
  exact Int.bmod_eq_of_le (by omega) (by omega)

theorem encodedBy_register (op : RegisterOp) :
    (register op rd rs1 rs2).EncodedBy (register op rd rs1 rs2).encode := by
  obtain ⟨opcode, destination, function3, source1, source2, function7⟩ :=
    Encoding.r_fields Opcode.op.code rd op.funct3 rs1 rs2 op.funct7
  have small : op.funct3 % 8 = op.funct3 ∧ op.funct7 % 128 = op.funct7 := by
    cases op <;> decide
  exact ⟨opcode, function3.trans small.1, function7.trans small.2,
    Fin.ext (destination.trans (val_mod rd)), Fin.ext (source1.trans (val_mod rs1)),
    Fin.ext (source2.trans (val_mod rs2))⟩

theorem encodedBy_shift (op : ShiftOp) {amount : Nat} (fits : amount < 64) :
    (shift op rd rs1 amount).EncodedBy (shift op rd rs1 amount).encode := by
  have bounded : op.highBits + amount ≤ 2047 := by
    cases op <;> (simp only [ShiftOp.highBits]; omega)
  obtain ⟨opcode, function, destination, source, packed⟩ :=
    fields_i .opImm (op.highBits + amount : Nat) rfl (show op.funct3 < 8 by cases op <;> decide)
      (by omega) rfl
  refine ⟨opcode, function, destination, source, packed.trans ?_⟩
  cases op <;> simp only [ShiftOp.highBits, reduceCtorEq, if_true, if_false] <;> omega

theorem encodedBy_store (op : StoreOp) {offset : Int} (fits : -2048 ≤ offset ∧ offset ≤ 2047) :
    (store op rs2 rs1 offset).EncodedBy (store op rs2 rs1 offset).encode := by
  obtain ⟨opcode, function, source1, source2⟩ :=
    Encoding.s_fields Opcode.store.code op.funct3 rs1 rs2 offset
  have small : op.funct3 % 8 = op.funct3 := by cases op <;> decide
  refine ⟨opcode, function.trans small, Fin.ext (source1.trans (val_mod rs1)),
    Fin.ext (source2.trans (val_mod rs2)), ?_⟩
  rw [encode, immediate_of_code (o := .store) opcode rfl, Encoding.toInt_extract_s]
  exact Int.bmod_eq_of_le (by omega) (by omega)

theorem encodedBy_branch (op : BranchOp) {offset : Int}
    (fits : -4096 ≤ offset ∧ offset ≤ 4095 ∧ offset % 2 = 0) :
    (branch op rs1 rs2 offset).EncodedBy (branch op rs1 rs2 offset).encode := by
  obtain ⟨opcode, function, source1, source2⟩ :=
    Encoding.b_fields Opcode.branch.code op.funct3 rs1 rs2 offset
  have small : op.funct3 % 8 = op.funct3 := by cases op <;> decide
  refine ⟨opcode, function.trans small, Fin.ext (source1.trans (val_mod rs1)),
    Fin.ext (source2.trans (val_mod rs2)), ?_⟩
  rw [encode, immediate_of_code (o := .branch) opcode rfl, Encoding.toInt_extract_b,
    Int.bmod_eq_of_le (by omega) (by omega)]
  omega

theorem encodedBy_upper (op : UpperOp) {value : Int} :
    (upper op rd value).EncodedBy (upper op rd value).encode := by
  obtain ⟨opcode, destination⟩ := Encoding.u_fields op.opcode.code rd value
  rw [code_mod] at opcode
  refine ⟨opcode, Fin.ext (destination.trans (val_mod rd)), ?_⟩
  have scaled : value % 2 ^ 20 * 2 ^ 12 = 4096 * value % 4294967296 := by omega
  rw [encode, immediate_of_code opcode (by cases op <;> rfl), Encoding.toInt_extract_u, scaled]
  exact (Int.emod_bmod ..).symm

theorem encodedBy_jal {offset : Int}
    (fits : -1048576 ≤ offset ∧ offset ≤ 1048575 ∧ offset % 2 = 0) :
    (jal rd offset).EncodedBy (jal rd offset).encode := by
  obtain ⟨opcode, destination⟩ := Encoding.j_fields Opcode.jal.code rd offset
  refine ⟨opcode, Fin.ext (destination.trans (val_mod rd)), ?_⟩
  rw [encode, immediate_of_code (o := .jal) opcode rfl, Encoding.toInt_extract_j,
    Int.bmod_eq_of_le (by omega) (by omega)]
  omega

theorem encodedBy_encode {i : Instruction} (fits : i.Fits) : i.EncodedBy i.encode := by
  cases i with
  | register op rd rs1 rs2 => exact encodedBy_register op
  | immediate op rd rs1 value =>
      exact fields_i .opImm value rfl (by cases op <;> decide) fits rfl
  | shift op rd rs1 amount => exact encodedBy_shift op fits
  | load op rd base offset =>
      exact fields_i .load offset rfl (by cases op <;> decide) fits rfl
  | store op source base offset => exact encodedBy_store op fits
  | branch op rs1 rs2 offset => exact encodedBy_branch op fits
  | upper op rd value => exact encodedBy_upper op
  | jal rd offset => exact encodedBy_jal fits
  | jalr rd base offset => exact fields_i .jalr offset rfl (by decide) fits rfl

/-! ## What words hold fits -/

theorem bounds_signExtend {n : Nat} (narrow : n ≤ 64) (x : BitVec n) :
    -(2 ^ n : Int) ≤ 2 * (x.signExtend 64).toInt ∧ 2 * (x.signExtend 64).toInt < 2 ^ n := by
  rw [BitVec.toInt_signExtend_of_le narrow]
  exact ⟨BitVec.le_two_mul_toInt, BitVec.two_mul_toInt_lt⟩

theorem even_signExtend {n : Nat} (narrow : n + 1 ≤ 64) (x : BitVec n) :
    ((x ++ 0#1).signExtend 64).toInt % 2 = 0 := by
  rw [BitVec.toInt_signExtend_of_le narrow, BitVec.toInt_append_zero]
  omega

theorem bounds_extract_i (w : Word) :
    -2048 ≤ (ImmediateFormat.i.extract w).toInt ∧ (ImmediateFormat.i.extract w).toInt ≤ 2047 := by
  have := bounds_signExtend (by decide) (w.extractLsb' 20 12)
  rw [ImmediateFormat.extract]
  omega

theorem bounds_extract_b (w : Word) :
    -4096 ≤ (ImmediateFormat.b.extract w).toInt ∧ (ImmediateFormat.b.extract w).toInt ≤ 4095 ∧
      (ImmediateFormat.b.extract w).toInt % 2 = 0 := by
  rw [ImmediateFormat.extract]
  generalize w.extractLsb' 31 1 ++ w.extractLsb' 7 1 ++ w.extractLsb' 25 6 ++ w.extractLsb' 8 4 =
    high
  have bounds := bounds_signExtend (by decide) (high ++ 0#1)
  have even := even_signExtend (by decide) high
  omega

theorem bounds_extract_j (w : Word) :
    -1048576 ≤ (ImmediateFormat.j.extract w).toInt ∧
      (ImmediateFormat.j.extract w).toInt ≤ 1048575 ∧
      (ImmediateFormat.j.extract w).toInt % 2 = 0 := by
  rw [ImmediateFormat.extract]
  generalize w.extractLsb' 31 1 ++ w.extractLsb' 12 8 ++ w.extractLsb' 20 1 ++
    w.extractLsb' 21 10 = high
  have bounds := bounds_signExtend (by decide) (high ++ 0#1)
  have even := even_signExtend (by decide) high
  omega

theorem fits_of_holds {i : Instruction} (holds : w.Holds i) : i.Fits := by
  cases holds with
  | register => trivial
  | immediate | load | jalr => exact bounds_extract_i w
  | shift => exact (w.extractLsb' 20 6).isLt
  | store =>
      have := bounds_signExtend (by decide) (w.extractLsb' 25 7 ++ w.extractLsb' 7 5)
      simp only [Fits, ImmediateFormat.extract]
      omega
  | branch => exact bounds_extract_b w
  | upper =>
      have := (w.extractLsb' 12 20).isLt
      simp only [Fits, Word.upperValue]
      omega
  | jal => exact bounds_extract_j w

end FiveStage.Instruction
