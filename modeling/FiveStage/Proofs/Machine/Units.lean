import FiveStage.Machine.Meaning
import Mathlib.Algebra.Group.Nat.Defs
import Mathlib.Tactic.Common

/-!
# The units and the instruction set

Each unit of the datapath does what the instruction set asks of it: the tables of function codes
name the operation of the instruction, the arithmetic unit computes it, and loaded bytes fill a
register as the load demands.
-/

namespace FiveStage

/-! ## The arithmetic unit -/

def RegisterOp.aluOp : RegisterOp → AluOp
  | add => .add
  | sub => .sub
  | sll => .sll
  | slt => .slt
  | sltu => .sltu
  | xor => .xor
  | srl => .srl
  | sra => .sra
  | or => .or
  | and => .and

theorem AluOp.flag_decide (condition : Prop) [Decidable condition] :
    flag (decide condition) = truthValue condition := by
  by_cases h : condition <;> simp [flag, truthValue, h]

theorem RegisterOp.eval_aluOp (op : RegisterOp) (a b : Doubleword) :
    op.aluOp.eval a b = op.apply a b := by
  have slt : AluOp.flag (a.slt b) = truthValue (a.toInt < b.toInt) := by
    rw [BitVec.slt_eq_decide, AluOp.flag_decide]
  have sltu : AluOp.flag (a.ult b) = truthValue (a.toNat < b.toNat) := by
    rw [BitVec.ult_eq_decide, AluOp.flag_decide]
  have sll : a <<< AluOp.shiftAmount b = BitVec.ofNat 64 (a.toNat <<< (b.toNat % 64)) :=
    BitVec.eq_of_toNat_eq (by simp [AluOp.shiftAmount])
  have srl : a >>> AluOp.shiftAmount b = BitVec.ofNat 64 (a.toNat >>> (b.toNat % 64)) := by
    apply BitVec.eq_of_toNat_eq
    have small : a.toNat >>> (b.toNat % 64) < 2 ^ 64 :=
      Nat.lt_of_le_of_lt (Nat.shiftRight_le ..) a.isLt
    rw [BitVec.toNat_ofNat, Nat.mod_eq_of_lt small]
    rfl
  cases op with
  | add | sub | xor | or | and => rfl
  | slt => exact slt
  | sltu => exact sltu
  | sll => exact sll
  | srl => exact srl
  | sra => rfl

theorem registerAluOp?_of_ofFunct? {funct3 funct7 : Nat} {op : RegisterOp}
    (h : RegisterOp.ofFunct? funct3 funct7 = some op) :
    registerAluOp? funct3 funct7 = some op.aluOp := by
  obtain ⟨rfl, rfl⟩ := RegisterOp.funct_of_ofFunct? h
  cases op <;> rfl

theorem immediateAluOp_of_ofFunct3? {funct3 funct7 : Nat} {op : ImmediateOp}
    (h : ImmediateOp.ofFunct3? funct3 = some op) :
    immediateAluOp funct3 funct7 = op.registerOp.aluOp := by
  obtain rfl := ImmediateOp.funct3_of_ofFunct3? h
  cases op <;> rfl

theorem immediateAluOp_of_ofFunct? {funct3 funct7 : Nat} {op : ShiftOp}
    (h : ShiftOp.ofFunct? funct3 funct7 = some op) :
    immediateAluOp funct3 funct7 = op.registerOp.aluOp := by
  unfold ShiftOp.ofFunct? at h
  split at h
  · cases h
    rfl
  · cases h
    by_cases arithmetic : funct7.testBit 5 = true <;> simp [immediateAluOp, arithmetic] <;> rfl
  · cases h

/-! ## Branches -/

theorem branchTaken_of_ofFunct3? {funct3 : Nat} {op : BranchOp}
    (h : BranchOp.ofFunct3? funct3 = some op) (a b : Doubleword) :
    branchTaken funct3 a b = decide (op.Holds a b) := by
  obtain rfl := BranchOp.funct3_of_ofFunct3? h
  rw [Bool.eq_iff_iff, decide_eq_true_iff]
  cases op <;>
    simp [branchTaken, BranchOp.funct3, BranchOp.Holds, BitVec.slt_eq_decide,
      BitVec.ult_eq_decide]

theorem registerTarget_eq (sum : Doubleword) :
    registerTarget sum = BitVec.ofNat 64 (2 * (sum.toNat / 2)) := by
  have halves : BitVec.ofNat 64 (2 * (sum.toNat / 2)) = (sum >>> 1) <<< 1 := by
    apply BitVec.eq_of_toNat_eq
    simp [Nat.shiftLeft_eq, Nat.shiftRight_eq_div_pow, Nat.mul_comm]
  rw [registerTarget, halves]
  ext i lt
  rw [BitVec.getElem_and, BitVec.getElem_not, BitVec.getElem_shiftLeft]
  cases i with
  | zero => simp
  | succ i => simp [Nat.add_comm 1 i, ← BitVec.getLsbD_eq_getElem]

/-! ## Loads and stores -/

theorem load?_of_ofFunct3? {funct3 : Nat} {op : LoadOp}
    (h : LoadOp.ofFunct3? funct3 = some op) :
    Access.load? funct3 = some ⟨op.width, op.isSigned⟩ := by
  obtain rfl := LoadOp.funct3_of_ofFunct3? h
  cases op <;> rfl

theorem store?_of_ofFunct3? {funct3 : Nat} {op : StoreOp}
    (h : StoreOp.ofFunct3? funct3 = some op) :
    Access.store? funct3 = some ⟨op.width, false⟩ := by
  obtain rfl := StoreOp.funct3_of_ofFunct3? h
  cases op <;> rfl

theorem littleEndian_lt (bytes : Array Byte) (start width : Nat) :
    littleEndian bytes start width < 256 ^ width := by
  induction width generalizing start with
  | zero => simp [littleEndian]
  | succ width ih =>
      have low := (bytes[start]?.getD 0).isLt
      have high := ih (start + 1)
      rw [littleEndian, Nat.pow_succ]
      omega

theorem sshiftRight_shiftLeft (x : Doubleword) {width : Nat} (pos : 0 < width)
    (bound : width ≤ 64) :
    (x <<< (64 - width)).sshiftRight (64 - width) = (x.setWidth width).signExtend 64 := by
  ext i lt
  rw [BitVec.getElem_sshiftRight, BitVec.getElem_signExtend]
  by_cases inside : i < width
  · have reach : 64 - width + i < 64 := by omega
    have above : ¬64 - width + i < 64 - width := by omega
    simp [inside, reach, above, BitVec.getLsbD_eq_getElem lt]
  · have beyond : ¬64 - width + i < 64 := by omega
    have above : ¬63 < 64 - width := by omega
    have top : 63 - (64 - width) = width - 1 := by omega
    have last : width - 1 < width := by omega
    rw [dif_neg inside, dif_neg beyond, BitVec.msb_eq_getLsbD_last, BitVec.msb_eq_getLsbD_last]
    simp [top, above, last, BitVec.getLsbD_eq_getElem (show width - 1 < 64 by omega)]

theorem LoadOp.extend_eq_fill (op : LoadOp) {raw : Nat} (bound : raw < 256 ^ op.width) :
    Access.extend ⟨op.width, op.isSigned⟩ (BitVec.ofNat 64 raw) = op.fill raw := by
  have pos : 0 < 8 * op.width := by cases op <;> decide
  have wide : 8 * op.width ≤ 64 := by cases op <;> decide
  have fits : raw < 2 ^ (8 * op.width) := by
    rw [Nat.pow_mul]
    exact bound
  unfold Access.extend LoadOp.fill
  simp only
  cases op.isSigned with
  | true =>
      rw [if_pos rfl, if_pos rfl, sshiftRight_shiftLeft _ pos wide, BitVec.signExtend]
      congr 2
      exact BitVec.setWidth_ofNat_of_le wide raw
  | false =>
      rw [if_neg Bool.false_ne_true, if_neg Bool.false_ne_true, BitVec.toNat_ofNat,
        Nat.mod_eq_of_lt fits]

end FiveStage
