import FiveStage.Proofs.Isa.Canonical
import FiveStage.Proofs.Isa.Encoded

/-!
# Decoding what was encoded

A word that is encoded by an instruction holds that instruction, with an upper immediate in its form
without a sign.  Decoding finds this instruction in the word, and encoding what is found gives the
word again.
-/

namespace FiveStage

namespace Word

variable {w : Word} {value : Int}

theorem immediateBits_of_toInt (small : 0 ≤ value ∧ value < 2048)
    (h : (ImmediateFormat.i.extract w).toInt = value) :
    ((w.extractLsb' 20 12).toNat : Int) = value := by
  rw [ImmediateFormat.extract, BitVec.toInt_signExtend_of_le (by decide),
    BitVec.toInt_eq_toNat_cond] at h
  split at h <;> omega

theorem upperValue_of_toInt
    (h : (ImmediateFormat.u.extract w).toInt = (value % 2 ^ 20 * 2 ^ 12).bmod (2 ^ 32)) :
    (w.upperValue : Int) = value % 2 ^ 20 := by
  have bound := (w.extractLsb' 12 20).isLt
  rw [ImmediateFormat.extract, BitVec.toInt_signExtend_of_le (by decide),
    BitVec.toInt_append_zero, BitVec.toInt_eq_toNat_cond, Int.bmod_def] at h
  rw [upperValue]
  split at h <;> split at h <;> omega

end Word

namespace Instruction

variable {w : Word} {i : Instruction}

/-- An upper immediate in the form without a sign, which is the one that words hold. -/
def unsigned : Instruction → Instruction
  | upper op rd value => upper op rd (value % 2 ^ 20)
  | i => i

theorem encode_unsigned (i : Instruction) : i.unsigned.encode = i.encode := by
  cases i with
  | upper op rd value =>
      have bits : BitVec.ofInt 20 (value % 2 ^ 20) = BitVec.ofInt 20 value := by
        apply BitVec.eq_of_toInt_eq
        rw [BitVec.toInt_ofInt, BitVec.toInt_ofInt]
        exact Int.emod_bmod ..
      simp only [unsigned, encode, Encoding.u, bits]
  | _ => rfl

theorem holds_of_encodedBy_shift {op : ShiftOp} {rd rs1 : Register} {amount : Nat}
    (fits : amount < 64) (h : (shift op rd rs1 amount).EncodedBy w) :
    w.Holds (shift op rd rs1 amount) := by
  obtain ⟨opcode, function, rfl, rfl, packed⟩ := h
  have category := Opcode.ofCode?_eq_some_iff.2 opcode.symm
  rw [immediate_of_code opcode rfl] at packed
  have bits := Word.immediateBits_of_toInt (by split <;> omega) packed
  have small := w.shiftAmount_lt
  rw [w.immediateBits_eq] at bits
  have kind : (w.extractLsb' 26 6).toNat = if op = .srai then 16 else 0 := by
    split at bits <;> simp only [*, if_true, if_false] <;> omega
  have same : amount = w.shiftAmount := by
    split at bits <;> omega
  have named : ShiftOp.ofFunct? w.funct3 w.funct7 = some op := by
    rw [function]
    cases op <;> simp [ShiftOp.ofFunct?, ShiftOp.funct3, w.testBit_funct7, kind]
  subst same
  exact .shift category named

theorem holds_of_encodedBy (fits : i.Fits) (h : i.EncodedBy w) : w.Holds i.unsigned := by
  cases i with
  | register op rd rs1 rs2 =>
      obtain ⟨opcode, function3, function7, rfl, rfl, rfl⟩ := h
      refine .register (Opcode.ofCode?_eq_some_iff.2 opcode.symm) ?_
      rw [function3, function7]
      exact RegisterOp.ofFunct?_funct op
  | immediate op rd rs1 value =>
      obtain ⟨opcode, function, rfl, rfl, rfl⟩ := h
      rw [immediate_of_code opcode rfl]
      exact .immediate (Opcode.ofCode?_eq_some_iff.2 opcode.symm)
        (function ▸ ImmediateOp.ofFunct3?_funct3 op)
  | shift op rd rs1 amount => exact holds_of_encodedBy_shift fits h
  | load op rd base offset =>
      obtain ⟨opcode, function, rfl, rfl, rfl⟩ := h
      rw [immediate_of_code opcode rfl]
      exact .load (Opcode.ofCode?_eq_some_iff.2 opcode.symm)
        (function ▸ LoadOp.ofFunct3?_funct3 op)
  | store op source base offset =>
      obtain ⟨opcode, function, rfl, rfl, rfl⟩ := h
      rw [immediate_of_code opcode rfl]
      exact .store (Opcode.ofCode?_eq_some_iff.2 opcode.symm)
        (function ▸ StoreOp.ofFunct3?_funct3 op)
  | branch op rs1 rs2 offset =>
      obtain ⟨opcode, function, rfl, rfl, rfl⟩ := h
      rw [immediate_of_code opcode rfl]
      exact .branch (Opcode.ofCode?_eq_some_iff.2 opcode.symm)
        (function ▸ BranchOp.ofFunct3?_funct3 op)
  | upper op rd value =>
      obtain ⟨opcode, rfl, packed⟩ := h
      rw [immediate_of_code opcode (by cases op <;> rfl)] at packed
      rw [unsigned, ← Word.upperValue_of_toInt packed]
      exact .upper (Opcode.ofCode?_eq_some_iff.2 opcode.symm)
  | jal rd offset =>
      obtain ⟨opcode, rfl, rfl⟩ := h
      rw [immediate_of_code opcode rfl]
      exact .jal (Opcode.ofCode?_eq_some_iff.2 opcode.symm)
  | jalr rd base offset =>
      obtain ⟨opcode, function, rfl, rfl, rfl⟩ := h
      rw [immediate_of_code opcode rfl]
      exact .jalr (Opcode.ofCode?_eq_some_iff.2 opcode.symm) function

theorem holds_encode (fits : i.Fits) : i.encode.Holds i.unsigned :=
  holds_of_encodedBy fits (encodedBy_encode fits)

end Instruction

end FiveStage
