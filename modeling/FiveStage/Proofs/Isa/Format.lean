import FiveStage.Proofs.Isa.Fields

/-!
# The base formats

The six packers as one family, with the fields that each format has.  `pack_inverse` says that
packing and taking apart are inverse to each other: a field or an immediate comes back with the
bits that it has room for, whatever else was packed, and every word is what its fields pack to.
-/

namespace FiveStage

inductive Field where
  | opcode
  | rd
  | funct3
  | rs1
  | rs2
  | funct7
  deriving DecidableEq, Repr

def Field.width : Field → Nat
  | opcode => 7
  | rd => 5
  | funct3 => 3
  | rs1 => 5
  | rs2 => 5
  | funct7 => 7

def Word.field (w : Word) : Field → Nat
  | .opcode => w.opcode
  | .rd => w.rd
  | .funct3 => w.funct3
  | .rs1 => w.rs1
  | .rs2 => w.rs2
  | .funct7 => w.funct7

/-- What is left of an immediate of any size: its low bits, with the sign of the highest of them.
The two formats of offsets drop bit 0, and upper immediates go above twelve zeros. -/
def ImmediateFormat.kept (format : ImmediateFormat) (imm : Int) : Int :=
  match format with
  | i | s => (imm % 2 ^ 12).bmod (2 ^ 12)
  | b => (imm % 2 ^ 13 - imm % 2).bmod (2 ^ 13)
  | u => (imm % 2 ^ 20 * 2 ^ 12).bmod (2 ^ 32)
  | j => (imm % 2 ^ 21 - imm % 2).bmod (2 ^ 21)

inductive Format where
  | r
  | carrying (format : ImmediateFormat)
  deriving DecidableEq, Repr

namespace Format

def fields : Format → List Field
  | r => [.opcode, .rd, .funct3, .rs1, .rs2, .funct7]
  | carrying .i => [.opcode, .rd, .funct3, .rs1]
  | carrying .s | carrying .b => [.opcode, .funct3, .rs1, .rs2]
  | carrying .u | carrying .j => [.opcode, .rd]

def pack (format : Format) (content : Field → Nat) (imm : Int) : Word :=
  match format with
  | r =>
      Encoding.r (content .opcode) (content .rd) (content .funct3) (content .rs1) (content .rs2)
        (content .funct7)
  | carrying .i =>
      Encoding.i (content .opcode) (content .rd) (content .funct3) (content .rs1) imm
  | carrying .s =>
      Encoding.s (content .opcode) (content .funct3) (content .rs1) (content .rs2) imm
  | carrying .b =>
      Encoding.b (content .opcode) (content .funct3) (content .rs1) (content .rs2) imm
  | carrying .u => Encoding.u (content .opcode) (content .rd) imm
  | carrying .j => Encoding.j (content .opcode) (content .rd) imm

/-- What a format has to be given as immediate to make a word again.  Upper immediates are given
without the zeros below them. -/
def immediate (format : Format) (w : Word) : Int :=
  match format with
  | r => 0
  | carrying .u => ((ImmediateFormat.u.extract w).sshiftRight 12).toInt
  | carrying format => (format.extract w).toInt

theorem field_pack (format : Format) (content : Field → Nat) (imm : Int) {x : Field}
    (has : x ∈ format.fields) :
    (format.pack content imm).field x = content x % 2 ^ x.width := by
  match format with
  | r =>
      obtain ⟨opcode, rd, funct3, rs1, rs2, funct7⟩ := Encoding.r_fields (content .opcode)
        (content .rd) (content .funct3) (content .rs1) (content .rs2) (content .funct7)
      cases x <;> assumption
  | carrying .i =>
      obtain ⟨opcode, rd, funct3, rs1⟩ := Encoding.i_fields (content .opcode) (content .rd)
        (content .funct3) (content .rs1) imm
      cases x <;> first | assumption | simp [fields] at has
  | carrying .s =>
      obtain ⟨opcode, funct3, rs1, rs2⟩ := Encoding.s_fields (content .opcode) (content .funct3)
        (content .rs1) (content .rs2) imm
      cases x <;> first | assumption | simp [fields] at has
  | carrying .b =>
      obtain ⟨opcode, funct3, rs1, rs2⟩ := Encoding.b_fields (content .opcode) (content .funct3)
        (content .rs1) (content .rs2) imm
      cases x <;> first | assumption | simp [fields] at has
  | carrying .u =>
      obtain ⟨opcode, rd⟩ := Encoding.u_fields (content .opcode) (content .rd) imm
      cases x <;> first | assumption | simp [fields] at has
  | carrying .j =>
      obtain ⟨opcode, rd⟩ := Encoding.j_fields (content .opcode) (content .rd) imm
      cases x <;> first | assumption | simp [fields] at has

theorem bmod_even (imm : Int) (bits : Nat) :
    (2 * (imm / 2)).bmod (2 ^ bits) = (imm % 2 ^ bits - imm % 2).bmod (2 ^ bits) := by
  -- Bit 0 is the remainder by two, so dropping it is rounding down.
  have halves : 2 * (imm / 2) = imm - imm % 2 := by omega
  have cast : ((2 ^ bits : Nat) : Int) = 2 ^ bits := by simp
  rw [halves, ← Int.emod_sub_bmod, cast]

theorem extract_pack (format : ImmediateFormat) (content : Field → Nat) (imm : Int) :
    (format.extract ((carrying format).pack content imm)).toInt = format.kept imm := by
  cases format with
  | i => exact (Encoding.toInt_extract_i ..).trans (Int.emod_bmod imm 4096).symm
  | s => exact (Encoding.toInt_extract_s ..).trans (Int.emod_bmod imm 4096).symm
  | b => exact (Encoding.toInt_extract_b ..).trans (bmod_even imm 13)
  | u =>
      have low : imm % 2 ^ 20 * 2 ^ 12 = 4096 * imm % (4294967296 : Nat) := by omega
      rw [ImmediateFormat.kept, low]
      exact (Encoding.toInt_extract_u ..).trans (Int.emod_bmod ..).symm
  | j => exact (Encoding.toInt_extract_j ..).trans (bmod_even imm 21)

theorem immediate_upper (w : Word) :
    (carrying .u).immediate w = (w.extractLsb' 12 20).toInt := by
  rw [immediate, BitVec.toInt_sshiftRight, ImmediateFormat.extract,
    BitVec.toInt_signExtend_of_le (by decide), BitVec.toInt_append_zero, Int.shiftRight_eq_div_pow]
  omega

theorem pack_field (format : Format) (w : Word) :
    format.pack w.field (format.immediate w) = w := by
  match format with
  | r => exact Encoding.r_of_fields w
  | carrying .i => exact Encoding.i_of_fields w
  | carrying .s => exact Encoding.s_of_fields w
  | carrying .b => exact Encoding.b_of_fields w
  | carrying .u =>
      have upper : BitVec.ofInt 20 ((carrying .u).immediate w) = BitVec.ofInt 20 w.upperValue := by
        rw [immediate_upper, BitVec.ofInt_toInt, Word.upperValue, BitVec.ofInt_natCast,
          BitVec.ofNat_toNat, BitVec.setWidth_eq]
      have packed := Encoding.u_of_fields w
      rw [Encoding.u, ← upper] at packed
      exact packed
  | carrying .j => exact Encoding.j_of_fields w

/-- Packing truncates each argument to the bits that the format has for it and loses or mixes up
nothing else, and the fields and the immediate of any word pack to that word. -/
theorem pack_inverse :
    (∀ (format : Format) (content : Field → Nat) (imm : Int), ∀ x ∈ format.fields,
      (format.pack content imm).field x = content x % 2 ^ x.width) ∧
    (∀ (format : ImmediateFormat) (content : Field → Nat) (imm : Int),
      (format.extract ((carrying format).pack content imm)).toInt = format.kept imm) ∧
    ∀ (format : Format) (w : Word), format.pack w.field (format.immediate w) = w :=
  ⟨fun format content imm _ has => field_pack format content imm has, extract_pack, pack_field⟩

def oversized : Field → Nat
  | .rs1 => 37
  | _ => 0x1E3

theorem oversized_branch_packed :
    Field.rs1 ∈ (carrying .b).fields ∧ ((carrying .b).pack oversized (-4099)).field .rs1 = 5 ∧
      (ImmediateFormat.b.extract ((carrying .b).pack oversized (-4099))).toInt = 4092 := by
  have has : Field.rs1 ∈ (carrying .b).fields := by decide
  exact ⟨has, pack_inverse.1 (carrying .b) oversized (-4099) .rs1 has,
    (pack_inverse.2.1 .b oversized (-4099)).trans (by decide)⟩

end Format

end FiveStage
