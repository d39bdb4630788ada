import FiveStage.Datapath.Access
import FiveStage.Datapath.Alu
import FiveStage.Proofs.Isa.Fields
import FiveStage.Proofs.Isa.Holding

/-!
# Canonical words

Which words are outside the supported subset, and what becomes of the others when the instruction
that they hold is encoded again: the same word, but for shifts with bits above the amount that no
shift asks for.  Those bits are lost.
-/

namespace FiveStage

/-! ## The supported subset -/

/-- A word that holds no instruction: its opcode has no control signals, or the unit that would have
to carry it out knows no operation for its function codes. -/
def Word.Unsupported (w : Word) : Prop :=
  Control.isKnown w.opcode = false ∨
    w.opcode = Opcode.op.code ∧
      aluOp? (Control.ofCode w.opcode).aluClass w.funct3 w.funct7 = none ∨
    w.opcode = Opcode.load.code ∧ Access.load? w.funct3 = none ∨
    w.opcode = Opcode.store.code ∧ Access.store? w.funct3 = none ∨
    w.opcode = Opcode.branch.code ∧ (w.funct3 = 2 ∨ w.funct3 = 3) ∨
    w.opcode = Opcode.jalr.code ∧ w.funct3 ≠ 0

instance (w : Word) : Decidable w.Unsupported := inferInstanceAs (Decidable (_ ∨ _))

def Word.HasStrayBits (w : Word) : Prop :=
  w.opcode = Opcode.opImm.code ∧
    (w.funct3 = 1 ∧ w.extractLsb' 26 6 ≠ 0b000000#6 ∨
      w.funct3 = 5 ∧ w.extractLsb' 26 6 ≠ 0b000000#6 ∧ w.extractLsb' 26 6 ≠ 0b010000#6)

structure Word.IsCleaned (cleaned w : Word) : Prop where
  opcode_eq : cleaned.opcode = w.opcode
  rd_eq : cleaned.rd = w.rd
  rs1_eq : cleaned.rs1 = w.rs1
  funct3_eq : cleaned.funct3 = w.funct3
  amount_eq : cleaned.extractLsb' 20 6 = w.extractLsb' 20 6
  aluOp_eq : aluOp? (Control.ofCode cleaned.opcode).aluClass cleaned.funct3 cleaned.funct7 =
    aluOp? (Control.ofCode w.opcode).aluClass w.funct3 w.funct7
  clean : ¬cleaned.HasStrayBits

theorem registerAluOp?_eq_none_iff : ∀ funct3 < 8, ∀ funct7 < 128,
    (RegisterOp.ofFunct? funct3 funct7 = none ↔ registerAluOp? funct3 funct7 = none) := by
  decide +kernel

theorem load?_eq_none_iff : ∀ funct3 < 8,
    (LoadOp.ofFunct3? funct3 = none ↔ Access.load? funct3 = none) := by decide

theorem store?_eq_none_iff : ∀ funct3 < 8,
    (StoreOp.ofFunct3? funct3 = none ↔ Access.store? funct3 = none) := by decide

theorem branch_eq_none_iff : ∀ funct3 < 8,
    (BranchOp.ofFunct3? funct3 = none ↔ funct3 = 2 ∨ funct3 = 3) := by decide

theorem immediate_eq_none_iff : ∀ funct3 < 8,
    (ImmediateOp.ofFunct3? funct3 = none ↔ funct3 = 1 ∨ funct3 = 5) := by decide

theorem Instruction.ofCategory?_opImm_ne_none (w : Word) : ofCategory? w .opImm ≠ none := by
  cases named : ImmediateOp.ofFunct3? w.funct3 with
  | some op => simp [ofCategory?, named]
  | none =>
      rcases (immediate_eq_none_iff w.funct3 w.funct3_lt).1 named with code | code <;>
        simp [ofCategory?, code, ImmediateOp.ofFunct3?, ShiftOp.ofFunct?, ImmediateOp.all,
          ImmediateOp.funct3]

theorem Control.isKnown_of_ofCode?_eq_none {code : Nat} (h : Opcode.ofCode? code = none) :
    isKnown code = false := by
  rw [← Bool.not_eq_true, isKnown_iff]
  rintro ⟨o, -, rfl⟩
  rw [Opcode.ofCode?_code] at h
  cases h

theorem Control.isKnown_code (o : Opcode) : isKnown o.code = decide (o ≠ .system) := by
  cases o <;> rfl

theorem Instruction.ofWord?_eq_none_iff {w : Word} : ofWord? w = none ↔ w.Unsupported := by
  unfold Word.Unsupported
  cases category : Opcode.ofCode? w.opcode with
  | none => simp [ofWord?, category, Control.isKnown_of_ofCode?_eq_none category]
  | some o =>
      have code := Opcode.code_of_ofCode? category
      have found : ofWord? w = ofCategory? w o := by simp [ofWord?, category]
      rw [found, ← code, Control.ofCode_code, Control.isKnown_code]
      cases o with
      | op =>
          simpa [ofCategory?, Opcode.code, Opcode.control, aluOp?] using
            registerAluOp?_eq_none_iff w.funct3 w.funct3_lt w.funct7 w.funct7_lt
      | opImm => simpa [Opcode.code] using ofCategory?_opImm_ne_none w
      | load =>
          simpa [ofCategory?, Opcode.code] using load?_eq_none_iff w.funct3 w.funct3_lt
      | store =>
          simpa [ofCategory?, Opcode.code] using store?_eq_none_iff w.funct3 w.funct3_lt
      | branch =>
          simpa [ofCategory?, Opcode.code] using branch_eq_none_iff w.funct3 w.funct3_lt
      | lui | auipc | jal | jalr | system => simp [ofCategory?, Opcode.code]

/-! ## The upper bits of shifts -/

namespace Word

theorem shiftAmount_lt (w : Word) : w.shiftAmount < 64 := (w.extractLsb' 20 6).isLt

theorem immediateBits_eq (w : Word) :
    (w.extractLsb' 20 12).toNat = 64 * (w.extractLsb' 26 6).toNat + w.shiftAmount := by
  simp only [shiftAmount, BitVec.extractLsb'_toNat, Nat.shiftRight_eq_div_pow]
  omega

theorem funct7_eq (w : Word) : w.funct7 = 2 * (w.extractLsb' 26 6).toNat + w.shiftAmount / 32 := by
  simp only [funct7, shiftAmount, BitVec.extractLsb'_toNat, Nat.shiftRight_eq_div_pow]
  omega

theorem testBit_funct7 (w : Word) :
    w.funct7.testBit 5 = decide ((w.extractLsb' 26 6).toNat / 16 % 2 = 1) := by
  have := w.shiftAmount_lt
  rw [Nat.testBit_eq_decide_div_mod_eq, funct7_eq]
  congr 2
  omega

end Word

theorem ShiftOp.funct3_of_ofFunct? {funct3 funct7 : Nat} {op : ShiftOp}
    (h : ofFunct? funct3 funct7 = some op) : op.funct3 = funct3 := by
  unfold ofFunct? at h
  split at h
  · cases h
    rfl
  · cases h
    split <;> rfl
  · cases h

/-- Bit 5 of the upper function code tells the two right shifts apart, and means nothing else. -/
theorem ShiftOp.highBits_of_ofFunct? {funct3 funct7 : Nat} {op : ShiftOp}
    (h : ofFunct? funct3 funct7 = some op) :
    op.highBits = if funct3 = 5 ∧ funct7.testBit 5 = true then 1024 else 0 := by
  unfold ofFunct? at h
  split at h
  · cases h
    rfl
  · cases h
    by_cases arithmetic : funct7.testBit 5 = true <;> simp [arithmetic, highBits]
  · cases h

namespace Instruction

variable {w : Word} {i : Instruction}

theorem immediateBits_of_shift {op : ShiftOp} (named : ShiftOp.ofFunct? w.funct3 w.funct7 = some op)
    (category : Opcode.ofCode? w.opcode = some .opImm) (clean : ¬w.HasStrayBits) :
    (w.extractLsb' 20 12).toNat = op.highBits + w.shiftAmount := by
  have codes := (immediate_eq_none_iff w.funct3 w.funct3_lt).1 (ShiftOp.ofFunct3?_eq_none named)
  have clean : (w.funct3 = 1 → w.extractLsb' 26 6 = 0#6) ∧
      (w.funct3 = 5 → w.extractLsb' 26 6 ≠ 0#6 → w.extractLsb' 26 6 = 16#6) := by
    simpa [Word.HasStrayBits, (Opcode.code_of_ofCode? category).symm] using clean
  rw [ShiftOp.highBits_of_ofFunct? named, w.immediateBits_eq, w.testBit_funct7]
  rcases codes with code | code
  · simp [code, clean.1 code]
  · by_cases zero : w.extractLsb' 26 6 = 0#6
    · simp [code, zero]
    · simp [code, clean.2 code zero]

theorem encode_of_shift {op : ShiftOp} (named : ShiftOp.ofFunct? w.funct3 w.funct7 = some op)
    (category : Opcode.ofCode? w.opcode = some .opImm) (clean : ¬w.HasStrayBits) :
    (shift op w.rdRegister w.rs1Register w.shiftAmount).encode = w := by
  have bits : BitVec.ofInt 12 (op.highBits + w.shiftAmount : Nat) =
      BitVec.ofInt 12 (ImmediateFormat.i.extract w).toInt := by
    rw [← immediateBits_of_shift named category clean, BitVec.ofInt_natCast, BitVec.ofNat_toNat,
      BitVec.setWidth_eq, ImmediateFormat.extract, BitVec.toInt_signExtend_of_le (by decide),
      BitVec.ofInt_toInt]
  rw [encode, Opcode.code_of_ofCode? category, ShiftOp.funct3_of_ofFunct? named, Encoding.i, bits]
  exact Encoding.i_of_fields w

theorem shiftBits_encode (op : ShiftOp) (rd rs1 : Register) {amount : Nat} (fits : amount < 64) :
    ((shift op rd rs1 amount).encode.extractLsb' 26 6).toNat = op.highBits / 64 ∧
      (shift op rd rs1 amount).encode.shiftAmount = amount := by
  have packed : (shift op rd rs1 amount).encode.extractLsb' 20 12 =
      BitVec.ofNat 12 (op.highBits + amount) := by
    rw [← BitVec.ofInt_natCast]
    unfold encode Encoding.i
    simp (disch := decide) only [BitVec.extractLsb'_append_eq_of_le, Nat.reduceSub,
      BitVec.extractLsb'_eq_self]
  have parts := Word.immediateBits_eq (shift op rd rs1 amount).encode
  have small := Word.shiftAmount_lt (shift op rd rs1 amount).encode
  rw [packed, BitVec.toNat_ofNat] at parts
  cases op <;> (simp only [ShiftOp.highBits] at parts ⊢; omega)

theorem isCleaned_of_shift {op : ShiftOp} (named : ShiftOp.ofFunct? w.funct3 w.funct7 = some op)
    (category : Opcode.ofCode? w.opcode = some .opImm) :
    (shift op w.rdRegister w.rs1Register w.shiftAmount).encode.IsCleaned w := by
  obtain ⟨high, amount⟩ := shiftBits_encode op w.rdRegister w.rs1Register w.shiftAmount_lt
  obtain ⟨opcode, rd, funct3, rs1⟩ := Encoding.i_fields Opcode.opImm.code w.rdRegister op.funct3
    w.rs1Register (op.highBits + w.shiftAmount : Nat)
  have code := Opcode.code_of_ofCode? category
  have function := ShiftOp.funct3_of_ofFunct? named
  have kind := ShiftOp.highBits_of_ofFunct? named
  generalize made : (shift op w.rdRegister w.rs1Register w.shiftAmount).encode = cleaned at *
  rw [encode] at made
  rw [made] at opcode rd funct3 rs1
  have opcode : cleaned.opcode = w.opcode := by rw [opcode, ← code]; rfl
  have funct3 : cleaned.funct3 = w.funct3 := by
    rw [funct3, function, Nat.mod_eq_of_lt w.funct3_lt]
  have kept : w.funct3 = 5 → cleaned.funct7.testBit 5 = w.funct7.testBit 5 := by
    intro right
    rw [cleaned.testBit_funct7, high, kind]
    cases w.funct7.testBit 5 <;> simp [right]
  have codes := (immediate_eq_none_iff w.funct3 w.funct3_lt).1 (ShiftOp.ofFunct3?_eq_none named)
  refine ⟨opcode, rd.trans (Nat.mod_eq_of_lt w.rd_lt), rs1.trans (Nat.mod_eq_of_lt w.rs1_lt),
    funct3, BitVec.eq_of_toNat_eq amount, ?_, ?_⟩
  · rw [opcode, funct3, ← code, Control.ofCode_code]
    rcases codes with left | right
    · simp [Opcode.control, aluOp?, immediateAluOp, left]
    · simp [Opcode.control, aluOp?, immediateAluOp, right, kept right]
  · rintro ⟨-, ⟨left, stray⟩ | ⟨right, stray, stray'⟩⟩
    · refine stray (BitVec.eq_of_toNat_eq ?_)
      simp [high, kind, ← funct3, left]
    · by_cases arithmetic : w.funct7.testBit 5 = true
      · refine stray' (BitVec.eq_of_toNat_eq ?_)
        simp [high, kind, ← funct3, right, arithmetic]
      · refine stray (BitVec.eq_of_toNat_eq ?_)
        simp [high, kind, arithmetic]

theorem encode_of_holds (holds : w.Holds i) (clean : ¬w.HasStrayBits) : i.encode = w := by
  cases holds with
  | register category named =>
      rw [encode, Opcode.code_of_ofCode? category, (RegisterOp.funct_of_ofFunct? named).1,
        (RegisterOp.funct_of_ofFunct? named).2]
      exact Encoding.r_of_fields w
  | immediate category named =>
      rw [encode, Opcode.code_of_ofCode? category, ImmediateOp.funct3_of_ofFunct3? named]
      exact Encoding.i_of_fields w
  | shift category named => exact encode_of_shift named category clean
  | load category named =>
      rw [encode, Opcode.code_of_ofCode? category, LoadOp.funct3_of_ofFunct3? named]
      exact Encoding.i_of_fields w
  | store category named =>
      rw [encode, Opcode.code_of_ofCode? category, StoreOp.funct3_of_ofFunct3? named]
      exact Encoding.s_of_fields w
  | branch category named =>
      rw [encode, Opcode.code_of_ofCode? category, BranchOp.funct3_of_ofFunct3? named]
      exact Encoding.b_of_fields w
  | upper category =>
      rw [encode, Opcode.code_of_ofCode? category]
      exact Encoding.u_of_fields w
  | jal category =>
      rw [encode, Opcode.code_of_ofCode? category]
      exact Encoding.j_of_fields w
  | jalr category named =>
      rw [encode, Opcode.code_of_ofCode? category, ← named]
      exact Encoding.i_of_fields w

theorem isCleaned_of_holds (holds : w.Holds i) (stray : w.HasStrayBits) : i.encode.IsCleaned w := by
  cases holds with
  | shift category named => exact isCleaned_of_shift named category
  | immediate category named =>
      have codes : w.funct3 = 1 ∨ w.funct3 = 5 := stray.2.imp And.left And.left
      rw [(immediate_eq_none_iff w.funct3 w.funct3_lt).2 codes] at named
      cases named
  | @upper op category =>
      rw [stray.1] at category
      cases op <;> cases category
  | register category | load category | store category | branch category | jal category
  | jalr category =>
      rw [stray.1] at category
      cases category

end Instruction

end FiveStage
