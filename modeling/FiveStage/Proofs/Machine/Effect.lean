import FiveStage.Proofs.Isa.Holding
import FiveStage.Proofs.Machine.Units

/-!
# The sequential machine and the instruction set

Carrying out a word of the supported subset has the effect of the instruction that the word holds,
category by category.
-/

namespace FiveStage

theorem Control.ofCode_of_category {code : Nat} {o : Opcode} (h : Opcode.ofCode? code = some o) :
    ofCode code = o.control := by
  simp [ofCode, h]

theorem Word.shiftAmount_eq (w : Word) :
    (ImmediateFormat.i.extract w).toNat % 64 = w.shiftAmount := by
  have low : (ImmediateFormat.i.extract w).extractLsb' 0 6 = w.extractLsb' 20 6 := by
    ext i lt
    have inside : i < 12 := by omega
    have fits : i < 64 := by omega
    simp only [ImmediateFormat.extract, BitVec.getElem_extractLsb', Nat.zero_add,
      BitVec.getLsbD_signExtend, BitVec.getLsbD_extractLsb', inside, fits, decide_true,
      Bool.true_and, if_true]
  rw [shiftAmount, ← low, BitVec.extractLsb'_toNat]
  rfl

theorem Word.upperImmediate_upperValue (w : Word) :
    upperImmediate w.upperValue = ImmediateFormat.u.extract w := by
  have shifted : (w.extractLsb' 12 20 ++ 0#12).toNat = w.upperValue * 4096 := by
    rw [BitVec.toNat_append, ← Nat.shiftLeft_add_eq_or_of_lt (BitVec.isLt 0#12), Nat.shiftLeft_eq]
    simp only [BitVec.toNat_ofNat, Nat.zero_mod, Nat.add_zero, upperValue]
  rw [upperImmediate, ImmediateFormat.extract, BitVec.signExtend, BitVec.toInt_eq_toNat_bmod,
    shifted, Int.natCast_mul]
  simp only [Int.cast_ofNat_Int, Nat.reduceAdd, Nat.reducePow]

theorem RegisterOp.apply_shift (op : ShiftOp) (a : Doubleword) {b : Doubleword} {amount : Nat}
    (same : b.toNat % 64 = amount) :
    op.registerOp.apply a b = op.registerOp.apply a (BitVec.ofNat 64 amount) := by
  subst same
  cases op <;> simp [ShiftOp.registerOp, apply]

@[simp] theorem RegisterFile.apply_write (rf : RegisterFile) (rd : Nat) (value : Doubleword) :
    rf.apply (if rd = 0 then none else some ⟨rd, value⟩) = rf.write rd value := by
  by_cases zero : rd = 0 <;> simp [zero, apply, write]

theorem DataMemory.covers_iff {m : DataMemory} {addr : Doubleword} {width : Nat}
    (narrow : width ≤ 8) : m.Covers addr width ↔ addr.toNat + width ≤ m.size := by
  simp [Covers, maxWidth, narrow]

namespace MachineState

variable {w : Word} {o : Opcode} {op : AluOp} (s : MachineState)

def next (w : Word) : Except Fault MachineState := (s.execute w).map (·.2)

theorem next_eq (w : Word) :
    s.next w =
      match s.loaded w with
      | .error fault => .error fault
      | .ok loadData =>
          (s.stored w).map fun memory =>
            { pc := s.nextPc w, registers := s.registers.apply (s.write w loadData), memory } := by
  unfold next execute
  cases s.loaded w with
  | error fault => rfl
  | ok loadData => cases s.stored w <;> rfl

theorem calculated_of_aluOp? (category : Opcode.ofCode? w.opcode = some o)
    (unit : aluOp? o.control.aluClass w.funct3 w.funct7 = some op) :
    s.calculated w = op.eval (s.firstInput w) (s.secondInput w) := by
  simp [calculated, Control.ofCode_of_category category, unit]

theorem calculated_of_address (category : Opcode.ofCode? w.opcode = some o)
    (sums : o.control.aluClass = .address) :
    s.calculated w = s.firstInput w + s.secondInput w := by
  have unit : aluOp? o.control.aluClass w.funct3 w.funct7 = some .add := by rw [sums]; rfl
  rw [s.calculated_of_aluOp? category unit, AluOp.eval]

theorem calculated_eq_addressAt {format : ImmediateFormat}
    (category : Opcode.ofCode? w.opcode = some o) (based : o = .load ∨ o = .store ∨ o = .jalr)
    (carries : o.immediateFormat? = some format) :
    s.calculated w = s.addressAt w.rs1Register (format.extract w).toInt := by
  have sums : o.control.aluClass = .address := by
    rcases based with rfl | rfl | rfl <;> rfl
  rw [s.calculated_of_address category sums]
  simp only [firstInput, secondInput, Control.ofCode_of_category category,
    Word.immediate_of_category category carries, addressAt, BitVec.ofInt_toInt]
  rcases based with rfl | rfl | rfl <;> rfl

theorem next_of_put (category : Opcode.ofCode? w.opcode = some o)
    (puts : o = .op ∨ o = .opImm ∨ o = .lui ∨ o = .auipc) :
    s.next w = .ok (s.put w.rdRegister (s.calculated w)) := by
  have control := Control.ofCode_of_category category
  rcases puts with rfl | rfl | rfl | rfl <;>
    simp [next_eq, loaded, stored, write, nextPc, taken, control, Opcode.control, Except.map] <;>
    rfl

theorem next_of_link (category : Opcode.ofCode? w.opcode = some o)
    (links : o = .jal ∨ o = .jalr) :
    s.next w = .ok (s.link w.rdRegister (s.target w)) := by
  have control := Control.ofCode_of_category category
  rcases links with rfl | rfl <;>
    simp [next_eq, loaded, stored, write, nextPc, taken, control, Opcode.control, Except.map] <;>
    rfl

end MachineState

namespace Instruction

variable {w : Word} (s : MachineState)

theorem next_register {op : RegisterOp} (category : Opcode.ofCode? w.opcode = some .op)
    (holds : RegisterOp.ofFunct? w.funct3 w.funct7 = some op) :
    s.next w = (register op w.rdRegister w.rs1Register w.rs2Register).effect s := by
  have unit := registerAluOp?_of_ofFunct? holds
  rw [s.next_of_put category (by simp), s.calculated_of_aluOp? category unit,
    RegisterOp.eval_aluOp]
  simp only [MachineState.firstInput, MachineState.secondInput,
    Control.ofCode_of_category category]
  rfl

theorem next_immediate {op : ImmediateOp} (category : Opcode.ofCode? w.opcode = some .opImm)
    (holds : ImmediateOp.ofFunct3? w.funct3 = some op) :
    s.next w =
      (immediate op w.rdRegister w.rs1Register (ImmediateFormat.i.extract w).toInt).effect s := by
  have unit : aluOp? Opcode.opImm.control.aluClass w.funct3 w.funct7 = some op.registerOp.aluOp :=
    congrArg some (immediateAluOp_of_ofFunct3? holds)
  rw [s.next_of_put category (by simp), s.calculated_of_aluOp? category unit,
    RegisterOp.eval_aluOp]
  simp only [MachineState.firstInput, MachineState.secondInput,
    Control.ofCode_of_category category, Word.immediate_of_category category rfl, effect,
    BitVec.ofInt_toInt]
  rfl

theorem next_shift {op : ShiftOp} (category : Opcode.ofCode? w.opcode = some .opImm)
    (holds : ShiftOp.ofFunct? w.funct3 w.funct7 = some op) :
    s.next w = (shift op w.rdRegister w.rs1Register w.shiftAmount).effect s := by
  have unit : aluOp? Opcode.opImm.control.aluClass w.funct3 w.funct7 = some op.registerOp.aluOp :=
    congrArg some (immediateAluOp_of_ofFunct? holds)
  rw [s.next_of_put category (by simp), s.calculated_of_aluOp? category unit,
    RegisterOp.eval_aluOp]
  simp only [MachineState.firstInput, MachineState.secondInput,
    Control.ofCode_of_category category, Word.immediate_of_category category rfl, effect]
  rw [← RegisterOp.apply_shift op _ w.shiftAmount_eq]
  rfl

theorem next_lui (category : Opcode.ofCode? w.opcode = some .lui) :
    s.next w = (upper .lui w.rdRegister w.upperValue).effect s := by
  rw [s.next_of_put category (by simp), s.calculated_of_address category rfl]
  simp only [MachineState.firstInput, MachineState.secondInput,
    Control.ofCode_of_category category, Word.immediate_of_category category rfl, effect,
    w.upperImmediate_upperValue]
  simp [Opcode.control]

theorem next_auipc (category : Opcode.ofCode? w.opcode = some .auipc) :
    s.next w = (upper .auipc w.rdRegister w.upperValue).effect s := by
  rw [s.next_of_put category (by simp), s.calculated_of_address category rfl]
  simp only [MachineState.firstInput, MachineState.secondInput,
    Control.ofCode_of_category category, Word.immediate_of_category category rfl, effect,
    w.upperImmediate_upperValue]
  rfl

theorem next_jal (category : Opcode.ofCode? w.opcode = some .jal) :
    s.next w = (jal w.rdRegister (ImmediateFormat.j.extract w).toInt).effect s := by
  rw [s.next_of_link category (by simp)]
  simp only [MachineState.target, Control.ofCode_of_category category, Opcode.control,
    s.calculated_of_address category rfl, MachineState.firstInput, MachineState.secondInput,
    Word.immediate_of_category category rfl, effect, BitVec.ofInt_toInt]
  rfl

theorem next_jalr (category : Opcode.ofCode? w.opcode = some .jalr) :
    s.next w =
      (jalr w.rdRegister w.rs1Register (ImmediateFormat.i.extract w).toInt).effect s := by
  have addr := s.calculated_eq_addressAt category (by simp) rfl
  rw [s.next_of_link category (by simp)]
  simp only [MachineState.target, Control.ofCode_of_category category, Opcode.control, effect, addr,
    registerTarget_eq]
  rfl

theorem next_branch {op : BranchOp} (category : Opcode.ofCode? w.opcode = some .branch)
    (holds : BranchOp.ofFunct3? w.funct3 = some op) :
    s.next w =
      (branch op w.rs1Register w.rs2Register (ImmediateFormat.b.extract w).toInt).effect s := by
  have control := Control.ofCode_of_category category
  have taken : s.taken w = decide (op.Holds (s.read w.rs1Register) (s.read w.rs2Register)) := by
    simp only [MachineState.taken, control, Opcode.control, branchTaken_of_ofFunct3? holds]
    rfl
  have target : s.target w = s.pc + ImmediateFormat.b.extract w := by
    simp [MachineState.target, control, Opcode.control, relativeTarget,
      Word.immediate_of_category category rfl]
  have next : s.next w = .ok { s with pc := s.nextPc w } := by
    simp [MachineState.next_eq, MachineState.loaded, MachineState.stored, MachineState.write,
      control, Opcode.control, Except.map, RegisterFile.apply]
  rw [next, MachineState.nextPc, taken, target]
  by_cases holds : op.Holds (s.read w.rs1Register) (s.read w.rs2Register) <;>
    (simp [effect, holds, instructionSize])

theorem next_load {op : LoadOp} (category : Opcode.ofCode? w.opcode = some .load)
    (holds : LoadOp.ofFunct3? w.funct3 = some op) :
    s.next w =
      (load op w.rdRegister w.rs1Register (ImmediateFormat.i.extract w).toInt).effect s := by
  have control := Control.ofCode_of_category category
  have addr := s.calculated_eq_addressAt category (by simp) rfl
  have narrow : op.width ≤ 8 := by cases op <;> decide
  have loaded : s.loaded w =
      (s.memory.read (s.calculated w) op.width).map (Access.extend ⟨op.width, op.isSigned⟩) := by
    simp [MachineState.loaded, control, Opcode.control, load?_of_ofFunct3? holds]
  rw [s.next_eq, loaded, addr]
  simp only [effect, DataMemory.read, DataMemory.covers_iff narrow]
  by_cases inside : (s.addressAt w.rs1Register
      (ImmediateFormat.i.extract w).toInt).toNat + op.width ≤ s.memory.size
  · simp [inside, Except.map, MachineState.stored, MachineState.write, MachineState.nextPc,
      MachineState.taken, control, Opcode.control, op.extend_eq_fill (littleEndian_lt ..)]
    rfl
  · simp [inside, Except.map]

theorem next_store {op : StoreOp} (category : Opcode.ofCode? w.opcode = some .store)
    (holds : StoreOp.ofFunct3? w.funct3 = some op) :
    s.next w =
      (store op w.rs2Register w.rs1Register (ImmediateFormat.s.extract w).toInt).effect s := by
  have control := Control.ofCode_of_category category
  have addr := s.calculated_eq_addressAt category (by simp) rfl
  have narrow : op.width ≤ 8 := by cases op <;> decide
  have stored : s.stored w =
      s.memory.write (s.calculated w) op.width (s.read w.rs2Register) := by
    simp [MachineState.stored, control, Opcode.control, store?_of_ofFunct3? holds]
    rfl
  have loaded : s.loaded w = .ok 0 := by
    simp [MachineState.loaded, control, Opcode.control]
  rw [s.next_eq, loaded, stored, addr]
  simp only [effect, DataMemory.write, DataMemory.covers_iff narrow]
  split
  next inside =>
    simp [Except.map, MachineState.write, MachineState.nextPc, MachineState.taken, control,
      Opcode.control, RegisterFile.apply]
    rfl
  next outside => rfl

theorem next_eq_effect {i : Instruction} (holds : w.Holds i) : s.next w = i.effect s := by
  cases holds with
  | register category named => exact next_register s category named
  | immediate category named => exact next_immediate s category named
  | shift category named => exact next_shift s category named
  | load category named => exact next_load s category named
  | store category named => exact next_store s category named
  | branch category named => exact next_branch s category named
  | @upper op category =>
      cases op with
      | lui => exact next_lui s category
      | auipc => exact next_auipc s category
  | jal category => exact next_jal s category
  | jalr category named => exact next_jalr s category

end Instruction

end FiveStage
