import FiveStage.Isa.Instruction
import Mathlib.Tactic.Common

/-!
# What a word holds

`Word.Holds` says in one rule for each category which instruction a word holds.  Decoding finds just
that instruction, so a proof about decoded words is a case analysis of these rules.
-/

namespace FiveStage

inductive Word.Holds (w : Word) : Instruction → Prop where
  | register {op : RegisterOp} (category : Opcode.ofCode? w.opcode = some .op)
      (named : RegisterOp.ofFunct? w.funct3 w.funct7 = some op) :
      w.Holds (.register op w.rdRegister w.rs1Register w.rs2Register)
  | immediate {op : ImmediateOp} (category : Opcode.ofCode? w.opcode = some .opImm)
      (named : ImmediateOp.ofFunct3? w.funct3 = some op) :
      w.Holds (.immediate op w.rdRegister w.rs1Register (ImmediateFormat.i.extract w).toInt)
  | shift {op : ShiftOp} (category : Opcode.ofCode? w.opcode = some .opImm)
      (named : ShiftOp.ofFunct? w.funct3 w.funct7 = some op) :
      w.Holds (.shift op w.rdRegister w.rs1Register w.shiftAmount)
  | load {op : LoadOp} (category : Opcode.ofCode? w.opcode = some .load)
      (named : LoadOp.ofFunct3? w.funct3 = some op) :
      w.Holds (.load op w.rdRegister w.rs1Register (ImmediateFormat.i.extract w).toInt)
  | store {op : StoreOp} (category : Opcode.ofCode? w.opcode = some .store)
      (named : StoreOp.ofFunct3? w.funct3 = some op) :
      w.Holds (.store op w.rs2Register w.rs1Register (ImmediateFormat.s.extract w).toInt)
  | branch {op : BranchOp} (category : Opcode.ofCode? w.opcode = some .branch)
      (named : BranchOp.ofFunct3? w.funct3 = some op) :
      w.Holds (.branch op w.rs1Register w.rs2Register (ImmediateFormat.b.extract w).toInt)
  | upper {op : UpperOp} (category : Opcode.ofCode? w.opcode = some op.opcode) :
      w.Holds (.upper op w.rdRegister w.upperValue)
  | jal (category : Opcode.ofCode? w.opcode = some .jal) :
      w.Holds (.jal w.rdRegister (ImmediateFormat.j.extract w).toInt)
  | jalr (category : Opcode.ofCode? w.opcode = some .jalr) (named : w.funct3 = 0) :
      w.Holds (.jalr w.rdRegister w.rs1Register (ImmediateFormat.i.extract w).toInt)

theorem ShiftOp.ofFunct3?_eq_none {funct3 funct7 : Nat} {op : ShiftOp}
    (h : ofFunct? funct3 funct7 = some op) : ImmediateOp.ofFunct3? funct3 = none := by
  unfold ofFunct? at h
  split at h
  · rfl
  · rfl
  · cases h

theorem Word.holds_of_ofCategory? {w : Word} {o : Opcode} {i : Instruction}
    (category : Opcode.ofCode? w.opcode = some o) (found : Instruction.ofCategory? w o = some i) :
    w.Holds i := by
  cases o with
  | op =>
      obtain ⟨op, named, rfl⟩ := Option.map_eq_some_iff.1 (show Option.map _ _ = _ from found)
      exact .register category named
  | opImm =>
      cases named : ImmediateOp.ofFunct3? w.funct3 with
      | some op =>
          simp only [Instruction.ofCategory?, named] at found
          cases found
          exact .immediate category named
      | none =>
          simp only [Instruction.ofCategory?, named] at found
          obtain ⟨op, named, rfl⟩ := Option.map_eq_some_iff.1 found
          exact .shift category named
  | load =>
      obtain ⟨op, named, rfl⟩ := Option.map_eq_some_iff.1 (show Option.map _ _ = _ from found)
      exact .load category named
  | store =>
      obtain ⟨op, named, rfl⟩ := Option.map_eq_some_iff.1 (show Option.map _ _ = _ from found)
      exact .store category named
  | branch =>
      obtain ⟨op, named, rfl⟩ := Option.map_eq_some_iff.1 (show Option.map _ _ = _ from found)
      exact .branch category named
  | lui =>
      obtain rfl : Instruction.upper .lui w.rdRegister w.upperValue = i := Option.some.inj found
      exact .upper category
  | auipc =>
      obtain rfl : Instruction.upper .auipc w.rdRegister w.upperValue = i := Option.some.inj found
      exact .upper category
  | jal =>
      obtain rfl : Instruction.jal w.rdRegister (ImmediateFormat.j.extract w).toInt = i :=
        Option.some.inj found
      exact .jal category
  | jalr =>
      by_cases named : w.funct3 = 0
      · simp only [Instruction.ofCategory?, named, if_true, Option.some.injEq] at found
        subst found
        exact .jalr category named
      · simp [Instruction.ofCategory?, named] at found
  | system => simp [Instruction.ofCategory?] at found

theorem Instruction.ofWord?_eq_some_iff {w : Word} {i : Instruction} :
    ofWord? w = some i ↔ w.Holds i := by
  constructor
  · intro h
    obtain ⟨o, category, found⟩ := Option.bind_eq_some_iff.1 h
    exact Word.holds_of_ofCategory? category found
  · intro h
    cases h with
    | register category named | load category named | store category named
    | branch category named | immediate category named =>
        simp [ofWord?, category, ofCategory?, named]
    | shift category named =>
        simp [ofWord?, category, ofCategory?, named, ShiftOp.ofFunct3?_eq_none named]
    | @upper op category => cases op <;> simp [ofWord?, category, UpperOp.opcode, ofCategory?]
    | jal category => simp [ofWord?, category, ofCategory?]
    | jalr category named => simp [ofWord?, category, ofCategory?, named]

end FiveStage
