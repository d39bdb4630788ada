import FiveStage.Proofs.Assembly.Listing
import FiveStage.Proofs.Machine.Effect
import FiveStage.Proofs.Pipeline.Alone

/-!
# The datapath

A word that goes through the stages by itself has the effect of the instruction that it is printed
as.  The printed text leaves no doubt about this: all instructions with the same text have the same
effect.
-/

namespace FiveStage

/-! ## Through the stages -/

namespace MachineState

/-- Passes a word through decode, execute, memory access and write-back while every other latch is
empty, and makes its store, its register write and its transfer of control. -/
def passThrough (s : MachineState) (w : Word) : Except Fault MachineState :=
  let decoded := IfId.decode { pc := s.pc, word := w, valid := true } s.registers none
  let executed := decoded.execute {} {} {}
  match executed.access s.memory with
  | .error fault => .error fault
  | .ok result =>
      (s.memory.apply result.store).map fun memory =>
        { pc := result.redirect.getD (s.pc + BitVec.ofNat 64 instructionSize)
          registers := s.registers.apply (result.latch.retire?.bind (·.write))
          memory }

theorem passThrough_eq_next (s : MachineState) (w : Word) : s.passThrough w = s.next w := by
  have unfolded : s.passThrough w =
      match s.access w with
      | .error fault => .error fault
      | .ok result =>
          (s.memory.apply result.store).map fun memory =>
            { pc := result.redirect.getD (s.pc + BitVec.ofNat 64 instructionSize)
              registers := s.registers.apply (result.latch.retire?.bind (·.write))
              memory } := rfl
  rw [unfolded, next]
  cases done : s.execute w with
  | error fault =>
      rw [access_of_fault done]
      rfl
  | ok pair =>
      obtain ⟨execution, after⟩ := pair
      obtain ⟨result, accessed, stored, redirect, retire⟩ := access_of_execute done
      obtain ⟨-, -, taken, registers, pc⟩ := execution_of_execute done
      have write := write?_of_execute done retire
      have target : result.redirect.getD (s.pc + BitVec.ofNat 64 instructionSize) = after.pc := by
        rw [redirect, taken, pc, nextPc]
        cases s.taken w <;> rfl
      simp only [accessed, stored, target, MemWb.retire?_bind_write, write, ← registers]
      rfl

end MachineState

/-! ## What the text says -/

namespace Assembly

open Text

theorem name_inj {r r' : Register} : r.name.toList = r'.name.toList ↔ r = r' := by
  refine ⟨fun h => ?_, fun h => h ▸ rfl⟩
  have read := parse?_name r
  rw [h, parse?_name] at read
  exact (Option.some.inj read).symm

theorem toString_int_inj {a b : Int} : (toString a).toList = (toString b).toList ↔ a = b := by
  rw [String.toList_inj, Int.toString_eq_repr, Int.toString_eq_repr, Int.repr_inj]

theorem toString_nat_inj {a b : Nat} : (toString a).toList = (toString b).toList ↔ a = b := by
  rw [String.toList_inj, Nat.toString_eq_repr, Nat.toString_eq_repr, Nat.repr_inj]

theorem hex_inj {a b : Nat} : (hex a).toList = (hex b).toList ↔ a = b := by
  refine ⟨fun h => ?_, fun h => h ▸ rfl⟩
  rw [toList_hex, toList_hex, List.cons.injEq, List.cons.injEq] at h
  have read := Text.natural?_toDigits 16 (by decide) (by decide) a
  rw [h.2.2, Text.natural?_toDigits 16 (by decide) (by decide)] at read
  exact (Option.some.inj read).symm

theorem addressText_inj {offset offset' : Int} {base base' : Register} :
    addressText offset base = addressText offset' base' ↔ offset = offset' ∧ base = base' := by
  refine ⟨fun h => ?_, fun h => h.1 ▸ h.2 ▸ rfl⟩
  have front (offset : Int) (base : Register) :
      (addressText offset base).takeWhile (fun c => !isParenthesis c) = (toString offset).toList :=
    takeWhile_append_of_stop
      (fun c mem => by simp [isParenthesis_of_mem_toString mem]) (by simp [isParenthesis])
  have offsets := toString_int_inj.1 ((front offset base).symm.trans (h ▸ front offset' base'))
  subst offsets
  rw [addressText, addressText, List.append_cancel_left_eq, List.cons.injEq,
    List.append_cancel_right_eq] at h
  exact ⟨rfl, name_inj.1 h.2⟩

end Assembly

open Assembly Text

theorem upperImmediate_congr {a b : Int} (h : BitVec.ofInt 20 a = BitVec.ofInt 20 b) :
    upperImmediate a = upperImmediate b := by
  have low : a % 1048576 = b % 1048576 := by
    have low := congrArg BitVec.toNat h
    simp only [BitVec.toNat_ofInt] at low
    omega
  have same : a * 4096 % (4294967296 : Nat) = b * 4096 % (4294967296 : Nat) := by omega
  rw [upperImmediate, upperImmediate, ← Int.emod_bmod, same, Int.emod_bmod]

theorem Instruction.effect_of_statement_eq {i i' : Instruction} (h : i.statement = i'.statement) :
    i.effect = i'.effect := by
  have same : i.mnemonic = i'.mnemonic := by
    have spelling : i.mnemonic.spelling = i'.mnemonic.spelling := by
      rw [i.spelling_mnemonic, i'.spelling_mnemonic, h]
    have read := i.mnemonic.ofString?_spelling
    rw [spelling, Mnemonic.ofString?_spelling] at read
    exact (Option.some.inj read).symm
  cases i <;> cases i' <;> cases same <;>
    simp only [statement, Statement.mk.injEq, List.cons.injEq, true_and, and_true, name_inj,
      toString_int_inj, toString_nat_inj, hex_inj, BitVec.toNat_inj, addressText_inj] at h
  case upper.upper.refl op rd value rd' value' =>
    obtain ⟨rfl, same⟩ := h
    funext s
    cases op <;> simp only [effect, upperImmediate_congr same]
  case jal.jal.refl =>
    obtain ⟨rfl, rfl⟩ := h
    rfl
  all_goals
    obtain ⟨rfl, rfl, rfl⟩ := h
    rfl

theorem Instruction.statement_of_render_eq {i i' : Instruction} (h : i.render = i'.render) :
    i.statement = i'.statement := by
  have read := parse?_eq_some_iff.2 (spelled_print i.isPlain_statement)
  rw [← i.toList_render, h, i'.toList_render,
    parse?_eq_some_iff.2 (spelled_print i'.isPlain_statement)] at read
  exact (Option.some.inj read).symm

namespace MachineState

/-- The stages do with a word just what the instruction set says of its printed text. -/
theorem passThrough_eq_effect {w : Word} (known : ¬IsUnknown w.disassemble) :
    (∃ i : Instruction, w.disassemble = i.render) ∧
      ∀ i : Instruction, w.disassemble = i.render →
        ∀ s : MachineState, s.passThrough w = i.effect s := by
  rw [isUnknown_disassemble_iff, ← Instruction.ofWord?_eq_none_iff] at known
  obtain ⟨held, found⟩ := Option.ne_none_iff_exists'.1 known
  have printed : w.disassemble = held.render := by rw [Word.disassemble, found]
  refine ⟨⟨held, printed⟩, fun i text s => ?_⟩
  have same : held.effect = i.effect := Instruction.effect_of_statement_eq
    (Instruction.statement_of_render_eq (printed.symm.trans text))
  rw [s.passThrough_eq_next, Instruction.next_eq_effect s (Instruction.ofWord?_eq_some_iff.1 found),
    same]

theorem linkedJump_passes :
    Word.disassemble 0xFFF282E7 = "jalr t0, -1(t0)" ∧
      passThrough ⟨16, RegisterFile.empty.write 5 102, DataMemory.zeroed 8⟩ 0xFFF282E7 =
        .ok ⟨100, RegisterFile.empty.write 5 20, DataMemory.zeroed 8⟩ := by
  have text : Word.disassemble 0xFFF282E7 = (Instruction.jalr 5 5 (-1)).render := by
    decide +kernel
  have known : ¬IsUnknown (Word.disassemble 0xFFF282E7) := by
    rw [isUnknown_disassemble_iff]
    decide +kernel
  refine ⟨by decide +kernel, ?_⟩
  rw [(passThrough_eq_effect known).2 _ text]
  rfl

end MachineState

end FiveStage
