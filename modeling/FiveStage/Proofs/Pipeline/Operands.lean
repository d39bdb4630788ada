import FiveStage.Proofs.Pipeline.Cycle

/-!
# Forwarded operands

Forwarding makes up for the register writes that are still in the pipeline.  The value that it
chooses is the one in the register file after those writes, first the older and then the younger;
reading in decode sees through the write of the same cycle in the same way.
-/

namespace FiveStage

theorem Control.regWrite_of_isBubble {control : Control} (h : control.isBubble = true) :
    control.regWrite = false := by
  simp [isBubble] at h
  exact h.1.1.1.1

namespace RegisterFile

variable {rf : RegisterFile} {write : Option RegisterWrite}

theorem read_apply (bound : ∀ w, write = some w → w.rd < registerCount) (index : Nat) :
    (rf.apply write).read index = rf.readThrough write index := by
  cases write with
  | none => rfl
  | some w =>
      have bound := bound w rfl
      simp only [apply, readThrough]
      by_cases here : w.rd = index
      · subst here
        by_cases zero : w.rd = 0
        · simp [zero]
        · simp [read_write_self zero bound, zero]
      · simp [read_write_of_ne here, here]

theorem readThrough_none (rf : RegisterFile) (index : Nat) :
    rf.readThrough none index = rf.read index := rfl

end RegisterFile

def MemWb.write? (latch : MemWb) : Option RegisterWrite :=
  if latch.control.regWrite ∧ latch.rd ≠ 0 then some ⟨latch.rd, latch.result⟩ else none

/-- The register write that is on its way behind execute, as far as it is known there. -/
def ExMem.write? (latch : ExMem) : Option RegisterWrite :=
  if latch.control.regWrite ∧ latch.rd ≠ 0 then some ⟨latch.rd, latch.alu⟩ else none

theorem MemWb.retire?_bind_write (latch : MemWb) :
    latch.retire?.bind (·.write) = latch.write? := by
  unfold retire? write?
  cases empty : latch.isEmpty with
  | true => simp [Control.regWrite_of_isBubble empty]
  | false => rfl

theorem Core.retiring_eq (c : Core) : c.retiring = c.memWb.write? := c.memWb.retire?_bind_write

theorem RegisterFile.read_apply_ite {rf : RegisterFile} {enabled : Bool} {rd index : Nat}
    {value : Doubleword} (bound : rd < registerCount) :
    (rf.apply (if enabled ∧ rd ≠ 0 then some ⟨rd, value⟩ else none)).read index =
      if index ≠ 0 ∧ enabled ∧ rd = index then value else rf.read index := by
  by_cases writes : enabled ∧ rd ≠ 0
  · rw [if_pos writes, read_apply (by rintro w ⟨⟩; exact bound)]
    simp [readThrough, writes.1]
  · rw [if_neg writes]
    have none : ¬(index ≠ 0 ∧ enabled ∧ rd = index) := by
      rintro ⟨pos, on, rfl⟩
      exact writes ⟨on, pos⟩
    rw [if_neg none]
    rfl

/-- The forwarded value of a register is its value once the writes in flight are made. -/
theorem ForwardSource.value_select {rf : RegisterFile} {exMem : ExMem} {memWb : MemWb}
    (younger : exMem.rd < registerCount) (older : memWb.rd < registerCount) (index : Nat) :
    (select index exMem memWb).value (rf.read index) exMem memWb =
      ((rf.apply memWb.write?).apply exMem.write?).read index := by
  rw [ExMem.write?, RegisterFile.read_apply_ite younger, MemWb.write?,
    RegisterFile.read_apply_ite older]
  unfold select
  by_cases zero : index = 0
  · simp [zero, value]
  · by_cases first : exMem.control.regWrite = true ∧ exMem.rd = index
    · simp [zero, first, value]
    · by_cases second : memWb.control.regWrite = true ∧ memWb.rd = index
      · simp [zero, first, second, value]
      · simp [zero, first, second, value]

theorem IfId.decode_eq {latch : IfId} {rf : RegisterFile} {write : Option RegisterWrite}
    (bound : ∀ w, write = some w → w.rd < registerCount) :
    latch.decode rf write = latch.decode (rf.apply write) none := by
  simp only [decode, RegisterFile.readThrough_none, RegisterFile.read_apply bound]

def ExMem.FeedsNoUse (exMem : ExMem) (idEx : IdEx) : Prop :=
  exMem.control.memRead = true → exMem.rd ≠ 0 → exMem.rd ≠ idEx.rs1 ∧ exMem.rd ≠ idEx.rs2

end FiveStage
