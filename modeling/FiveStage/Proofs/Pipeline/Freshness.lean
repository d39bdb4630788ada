import FiveStage.Proofs.Pipeline.Retirement

/-!
# Operands in execute

The values in the latch before execute are those of the register file, cycle after cycle: decode
sees through the write of its own cycle, and the front waits behind a load whose result it needs.
So forwarding always makes the operands those of the register file after the writes still in the
pipeline.  This needs nothing of the program, and holds on the wrong path too.
-/

namespace FiveStage

/-! ## Destinations are registers -/

theorem IdEx.rd_execute (latch : IdEx) (fwd : Forwarding) (exMem : ExMem) (memWb : MemWb) :
    (latch.execute fwd exMem memWb).rd = if latch.isEmpty then 0 else latch.rd := by
  unfold execute
  split <;> rfl

theorem IfId.rd_decode_lt (latch : IfId) (rf : RegisterFile) (write : Option RegisterWrite) :
    (latch.decode rf write).rd < registerCount := by
  unfold decode
  split
  · exact latch.word.rd_lt
  · decide

theorem ExMem.rd_of_access {latch : ExMem} {memory : DataMemory} {access : AccessResult}
    (accessed : latch.access memory = .ok access) :
    access.latch.rd = if latch.isEmpty then 0 else latch.rd := by
  cases empty : latch.isEmpty with
  | true =>
      have idle : latch.access memory = .ok {} := by simp [ExMem.access, empty]
      rw [idle] at accessed
      cases accessed
      rfl
  | false =>
      obtain ⟨_, _, -, -, rfl⟩ := (access_eq_ok_iff empty).1 accessed
      rfl

theorem MemWb.rd_lt_of_write? {latch : MemWb} (bound : latch.rd < registerCount) :
    ∀ w, latch.write? = some w → w.rd < registerCount := by
  intro w writes
  unfold write? at writes
  split at writes
  · cases writes
    exact bound
  · cases writes

theorem ExMem.feedsNoUse_empty (exMem : ExMem) : exMem.FeedsNoUse {} :=
  fun _ pos => ⟨pos, pos⟩

/-! ## Decoded values -/

structure IdEx.Current (latch : IdEx) (rf : RegisterFile) : Prop where
  value1 : latch.value1 = rf.read latch.rs1
  value2 : latch.value2 = rf.read latch.rs2

theorem IdEx.current_empty (rf : RegisterFile) : ({} : IdEx).Current rf := ⟨rfl, rfl⟩

theorem IfId.current_decode {latch : IfId} {rf : RegisterFile} {write : Option RegisterWrite}
    (bound : ∀ w, write = some w → w.rd < registerCount) :
    (latch.decode rf write).Current (rf.apply write) := by
  rw [decode_eq bound]
  unfold decode
  split
  · exact ⟨rfl, rfl⟩
  · exact IdEx.current_empty _

namespace Core

variable {c next : Core} {fetched : Option Fetched} {access : AccessResult}

structure Fresh (c : Core) : Prop where
  current : c.idEx.Current c.registers
  noUse : c.exMem.FeedsNoUse c.idEx
  idEx_rd : c.idEx.rd < registerCount
  exMem_rd : c.exMem.rd < registerCount
  memWb_rd : c.memWb.rd < registerCount

namespace Fresh

theorem retiring_rd_lt (h : Fresh c) : ∀ w, c.retiring = some w → w.rd < registerCount := by
  rw [c.retiring_eq]
  exact MemWb.rd_lt_of_write? h.memWb_rd

theorem executed_rd (h : Fresh c) : c.executed.rd < registerCount := by
  rw [executed, IdEx.rd_execute]
  split
  · decide
  · exact h.idEx_rd

theorem access_rd (h : Fresh c) (accessed : c.exMem.access c.memory = .ok access) :
    access.latch.rd < registerCount := by
  rw [ExMem.rd_of_access accessed]
  split
  · decide
  · exact h.exMem_rd

theorem step (h : Fresh c) (commits : c.Commits next fetched access) : Fresh next := by
  have memWb_rd : next.memWb.rd < registerCount := commits.memWb ▸ h.access_rd commits.access_eq
  cases commits.front with
  | turn target redirect pc ifId idEx exMem =>
      exact
        { current := by rw [idEx]; exact IdEx.current_empty _
          noUse := by rw [idEx]; exact ExMem.feedsNoUse_empty _
          idEx_rd := by rw [idEx]; decide
          exMem_rd := by rw [exMem]; decide
          memWb_rd }
  | wait redirect stalls pc ifId idEx exMem =>
      exact
        { current := by rw [idEx]; exact IdEx.current_empty _
          noUse := by rw [idEx]; exact ExMem.feedsNoUse_empty _
          idEx_rd := by rw [idEx]; decide
          exMem_rd := by rw [exMem]; exact h.executed_rd
          memWb_rd }
  | flow got redirect stalls fetched_eq fetch pc ifId idEx exMem =>
      exact
        { current := by rw [idEx, commits.registers]; exact IfId.current_decode h.retiring_rd_lt
          noUse := by rw [idEx, exMem]; exact IdEx.execute_feedsNoUse stalls
          idEx_rd := by rw [idEx]; exact IfId.rd_decode_lt ..
          exMem_rd := by rw [exMem]; exact h.executed_rd
          memWb_rd }

theorem settle (h : Fresh next) : Fresh next.settle.2 := by
  obtain ⟨current, noUse, idEx_rd, exMem_rd, memWb_rd⟩ := h
  unfold Core.settle
  split <;> exact ⟨current, noUse, idEx_rd, exMem_rd, memWb_rd⟩

theorem halt (h : Fresh c) (fault : Fault) : Fresh (c.halt fault) :=
  ⟨h.current, h.noUse, h.idEx_rd, h.exMem_rd, h.memWb_rd⟩

theorem ticks (h : Fresh c) (n : Nat) : Fresh (Core.ticks n c) :=
  kept_by_ticks (fun _ fresh commits => (fresh.step commits).settle)
    (fun _ fresh _ => fresh.halt _) h n

end Fresh

/-- The register file after the writes that are still in the pipeline, the older one first. -/
def laterRegisters (c : Core) : RegisterFile :=
  (c.registers.apply c.retiring).apply c.exMem.write?

theorem Fresh.operands (h : Fresh c) (busy : c.idEx.isEmpty = false) :
    c.forwarding.operands c.idEx c.exMem c.memWb =
      ⟨c.laterRegisters.read c.idEx.rs1, c.laterRegisters.read c.idEx.rs2⟩ := by
  have staged : c.forwarding = ⟨.select c.idEx.rs1 c.exMem c.memWb,
      .select c.idEx.rs2 c.exMem c.memWb⟩ := by
    simp [forwarding, Forwarding.select, busy]
  rw [staged, Forwarding.operands, h.current.value1, h.current.value2, laterRegisters,
    c.retiring_eq, ForwardSource.value_select h.exMem_rd h.memWb_rd,
    ForwardSource.value_select h.exMem_rd h.memWb_rd]

end Core

namespace Simulator

variable {p : Program} {config : Config} {sim : Simulator}

theorem fresh_create (created : create p config = .ok sim) : sim.core.Fresh := by
  have empty : 0 < registerCount := by decide
  rw [create_core created]
  exact
    { current := IdEx.current_empty _
      noUse := ExMem.feedsNoUse_empty _
      idEx_rd := empty
      exMem_rd := empty
      memWb_rd := empty }

/-- Whatever instruction waits for execute after any number of ticks: it carries what the register
file holds, it does not depend on a load just ahead of it, and the operands that forwarding gives
it are those of the register file after the write of the older and then that of the younger
instruction ahead.  Register 0 reads as 0 before and after these writes. -/
theorem operands_up_to_date (created : create p config = .ok sim) (n : Nat)
    (busy : (Core.ticks n sim.core).idEx.isEmpty = false) :
    let c := Core.ticks n sim.core
    c.idEx.value1 = c.registers.read c.idEx.rs1 ∧ c.idEx.value2 = c.registers.read c.idEx.rs2 ∧
      (c.exMem.control.memRead = true → c.exMem.rd ≠ 0 →
        c.exMem.rd ≠ c.idEx.rs1 ∧ c.exMem.rd ≠ c.idEx.rs2) ∧
      c.forwarding.operands c.idEx c.exMem c.memWb =
        ⟨c.laterRegisters.read c.idEx.rs1, c.laterRegisters.read c.idEx.rs2⟩ ∧
      c.registers.read 0 = 0 ∧ c.laterRegisters.read 0 = 0 := by
  have fresh := (fresh_create created).ticks n
  exact ⟨fresh.current.value1, fresh.current.value2, fresh.noUse, fresh.operands busy,
    RegisterFile.read_zero _, RegisterFile.read_zero _⟩

theorem sample_forwards :
    create sampleProgram sampleConfig = .ok sample ∧
      (Core.ticks 4 sample.core).idEx.isEmpty = false ∧
      (Core.ticks 4 sample.core).forwarding.operands (Core.ticks 4 sample.core).idEx
        (Core.ticks 4 sample.core).exMem (Core.ticks 4 sample.core).memWb = ⟨41, 41⟩ ∧
      (Core.ticks 4 sample.core).registers.read 1 = 0 := by
  have created : create sampleProgram sampleConfig = .ok sample := by decide
  have busy : (Core.ticks 4 sample.core).idEx.isEmpty = false := by decide
  obtain ⟨-, -, -, operands, -⟩ := operands_up_to_date created 4 busy
  refine ⟨created, busy, ?_, by decide⟩
  rw [operands]
  decide

end Simulator

end FiveStage
