import FiveStage.Proofs.Pipeline.Retirement

/-!
# Halting

A cycle that stops on a fault leaves nothing behind but its count and the fault, and a core that has
stopped stays as it is.  Both hold of every core, whatever its latches contain; it need not have
come from a run.
-/

namespace FiveStage

variable {fault : Fault}

/-! ## The stages that raise faults -/

theorem ExMem.access_eq_error_iff {latch : ExMem} {memory : DataMemory}
    (busy : latch.isEmpty = false) :
    latch.access memory = .error fault ↔
      latch.load memory = .error fault ∨
        (∃ loadData, latch.load memory = .ok loadData) ∧ latch.stage memory = .error fault := by
  unfold ExMem.access
  rw [if_neg (by simp [busy])]
  cases load : latch.load memory with
  | error failed => simp
  | ok loadData =>
      cases stage : latch.stage memory with
      | error failed => simp
      | ok store => simp

namespace Core

variable {c : Core}

/-- The first stage of the next cycle to fail, and the fault that it fails on. -/
inductive Raises (c : Core) : Fault → Prop where
  | fetch {fault : Fault} (moves : c.stalls = false)
      (failed : c.program.fetch c.pc = .error fault) : Raises c fault
  | load {fault : Fault} {fetched : Option Fetched} (fetch : c.fetch? = .ok fetched)
      (busy : c.exMem.isEmpty = false) (failed : c.exMem.load c.memory = .error fault) :
      Raises c fault
  | store {fault : Fault} {fetched : Option Fetched} {loadData : Doubleword}
      (fetch : c.fetch? = .ok fetched) (busy : c.exMem.isEmpty = false)
      (load : c.exMem.load c.memory = .ok loadData)
      (failed : c.exMem.stage c.memory = .error fault) : Raises c fault

theorem fetch?_eq_error_iff :
    c.fetch? = .error fault ↔ c.stalls = false ∧ c.program.fetch c.pc = .error fault := by
  unfold fetch?
  cases stalls : c.stalls with
  | true => simp
  | false => cases fetch : c.program.fetch c.pc <;> simp [Except.map]

theorem evaluate_eq_error_iff_raises : c.evaluate = .error fault ↔ c.Raises fault := by
  rw [evaluate_eq_error_iff, fetch?_eq_error_iff]
  constructor
  · rintro (⟨moves, failed⟩ | ⟨⟨fetched, fetch⟩, failed⟩)
    · exact .fetch moves failed
    · cases busy : c.exMem.isEmpty with
      | true => simp [ExMem.access, busy] at failed
      | false =>
          rcases (ExMem.access_eq_error_iff busy).1 failed with load | ⟨⟨loadData, load⟩, stage⟩
          · exact .load fetch busy load
          · exact .store fetch busy load stage
  · rintro (⟨moves, failed⟩ | ⟨fetch, busy, failed⟩ | ⟨fetch, busy, load, failed⟩)
    · exact .inl ⟨moves, failed⟩
    · exact .inr ⟨⟨_, fetch⟩, (ExMem.access_eq_error_iff busy).2 (.inl failed)⟩
    · exact .inr ⟨⟨_, fetch⟩, (ExMem.access_eq_error_iff busy).2 (.inr ⟨⟨_, load⟩, failed⟩)⟩

/-! ## Stopping and having stopped -/

theorem settle_ne_halted {next : Core} : next.settle.1 ≠ .halted fault := by
  unfold settle
  split <;> simp

theorem tick_eq_halted_iff (running : c.isFinished = false) :
    c.tick.1 = .halted fault ↔ c.Raises fault := by
  obtain ⟨sound, going⟩ := isFinished_eq_false_iff.1 running
  rw [← evaluate_eq_error_iff_raises]
  rcases tick_cases sound going with ⟨failure, failed, halted⟩ | ⟨next, _, _, commits, settled⟩
  · simp [halted, failed]
  · have evaluated := evaluate_eq_ok_iff.2 ⟨_, _, commits.fetch, commits.access_eq, rfl⟩
    simp [settled, settle_ne_halted, evaluated]

theorem tick_of_raises (running : c.isFinished = false) (raised : c.Raises fault) :
    c.tick = (.halted fault, c.halt fault) := by
  obtain ⟨sound, going⟩ := isFinished_eq_false_iff.1 running
  exact tick_of_error sound going (evaluate_eq_error_iff_raises.2 raised)

theorem ticks_of_finished (finished : c.isFinished = true) (n : Nat) : ticks n c = c := by
  induction n with
  | zero => rfl
  | succ n ih => rw [ticks_succ, ih, tick_eq_verdict finished]

/-- A running core halts on just the faults that its stages raise, and then only the two counts of
cycles, the mark of a stall and the fault itself differ from before.  The store of a cycle never
fails once its check has passed.  A finished core stays as it is for ever, and each further cycle
tells how it ended. -/
theorem halt_atomic_and_final (c : Core) :
    (c.isFinished = false → ∀ fault,
      (c.tick.1 = .halted fault ↔ c.Raises fault) ∧
      (c.tick.1 = .halted fault →
        c.tick.2 =
          { c with
            clock := c.clock + 1
            stats := { c.stats with cycles := c.stats.cycles + 1 }
            stalled := false
            fault := some fault })) ∧
    (∀ access, c.exMem.access c.memory = .ok access →
      ∃ memory, c.memory.apply access.store = .ok memory) ∧
    (c.isFinished = true → ∀ n, ticks n c = c ∧ (ticks n c).tick = (c.verdict, c)) := by
  refine ⟨fun running fault => ⟨tick_eq_halted_iff running, fun halted => ?_⟩,
    fun access accessed => ExMem.exists_apply_of_access accessed, fun finished n => ?_⟩
  · rw [tick_of_raises running ((tick_eq_halted_iff running).1 halted)]
    rfl
  · rw [ticks_of_finished finished n]
    exact ⟨rfl, tick_eq_verdict finished⟩

/-- A core in the middle of everything: it waits for a load, is about to jump and writes a register
back, while the load in memory access reaches over the end of memory. -/
def overrun : Core :=
  { memory := DataMemory.zeroed 16
    program := ⟨#[0x00002083, 0x00108113], by decide⟩
    pc := 8
    ifId := { pc := 4, word := 0x00108113, valid := true }
    idEx := { rd := 1, control := Opcode.load.control }
    exMem :=
      { rd := 3
        funct3 := 2
        alu := 14
        taken := true
        control := { Opcode.load.control with jump := true } }
    memWb := { rd := 2, alu := 7, control := Opcode.opImm.control } }

theorem overrun_halts :
    overrun.isFinished = false ∧ overrun.stalls = true ∧
      overrun.tick.1 = .halted (.accessOutOfRange 14 4) ∧
      overrun.tick.2 =
        { overrun with
          clock := 1
          stats := { overrun.stats with cycles := 1 }
          stalled := false
          fault := some (.accessOutOfRange 14 4) } ∧
      ticks 9 overrun.tick.2 = overrun.tick.2 := by
  have running : overrun.isFinished = false := by decide
  have halted : overrun.tick.1 = .halted (.accessOutOfRange 14 4) := by decide
  have finished : overrun.tick.2.isFinished = true := by decide
  exact ⟨running, by decide, halted, ((halt_atomic_and_final overrun).1 running _).2 halted,
    ((halt_atomic_and_final overrun.tick.2).2.2 finished 9).1⟩

end Core

end FiveStage
