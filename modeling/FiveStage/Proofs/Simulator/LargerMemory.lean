import FiveStage.Proofs.Pipeline.Halting
import FiveStage.Proofs.Simulator.Preload

/-!
# More memory

The size of data memory shows in nothing but faults.  An access that a memory serves is served alike
by a larger one, and no stage asks for the size otherwise.  So two runs that differ in the size
alone stay in step, wrong paths included, until an access reaches over the end of the smaller
memory.
-/

namespace FiveStage

/-! ## Memory -/

namespace DataMemory

variable {m next : DataMemory} {addr : Doubleword} {width : Nat}

def padded (m : DataMemory) (extra : Nat) : DataMemory := ⟨m.bytes ++ Array.replicate extra 0⟩

@[simp] theorem size_padded (m : DataMemory) (extra : Nat) :
    (m.padded extra).size = m.size + extra := by
  simp [padded, size]

@[simp] theorem byteAt_padded (m : DataMemory) (extra a : Nat) :
    (m.padded extra).byteAt a = m.byteAt a := by
  unfold byteAt padded
  by_cases inside : a < m.bytes.size
  · rw [Array.getElem?_append_left inside]
  · rw [Array.getElem?_append_right (Nat.le_of_not_lt inside), Array.getElem?_replicate,
      Array.getElem?_eq_none (Nat.le_of_not_lt inside)]
    split <;> rfl

theorem zeroed_padded (size extra : Nat) : (zeroed size).padded extra = zeroed (size + extra) := by
  simp [zeroed, padded]

theorem Covers.padded (covers : m.Covers addr width) (extra : Nat) :
    (m.padded extra).Covers addr width := by
  obtain ⟨narrow, inside⟩ := covers
  refine ⟨narrow, ?_⟩
  rw [size_padded]
  omega

theorem read_padded {loaded : Doubleword} (served : m.read addr width = .ok loaded)
    (extra : Nat) : (m.padded extra).read addr width = .ok loaded := by
  by_cases covers : m.Covers addr width
  · rw [read_of_covers covers] at served
    rw [read_of_covers (covers.padded extra)]
    simpa only [byteAt_padded] using served
  · simp [read, covers] at served

theorem eq_of_read_error {fault : Fault} (failed : m.read addr width = .error fault) :
    fault = .accessOutOfRange addr width := by
  unfold read at failed
  split at failed <;> cases failed
  rfl

theorem eq_of_check_error {fault : Fault} (failed : m.check addr width = .error fault) :
    fault = .accessOutOfRange addr width := by
  unfold check at failed
  split at failed <;> cases failed
  rfl

theorem check_padded (served : m.check addr width = .ok ()) (extra : Nat) :
    (m.padded extra).check addr width = .ok () :=
  check_eq_ok_iff.2 ((check_eq_ok_iff.1 served).padded extra)

theorem write_padded {value : Doubleword} (served : m.write addr width value = .ok next)
    (extra : Nat) : (m.padded extra).write addr width value = .ok (next.padded extra) := by
  obtain ⟨covers, rfl⟩ := write_eq_ok_iff.1 served
  refine write_eq_ok_iff.2 ⟨covers.padded extra, ext_byteAt (by simp) fun a => ?_⟩
  rw [byteAt_padded, byteAt_written covers, byteAt_written (covers.padded extra), byteAt_padded]

theorem apply_padded {store : Option PendingStore} (served : m.apply store = .ok next)
    (extra : Nat) : (m.padded extra).apply store = .ok (next.padded extra) := by
  cases store with
  | none =>
      cases served
      rfl
  | some store => exact write_padded served extra

theorem preload_padded {preloads : List MemoryPreload} (loaded : m.preload preloads = .ok next)
    (extra : Nat) : (m.padded extra).preload preloads = .ok (next.padded extra) := by
  induction preloads using List.reverseRecOn generalizing next with
  | nil =>
      cases loaded
      rfl
  | append_singleton front q ih =>
      obtain ⟨before, placed, wrote⟩ := preload_concat_eq_ok_iff.1 loaded
      exact preload_concat_eq_ok_iff.2 ⟨_, ih placed, write_padded wrote extra⟩

end DataMemory

/-! ## Memory access -/

namespace ExMem

variable {latch : ExMem} {memory : DataMemory} {fault : Fault}

theorem load_padded {loadData : Doubleword} (served : latch.load memory = .ok loadData)
    (extra : Nat) : latch.load (memory.padded extra) = .ok loadData := by
  unfold load at served ⊢
  split
  next reads =>
    rw [if_pos reads] at served
    split
    next access found =>
      simp only [found] at served
      cases raw : memory.read latch.alu access.width with
      | error fault => simp [raw, Except.map] at served
      | ok loaded =>
          rw [raw] at served
          rw [DataMemory.read_padded raw extra, served]
    next unassigned =>
      simpa only [unassigned] using served
  next idle => rwa [if_neg idle] at served

theorem stage_padded {store : Option PendingStore} (served : latch.stage memory = .ok store)
    (extra : Nat) : latch.stage (memory.padded extra) = .ok store := by
  unfold stage at served ⊢
  split
  next writes =>
    rw [if_pos writes] at served
    split
    next access found =>
      simp only [found] at served
      cases checked : memory.check latch.alu access.width with
      | error fault => simp [checked, Except.map] at served
      | ok =>
          rw [checked] at served
          rw [DataMemory.check_padded checked extra, served]
    next unassigned =>
      simpa only [unassigned] using served
  next idle => rwa [if_neg idle] at served

theorem access_padded {access : AccessResult} (served : latch.access memory = .ok access)
    (extra : Nat) : latch.access (memory.padded extra) = .ok access := by
  cases busy : latch.isEmpty with
  | true => simpa [ExMem.access, busy] using served
  | false =>
      obtain ⟨loadData, store, loaded, staged, rfl⟩ := (access_eq_ok_iff busy).1 served
      exact (access_eq_ok_iff busy).2
        ⟨loadData, store, load_padded loaded extra, stage_padded staged extra, rfl⟩

theorem eq_of_load_error (failed : latch.load memory = .error fault) :
    ∃ width, fault = .accessOutOfRange latch.alu width := by
  unfold load at failed
  split at failed
  · split at failed
    next access _ =>
      cases raw : memory.read latch.alu access.width with
      | ok => simp [raw, Except.map] at failed
      | error =>
          rw [raw] at failed
          cases failed
          exact ⟨_, DataMemory.eq_of_read_error raw⟩
    · cases failed
  · cases failed

theorem eq_of_stage_error (failed : latch.stage memory = .error fault) :
    ∃ width, fault = .accessOutOfRange latch.alu width := by
  unfold stage at failed
  split at failed
  · split at failed
    next access _ =>
      cases checked : memory.check latch.alu access.width with
      | ok => simp [checked, Except.map] at failed
      | error =>
          rw [checked] at failed
          cases failed
          exact ⟨_, DataMemory.eq_of_check_error checked⟩
    · cases failed
  · cases failed

theorem eq_of_access_error (failed : latch.access memory = .error fault) :
    ∃ width, fault = .accessOutOfRange latch.alu width := by
  cases busy : latch.isEmpty with
  | true => simp [ExMem.access, busy] at failed
  | false =>
      rcases (access_eq_error_iff busy).1 failed with load | ⟨-, stage⟩
      · exact eq_of_load_error load
      · exact eq_of_stage_error stage

end ExMem

/-! ## The core -/

namespace Core

variable {c : Core} {cycle : Cycle} {n : Nat}

def padded (c : Core) (extra : Nat) : Core := { c with memory := c.memory.padded extra }

def HasOverrun (c : Core) : Prop := ∃ addr width, c.fault = some (.accessOutOfRange addr width)

theorem evaluate_padded (served : c.evaluate = .ok cycle) (extra : Nat) :
    (c.padded extra).evaluate = .ok cycle := by
  obtain ⟨fetched, access, fetch, accessed, rfl⟩ := evaluate_eq_ok_iff.1 served
  exact evaluate_eq_ok_iff.2 ⟨fetched, access, fetch, ExMem.access_padded accessed extra, rfl⟩

theorem advance_padded (c : Core) (cycle : Cycle) (memory : DataMemory) (extra : Nat) :
    (c.padded extra).advance cycle (memory.padded extra) =
      (c.advance cycle memory).padded extra := by
  unfold advance
  cases cycle.access.redirect with
  | some target => rfl
  | none => cases cycle.fetched <;> rfl

theorem settle_padded (next : Core) (extra : Nat) :
    (next.padded extra).settle = (next.settle.1, next.settle.2.padded extra) := by
  have same : (next.padded extra).atEnd = next.atEnd := rfl
  unfold settle
  rw [same]
  split <;> rfl

theorem tick_padded (served : ¬c.tick.2.HasOverrun) (extra : Nat) :
    (c.padded extra).tick = (c.tick.1, c.tick.2.padded extra) := by
  have started : (c.padded extra).isFinished = c.isFinished := rfl
  cases finished : c.isFinished with
  | true =>
      rw [tick_eq_verdict finished, tick_eq_verdict (started.trans finished)]
      rfl
  | false =>
      obtain ⟨running, going⟩ := isFinished_eq_false_iff.1 finished
      obtain ⟨running', going'⟩ := isFinished_eq_false_iff.1 (started.trans finished)
      cases evaluated : c.evaluate with
      | error fault =>
          rw [tick_of_error running going evaluated] at served ⊢
          -- A fault of memory access is excluded, so it is one of fetch, which reads no memory.
          have failed : (c.padded extra).evaluate = .error fault := by
            rcases evaluate_eq_error_iff.1 evaluated with fetch | ⟨-, access⟩
            · exact evaluate_eq_error_iff.2 (.inl fetch)
            · obtain ⟨width, rfl⟩ := ExMem.eq_of_access_error access
              exact absurd ⟨_, width, rfl⟩ served
          rw [tick_of_error running' going' failed]
          rfl
      | ok cycle =>
          obtain ⟨_, _, -, accessed, rfl⟩ := evaluate_eq_ok_iff.1 evaluated
          obtain ⟨memory, written⟩ := ExMem.exists_apply_of_access accessed
          rw [tick_of_ok running going evaluated written,
            tick_of_ok running' going' (evaluate_padded evaluated extra)
              (DataMemory.apply_padded written extra), advance_padded, settle_padded]

theorem HasOverrun.tick (h : c.HasOverrun) : c.tick.2.HasOverrun := by
  obtain ⟨addr, width, fault⟩ := h
  rw [tick_of_fault fault]
  exact ⟨addr, width, fault⟩

theorem ticks_padded (served : ¬(ticks n c).HasOverrun) (extra : Nat) :
    ticks n (c.padded extra) = (ticks n c).padded extra ∧
      ∀ k < n, (ticks k (c.padded extra)).tick.1 = (ticks k c).tick.1 := by
  induction n with
  | zero => exact ⟨rfl, fun k lt => absurd lt k.not_lt_zero⟩
  | succ n ih =>
      rw [ticks_succ] at served
      obtain ⟨same, outcomes⟩ := ih fun overrun => served overrun.tick
      have next := tick_padded served extra
      refine ⟨by rw [ticks_succ, ticks_succ, same, next], fun k lt => ?_⟩
      rcases Nat.eq_or_lt_of_le (Nat.le_of_lt_succ lt) with rfl | before
      · rw [same, next]
      · exact outcomes k before

end Core

namespace Simulator

variable {p : Program} {config : Config} {s s' : Simulator} {size : Nat}

theorem core_eq_padded (created : create p config = .ok s)
    (created' : create p { config with dataSize := size } = .ok s')
    (larger : config.dataSize ≤ size) : s'.core = s.core.padded (size - config.dataSize) := by
  obtain ⟨-, -, memory, loaded, rfl⟩ := create_eq_ok_iff.1 created
  obtain ⟨-, -, memory', loaded', rfl⟩ := create_eq_ok_iff.1 created'
  have grown := DataMemory.preload_padded loaded (size - config.dataSize)
  rw [DataMemory.zeroed_padded, Nat.add_sub_cancel' larger] at grown
  rw [grown] at loaded'
  cases loaded'
  rfl

/-- As long as no access has reached outside memory, a core with more memory, set up from a
configuration that differs in nothing else, does the same in every tick and is in the same state,
with its additional bytes still zero. -/
theorem ticks_of_larger_memory (created : create p config = .ok s)
    (created' : create p { config with dataSize := size } = .ok s')
    (larger : config.dataSize ≤ size) (n : Nat) (served : ¬(Core.ticks n s.core).HasOverrun) :
    (∀ k < n, (Core.ticks k s'.core).tick.1 = (Core.ticks k s.core).tick.1) ∧
      Core.ticks n s'.core =
        { Core.ticks n s.core with
          memory := (Core.ticks n s.core).memory.padded (size - config.dataSize) } := by
  obtain ⟨same, outcomes⟩ := Core.ticks_padded served (size - config.dataSize)
  rw [core_eq_padded created created' larger]
  exact ⟨outcomes, same⟩

def fittingConfig : Config := { dataSize := 8, memoryPreloads := [⟨0, 41, 4⟩] }

def fitting : Simulator :=
  { core := { Core.boot sampleProgram 8 with memory := ⟨#[41, 0, 0, 0, 0, 0, 0, 0]⟩ }
    maxCycles := none }

def roomy : Simulator := { fitting with core := fitting.core.padded 3 }

theorem fitting_in_eleven_bytes :
    create sampleProgram fittingConfig = .ok fitting ∧
      create sampleProgram { fittingConfig with dataSize := 11 } = .ok roomy ∧
      fittingConfig.dataSize ≤ 11 ∧ ¬(Core.ticks 12 fitting.core).HasOverrun ∧
      (∀ k < 12, (Core.ticks k roomy.core).tick.1 = (Core.ticks k fitting.core).tick.1) ∧
      (Core.ticks 12 roomy.core).complete = true ∧
      (Core.ticks 12 roomy.core).memory = ⟨#[41, 0, 0, 0, 42, 0, 0, 0, 0, 0, 0]⟩ := by
  have created : create sampleProgram fittingConfig = .ok fitting := by decide
  have created' : create sampleProgram { fittingConfig with dataSize := 11 } = .ok roomy := by
    decide
  have served : ¬(Core.ticks 12 fitting.core).HasOverrun := by
    have sound : (Core.ticks 12 fitting.core).fault = none := by decide
    rintro ⟨addr, width, fault⟩
    rw [sound] at fault
    cases fault
  have larger : fittingConfig.dataSize ≤ 11 := by decide
  obtain ⟨outcomes, same⟩ := ticks_of_larger_memory created created' larger 12 served
  refine ⟨created, created', larger, served, outcomes, ?_, ?_⟩
  · rw [same]
    decide
  · rw [same]
    decide

end Simulator

end FiveStage
