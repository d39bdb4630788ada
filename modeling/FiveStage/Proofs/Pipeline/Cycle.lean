import FiveStage.Pipeline.Tick
import Mathlib.Tactic.Common

/-!
# One clock cycle

What a cycle can do, said once.  `Core.tick_cases` splits a cycle of a running core into one that
stops on a fault and one that commits; `Core.Commits` says what a committed cycle changes, and
`Core.Front` how the front of the pipeline moved in it: it was turned elsewhere, it waited for a
load, or it flowed on.
-/

namespace FiveStage

/-! ## Memory access -/

@[simp] theorem ExMem.access_empty (memory : DataMemory) :
    ({} : ExMem).access memory = .ok {} := rfl

theorem ExMem.access_eq_ok_iff {latch : ExMem} {memory : DataMemory} {access : AccessResult}
    (busy : latch.isEmpty = false) :
    latch.access memory = .ok access ↔
      ∃ loadData store, latch.load memory = .ok loadData ∧ latch.stage memory = .ok store ∧
        access =
          { latch :=
              { pc := latch.pc
                word := latch.word
                rd := latch.rd
                alu := latch.alu
                loadData
                control := latch.control }
            store
            redirect := latch.redirect? } := by
  unfold ExMem.access
  rw [if_neg (by simp [busy])]
  constructor
  · intro h
    split at h
    · cases h
    next loadData load =>
      split at h
      · cases h
      next store stage =>
        cases h
        exact ⟨loadData, store, load, stage, rfl⟩
  · rintro ⟨loadData, store, load, stage, rfl⟩
    simp [load, stage]

theorem ExMem.exists_apply_of_stage {latch : ExMem} {memory : DataMemory}
    {store : Option PendingStore} (h : latch.stage memory = .ok store) :
    ∃ memory', memory.apply store = .ok memory' := by
  unfold stage at h
  split at h
  · split at h
    next access _ =>
      cases checked : memory.check latch.alu access.width with
      | error fault => simp [checked, Except.map] at h
      | ok =>
          rw [checked] at h
          cases h
          exact DataMemory.exists_write_of_check checked latch.storeData
    · cases h
      exact ⟨memory, rfl⟩
  · cases h
    exact ⟨memory, rfl⟩

theorem ExMem.exists_apply_of_access {latch : ExMem} {memory : DataMemory}
    {access : AccessResult} (h : latch.access memory = .ok access) :
    ∃ memory', memory.apply access.store = .ok memory' := by
  cases busy : latch.isEmpty with
  | true =>
      have idle : latch.access memory = .ok {} := by simp [ExMem.access, busy]
      rw [idle] at h
      cases h
      exact ⟨memory, rfl⟩
  | false =>
      obtain ⟨loadData, store, -, staged, rfl⟩ := (access_eq_ok_iff busy).1 h
      exact exists_apply_of_stage staged

theorem ExMem.isControlFlow_of_redirect {latch : ExMem} {memory : DataMemory}
    {access : AccessResult} {target : Doubleword} (accessed : latch.access memory = .ok access)
    (redirect : access.redirect = some target) : access.latch.control.isControlFlow = true := by
  cases busy : latch.isEmpty with
  | true =>
      have idle : latch.access memory = .ok {} := by simp [ExMem.access, busy]
      rw [idle] at accessed
      cases accessed
      cases redirect
  | false =>
      obtain ⟨loadData, store, -, -, rfl⟩ := (access_eq_ok_iff busy).1 accessed
      simp only [redirect?] at redirect
      split at redirect
      next transfers => exact transfers.1
      · cases redirect

namespace Core

variable {c next : Core} {fetched : Option Fetched} {access : AccessResult} {fault : Fault}

/-! ## Committed cycles -/

def cycle (c : Core) (fetched : Option Fetched) (access : AccessResult) : Cycle :=
  { stall := c.stalls
    fetched
    retirement := c.retirement?
    decoded := c.decoded
    forwarding := c.forwarding
    executed := c.executed
    access }

def retiring (c : Core) : Option RegisterWrite := c.retirement?.bind (·.write)

/-- How the part of the pipeline before memory access moves in a committed cycle. -/
inductive Front (c next : Core) (fetched : Option Fetched) (access : AccessResult) : Prop where
  | turn (target : Doubleword) (redirect : access.redirect = some target) (pc : next.pc = target)
      (ifId : next.ifId = {}) (idEx : next.idEx = {}) (exMem : next.exMem = {})
  | wait (redirect : access.redirect = none) (stalls : c.stalls = true) (pc : next.pc = c.pc)
      (ifId : next.ifId = c.ifId) (idEx : next.idEx = {}) (exMem : next.exMem = c.executed)
  | flow (got : Fetched) (redirect : access.redirect = none) (stalls : c.stalls = false)
      (fetched_eq : fetched = some got) (fetch : c.program.fetch c.pc = .ok got)
      (pc : next.pc = got.nextPc) (ifId : next.ifId = got.latch)
      (idEx : next.idEx = c.ifId.decode c.registers c.retiring) (exMem : next.exMem = c.executed)

structure Commits (c next : Core) (fetched : Option Fetched) (access : AccessResult) : Prop where
  fetch : c.fetch? = .ok fetched
  access_eq : c.exMem.access c.memory = .ok access
  clock : next.clock = c.clock + 1
  program : next.program = c.program
  registers : next.registers = c.registers.apply c.retiring
  memory : c.memory.apply access.store = .ok next.memory
  memWb : next.memWb = access.latch
  stalled : next.stalled = c.stalls
  fault : next.fault = c.fault
  complete : next.complete = c.complete
  stats : next.stats = c.countCycle (c.cycle fetched access)
  front : Front c next fetched access

theorem evaluate_eq_ok_iff {cycle : Cycle} :
    c.evaluate = .ok cycle ↔
      ∃ fetched access, c.fetch? = .ok fetched ∧ c.exMem.access c.memory = .ok access ∧
        cycle = c.cycle fetched access := by
  unfold evaluate
  constructor
  · intro h
    split at h
    · cases h
    next fetched fetch =>
      split at h
      · cases h
      next access done =>
        cases h
        exact ⟨fetched, access, fetch, done, rfl⟩
  · rintro ⟨fetched, access, fetch, done, rfl⟩
    simp [fetch, done, cycle]

theorem evaluate_eq_error_iff :
    c.evaluate = .error fault ↔
      c.fetch? = .error fault ∨
        (∃ fetched, c.fetch? = .ok fetched) ∧ c.exMem.access c.memory = .error fault := by
  unfold evaluate
  constructor
  · intro h
    split at h
    next failed =>
      cases h
      exact .inl failed
    next fetched fetch =>
      split at h
      next failed =>
        cases h
        exact .inr ⟨⟨fetched, fetch⟩, failed⟩
      · cases h
  · rintro (failed | ⟨⟨fetched, fetch⟩, failed⟩)
    · simp [failed]
    · simp [fetch, failed]

theorem fetch?_of_stalls (h : c.stalls = true) : c.fetch? = .ok none := by simp [fetch?, h]

theorem front_advance (fetch : c.fetch? = .ok fetched) (memory : DataMemory) :
    Front c (c.advance (c.cycle fetched access) memory) fetched access := by
  cases redirect : access.redirect with
  | some target =>
      exact .turn target redirect (by simp [advance, cycle, redirect])
        (by simp [advance, cycle, redirect]) (by simp [advance, cycle, redirect])
        (by simp [advance, cycle, redirect])
  | none =>
      cases stalls : c.stalls with
      | true =>
          rw [fetch?_of_stalls stalls] at fetch
          cases fetch
          exact .wait redirect stalls (by simp [advance, cycle, redirect])
            (by simp [advance, cycle, redirect])
            (by simp [advance, cycle, redirect, decoded, stalls])
            (by simp [advance, cycle, redirect])
      | false =>
          cases got : c.program.fetch c.pc with
          | error fault => simp [fetch?, stalls, got, Except.map] at fetch
          | ok got' =>
              have same : fetched = some got' := by
                simpa [fetch?, stalls, got, Except.map] using fetch.symm
              subst same
              exact .flow got' redirect stalls rfl got (by simp [advance, cycle, redirect])
                (by simp [advance, cycle, redirect])
                (by simp [advance, cycle, redirect, decoded, stalls, retiring])
                (by simp [advance, cycle, redirect])

theorem advance_eq (c : Core) (cycle : Cycle) (memory : DataMemory) :
    ∃ pc ifId idEx exMem, c.advance cycle memory =
      { c with
        clock := c.clock + 1
        registers := c.registers.apply cycle.retiring
        memory
        memWb := cycle.access.latch
        stalled := cycle.stall
        stats := c.countCycle cycle
        pc, ifId, idEx, exMem } := by
  unfold advance
  cases cycle.access.redirect with
  | some target => exact ⟨_, _, _, _, rfl⟩
  | none => cases cycle.fetched <;> exact ⟨_, _, _, _, rfl⟩

theorem commits_advance {memory : DataMemory} (fetch : c.fetch? = .ok fetched)
    (access_eq : c.exMem.access c.memory = .ok access)
    (written : c.memory.apply access.store = .ok memory) :
    c.Commits (c.advance (c.cycle fetched access) memory) fetched access := by
  have front : Front c (c.advance (c.cycle fetched access) memory) fetched access :=
    front_advance fetch memory
  obtain ⟨pc, ifId, idEx, exMem, same⟩ := advance_eq c (c.cycle fetched access) memory
  rw [same] at front ⊢
  exact
    { fetch, access_eq, front, memory := written, clock := rfl, program := rfl, registers := rfl
      memWb := rfl, stalled := rfl, fault := rfl, complete := rfl, stats := rfl }

theorem atEnd_eq_true_iff : c.atEnd = true ↔ c.pc = c.endPc ∧ c.isDrained = true := by
  simp [atEnd]

def settle (next : Core) : Outcome × Core :=
  if next.atEnd then (.complete, { next with complete := true }) else (.running, next)

theorem tick_of_error (running : c.fault = none) (going : c.complete = false)
    (failed : c.evaluate = .error fault) : c.tick = (.halted fault, c.halt fault) := by
  simp [tick, running, going, failed, Except.bind]

theorem tick_of_ok {cycle : Cycle} {memory : DataMemory} (running : c.fault = none)
    (going : c.complete = false) (evaluated : c.evaluate = .ok cycle)
    (written : c.memory.apply cycle.access.store = .ok memory) :
    c.tick = (c.advance cycle memory).settle := by
  have committed : c.commit cycle = .ok (c.advance cycle memory) := by
    simp only [commit, written, Except.map]
  simp only [tick, running, going, evaluated, Except.bind, committed, settle]
  rfl

theorem tick_cases (running : c.fault = none) (going : c.complete = false) :
    (∃ fault, c.evaluate = .error fault ∧ c.tick = (.halted fault, c.halt fault)) ∨
      ∃ next fetched access, c.Commits next fetched access ∧ c.tick = next.settle := by
  cases evaluated : c.evaluate with
  | error fault => exact .inl ⟨fault, rfl, tick_of_error running going evaluated⟩
  | ok cycle =>
      obtain ⟨fetched, access, fetch, access_eq, rfl⟩ := evaluate_eq_ok_iff.1 evaluated
      obtain ⟨memory, written⟩ := ExMem.exists_apply_of_access access_eq
      exact .inr ⟨_, fetched, access, commits_advance fetch access_eq written,
        tick_of_ok running going evaluated written⟩

end Core

end FiveStage
