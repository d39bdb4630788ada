import FiveStage.Proofs.Pipeline.Coherence

/-!
# How a core stands

The three marks of a core exclude each other, and each says something of its latches.  A cycle that
waits for a load leaves that load behind execute, or the transfer of control that threw it away
behind memory access, and so never ends the program.
-/

namespace FiveStage

theorem Control.isBubble_of_isControlFlow {control : Control}
    (transfers : control.isControlFlow = true) : control.isBubble = false := by
  simp only [isControlFlow, Bool.or_eq_true] at transfers
  rcases transfers with branch | jump
  · simp [isBubble, branch]
  · simp [isBubble, jump]

namespace Core

variable {c next : Core} {fetched : Option Fetched} {access : AccessResult} {fault : Fault}

/-- A waiting cycle leaves something to finish, whether or not control is sent elsewhere in it. -/
theorem Commits.isDrained_of_stalls (commits : c.Commits next fetched access)
    (stalls : c.stalls = true) : next.isDrained = false := by
  cases commits.front with
  | turn target redirect pc ifId idEx exMem =>
      have transfers := ExMem.isControlFlow_of_redirect commits.access_eq redirect
      have kept : next.memWb.isEmpty = false := by
        rw [commits.memWb]
        exact Control.isBubble_of_isControlFlow transfers
      simp [isDrained, kept]
  | wait redirect _ pc ifId idEx exMem =>
      have kept : next.exMem.isEmpty = false := by
        rw [exMem, executed, IdEx.isEmpty_execute, (busy_of_stalls stalls).2]
      simp [isDrained, kept]
  | flow got redirect moves fetched_eq fetch pc ifId idEx exMem =>
      rw [moves] at stalls
      cases stalls

structure Orderly (c : Core) : Prop where
  exclusive : c.stalled.toNat + c.fault.isSome.toNat + c.complete.toNat ≤ 1
  waits : c.stalled = true → c.idEx.isEmpty = true
  done : c.complete = true → c.pc = c.endPc ∧ c.isDrained = true

namespace Orderly

theorem settle (running : c.isFinished = false) (commits : c.Commits next fetched access) :
    Orderly next.settle.2 := by
  obtain ⟨sound, going⟩ := isFinished_eq_false_iff.1 running
  have healthy : next.fault = none := commits.fault.trans sound
  have waits : next.stalled = true → next.idEx.isEmpty = true := by
    rw [commits.stalled]
    intro stalls
    cases commits.front with
    | turn _ _ _ _ idEx _ => rw [idEx]; rfl
    | wait _ _ _ _ idEx _ => rw [idEx]; rfl
    | flow _ _ moves => rw [moves] at stalls; cases stalls
  unfold Core.settle
  split
  next atEnd =>
    obtain ⟨here, drained⟩ := atEnd_eq_true_iff.1 atEnd
    have moved : next.stalled = false := by
      rw [commits.stalled]
      cases stalls : c.stalls with
      | false => rfl
      | true => simp [commits.isDrained_of_stalls stalls] at drained
    exact
      { exclusive := by simp [healthy, moved]
        waits
        done := fun _ => ⟨here, drained⟩ }
  next notEnd =>
    have on : next.complete = false := commits.complete.trans going
    exact
      { exclusive := by simp [healthy, on, Bool.toNat_le]
        waits
        done := fun complete => by rw [on] at complete; cases complete }

theorem halt (running : c.isFinished = false) (fault : Fault) : Orderly (c.halt fault) := by
  have going : (c.halt fault).complete = false := (isFinished_eq_false_iff.1 running).2
  exact
    { exclusive := by
        rw [going]
        exact Nat.le_refl 1
      waits := fun stalled => by cases stalled
      done := fun complete => by rw [going] at complete; cases complete }

theorem ticks (start : Orderly c) (n : Nat) : Orderly (Core.ticks n c) :=
  kept_by_ticks (fun running _ commits => settle running commits)
    (fun running _ _ => halt running _) start n

theorem stalls_of_stalled (h : Orderly c) (stalled : c.stalled = true) : c.stalls = false := by
  have empty := h.waits stalled
  cases stalls : c.stalls with
  | false => rfl
  | true => simp [(busy_of_stalls stalls).2] at empty

theorem isFinished_of_stalled (h : Orderly c) (stalled : c.stalled = true) :
    c.isFinished = false := by
  have others := h.exclusive
  rw [stalled, Bool.toNat_true] at others
  rw [isFinished, Bool.or_eq_false_iff]
  constructor
  · cases faulty : c.fault.isSome with
    | false => rfl
    | true => rw [faulty, Bool.toNat_true] at others; omega
  · cases complete : c.complete with
    | false => rfl
    | true => rw [complete, Bool.toNat_true] at others; omega

theorem stalled_tick (h : Orderly c) (stalled : c.stalled = true) : c.tick.2.stalled = false := by
  obtain ⟨sound, going⟩ := isFinished_eq_false_iff.1 (h.isFinished_of_stalled stalled)
  rcases tick_cases sound going with ⟨fault, -, halted⟩ | ⟨next, _, _, commits, settled⟩
  · rw [halted]
    rfl
  · have moved : next.stalled = false := commits.stalled.trans (h.stalls_of_stalled stalled)
    rw [settled]
    unfold Core.settle
    split <;> exact moved

theorem tick_ne_complete (h : Orderly c) (stalls : c.stalls = true) : c.tick.1 ≠ .complete := by
  cases finished : c.isFinished with
  | false =>
      obtain ⟨sound, going⟩ := isFinished_eq_false_iff.1 finished
      rcases tick_cases sound going with ⟨fault, -, halted⟩ | ⟨next, _, _, commits, settled⟩
      · rw [halted]
        simp
      · have notEnd : next.atEnd = false := by
          simp [atEnd, commits.isDrained_of_stalls stalls]
        rw [settled, Core.settle, notEnd]
        simp
  | true =>
      cases fault : c.fault with
      | some fault =>
          rw [tick_of_fault fault]
          simp
      | none =>
          have complete : c.complete = true := by simpa [isFinished, fault] using finished
          have drained := (h.done complete).2
          simp [isDrained, (busy_of_stalls stalls).2] at drained

end Orderly

theorem stalled_of_status (h : c.status = .stalled) : c.stalled = true := by
  unfold status at h
  split at h
  · cases h
  · split at h
    · cases h
    · split at h
      · assumption
      · cases h

end Core

namespace Simulator

variable {p : Program} {config : Config} {sim : Simulator}

theorem orderly_create (created : create p config = .ok sim) : sim.core.Orderly := by
  rw [create_core created]
  exact
    { exclusive := Nat.zero_le 1
      waits := fun stalled => by cases stalled
      done := fun complete => by cases complete }

/-- After any number of ticks at most one of the marks of a core is set.  One that has waited for a
load does not wait in the next tick, one that is complete is empty and at the end of the program,
and a tick that waits for a load never completes. -/
theorem marks_exclusive (created : create p config = .ok sim) (n : Nat) :
    let c := Core.ticks n sim.core
    c.Orderly ∧ (c.stalled = true → c.stalls = false ∧ c.tick.2.stalled = false) ∧
      (c.status = .stalled → c.tick.2.status ≠ .stalled) ∧
      (c.stalls = true → c.tick.1 ≠ .complete) := by
  intro c
  have orderly : c.Orderly := (orderly_create created).ticks n
  refine ⟨orderly, fun stalled => ?_, fun waited waits => ?_, orderly.tick_ne_complete⟩
  · exact ⟨orderly.stalls_of_stalled stalled, orderly.stalled_tick stalled⟩
  · have moved := orderly.stalled_tick (Core.stalled_of_status waited)
    rw [Core.stalled_of_status waits] at moved
    cases moved

/-- A branch to the end of the program, over a load and a use of it: in the cycle of the branch the
use waits for the load. -/
def skipped : Program := ⟨#[0x00000863, 0x00002083, 0x00108113, 0x00000013], by decide⟩

def skippedSim : Simulator := { core := Core.boot skipped 16, maxCycles := none }

theorem skipped_waits_at_end :
    create skipped { dataSize := 16 } = .ok skippedSim ∧
      (Core.ticks 3 skippedSim.core).stalls = true ∧
      (Core.ticks 4 skippedSim.core).pc = (Core.ticks 4 skippedSim.core).endPc ∧
      (Core.ticks 3 skippedSim.core).tick.1 ≠ .complete ∧
      (Core.ticks 4 skippedSim.core).status = .stalled ∧
      (Core.ticks 5 skippedSim.core).status ≠ .stalled ∧
      (Core.ticks 5 skippedSim.core).isDrained = true := by
  have created : create skipped { dataSize := 16 } = .ok skippedSim := by decide
  have stalls : (Core.ticks 3 skippedSim.core).stalls = true := by decide
  have waited : (Core.ticks 4 skippedSim.core).status = .stalled := by decide
  exact ⟨created, stalls, by decide, (marks_exclusive created 3).2.2.2 stalls, waited,
    (marks_exclusive created 4).2.2.1 waited, ((marks_exclusive created 5).1.done (by decide)).2⟩

end Simulator

end FiveStage
