import FiveStage.Proofs.Pipeline.Position
import FiveStage.Proofs.Pipeline.Retirement

/-!
# How a run of the core ends

A core that ticks ends just as the sequential machine does: it completes if that machine reaches
the end of the program, stops on the fault on which that machine stops, and goes on for ever if that
machine does.  `outcome_iff_sequential` says so, with what registers and memory hold in the end.
-/

namespace FiveStage

namespace Core

variable {c next : Core} {k n : Nat}

/-! ## The first cycle that ends a run -/

theorem tick_tick (ended : c.tick.1 ≠ .running) : c.tick.2.tick = c.tick := by
  cases finished : c.isFinished with
  | true => rw [(tick_of_isFinished finished).1]
  | false =>
      obtain ⟨running, going⟩ := isFinished_eq_false_iff.1 finished
      rcases tick_cases running going with ⟨fault, -, halted⟩ | ⟨next, _, _, commits, settled⟩
      · rw [halted]
        exact tick_of_fault rfl
      · rw [settled] at ended ⊢
        unfold settle at ended ⊢
        split at ended
        next atEnd =>
          rw [if_pos atEnd]
          exact tick_of_complete (commits.fault.trans running) rfl
        · exact absurd rfl ended

theorem tick_ticks_of_ended (ended : (ticks k c).tick.1 ≠ .running) (le : k ≤ n) :
    (ticks n c).tick = (ticks k c).tick := by
  obtain ⟨extra, rfl⟩ := Nat.exists_eq_add_of_le le
  clear le
  induction extra with
  | zero => rfl
  | succ extra ih =>
      rw [← Nat.add_assoc, ticks_succ, ih, tick_tick ended]

theorem ticks_of_ended (ended : (ticks k c).tick.1 ≠ .running) (lt : k < n) :
    ticks n c = (ticks k c).tick.2 := by
  obtain ⟨m, rfl⟩ : ∃ m, n = m + 1 := ⟨n - 1, by omega⟩
  rw [ticks_succ, tick_ticks_of_ended ended (by omega)]

theorem exists_first_end (ended : (ticks k c).tick.1 ≠ .running) :
    ∃ t ≤ k, (∀ i < t, (ticks i c).tick.1 = .running) ∧ (ticks t c).tick.1 ≠ .running := by
  induction k using Nat.strongRecOn with
  | ind k ih =>
      by_cases before : ∀ i < k, (ticks i c).tick.1 = .running
      · exact ⟨k, Nat.le_refl _, before, ended⟩
      · simp only [Classical.not_forall] at before
        obtain ⟨i, lt, stopped⟩ := before
        obtain ⟨t, le, first, stop⟩ := ih i lt stopped
        exact ⟨t, by omega, first, stop⟩

end Core

/-! ## A running core -/

structure Runs (s : MachineState) (p : Program) (c : Core) (g : StageCounts) : Prop where
  tracks : Tracks s p c g
  onTime : OnTime s p c g
  running : c.fault = none
  going : c.complete = false

namespace Runs

variable {s : MachineState} {p : Program} {c : Core} {g : StageCounts} {fault : Fault}

theorem tick_cases (small : p.size < 2 ^ 60) (r : Runs s p c g) :
    (∃ fault, c.evaluate = .error fault ∧ c.tick = (.halted fault, c.halt fault)) ∨
      ∃ next g' fetched access, c.Commits next fetched access ∧ Runs s p next g' ∧
        c.tick = next.settle := by
  rcases Core.tick_cases r.running r.going with halted | ⟨next, fetched, access, commits, settled⟩
  · exact .inl halted
  · obtain ⟨g', advances, tracks⟩ := r.tracks.step small commits
    refine .inr ⟨next, g', fetched, access, commits, ?_, settled⟩
    exact
      { tracks
        onTime := r.onTime.step r.tracks tracks commits.clock advances
        running := commits.fault.trans r.running
        going := commits.complete.trans r.going }

theorem faulted_of_error (small : p.size < 2 ^ 60) (r : Runs s p c g)
    (failed : c.evaluate = .error fault) : (s.after p g.accessed).step p = .faulted fault := by
  rw [MachineState.step_eq_faulted_iff]
  rcases (r.onTime.evaluate_eq_error_iff small r.tracks).1 failed with ⟨fetch, -⟩ | ⟨faults, -⟩
  · exact .inl fetch
  · exact .inr faults

/-- The clock of a running core never gets ahead of the instructions that it has to wait for. -/
theorem clock_le (r : Runs s p c g) (notEnd : c.atEnd = false) :
    c.clock ≤ s.retireCycle p g.accessed := by
  by_cases finished : (s.after p g.accessed).step p = .finished
  · rcases Nat.eq_or_lt_of_le r.tracks.memWb.le.1 with idle | busy
    · have atEnd : c.atEnd = true := by
        rw [r.onTime.atEnd_iff r.tracks r.tracks.reached finished]
        intro k lt
        have := r.onTime.past k (by omega)
        exact ⟨by omega, fun _ => this⟩
      rw [atEnd] at notEnd
      cases notEnd
    · have order := r.tracks.memWb.le
      have due := r.onTime.memWb (by omega)
      have later := MachineState.retireCycle_le (s := s) (p := p) order.1
      omega
  · have := r.onTime.due r.tracks finished
    omega

end Runs

theorem MachineState.after_of_unknown {s : MachineState} {p : Program} {m n : Nat} (le : m ≤ n)
    (reaches : s.Executes p n) (unknown : ∀ k, m ≤ k → k < n → s.isKnownAt p k = false) :
    (s.after p n).registers = (s.after p m).registers ∧
      (s.after p n).memory = (s.after p m).memory := by
  obtain ⟨extra, rfl⟩ := Nat.exists_eq_add_of_le le
  clear le
  induction extra with
  | zero => exact ⟨rfl, rfl⟩
  | succ extra ih =>
      obtain ⟨execution, next, step⟩ := reaches (m + extra) (by omega)
      obtain ⟨word, found, done⟩ := step_eq_executed_iff.1 step
      have bubble : (Control.ofCode word.opcode).isBubble = true := by
        simpa [isKnownAt_eq found, isKnown_eq] using unknown (m + extra) (by omega) (by omega)
      rw [execute_of_bubble bubble] at done
      cases done
      rw [← Nat.add_assoc, after_succ step]
      exact ih (reaches.mono (by omega)) fun k low high => unknown k low (by omega)

namespace Simulator

variable {p : Program} {config : Config} {sim : Simulator} {k n : Nat} {fault : Fault}

theorem runs_create (created : create p config = .ok sim) :
    Runs sim.reference p sim.core ⟨0, 0, 0, 0, 0⟩ := by
  have tracks := tracks_create created
  have core := create_core created
  exact
    { tracks
      onTime :=
        { past := fun k lt => absurd lt (Nat.not_lt_zero k)
          memWb := nofun
          exMem := nofun
          idEx := nofun
          ifId := nofun
          fresh := fun _ _ => by rw [core]; rfl }
      running := by rw [core]; rfl
      going := by rw [core]; rfl }

theorem atEnd_create (small : p.size < 2 ^ 60) (created : create p config = .ok sim) :
    sim.core.atEnd = false := by
  obtain ⟨word, found⟩ := Program.fetchWord_zero small
  have away : (0 : Doubleword) ≠ p.endPc := by
    intro same
    rw [same, Program.fetchWord_eq_none_iff.2 rfl] at found
    cases found
  have pc : sim.core.pc = 0 := by rw [create_core created]; rfl
  have program : sim.core.program = p := (tracks_create created).program
  simp only [Core.atEnd, Core.endPc, pc, program, beq_eq_false_iff_ne.2 away, Bool.false_and]

theorem exists_runs (small : p.size < 2 ^ 60) (created : create p config = .ok sim)
    (on : ∀ i < n, (Core.ticks i sim.core).tick.1 = .running) :
    ∃ g, Runs sim.reference p (Core.ticks n sim.core) g ∧ (Core.ticks n sim.core).clock = n ∧
      (Core.ticks n sim.core).atEnd = false := by
  induction n with
  | zero =>
      refine ⟨_, runs_create created, ?_, atEnd_create small created⟩
      change sim.core.clock = 0
      rw [create_core created]
      rfl
  | succ n ih =>
      obtain ⟨g, runs, clock, -⟩ := ih fun i lt => on i (by omega)
      have going := on n n.lt_succ_self
      rw [Core.ticks_succ]
      rcases runs.tick_cases small with
        ⟨fault, -, halted⟩ | ⟨next, g', fetched, access, commits, runs', settled⟩
      · rw [halted] at going
        cases going
      · rw [settled] at going ⊢
        unfold Core.settle at going ⊢
        split at going
        · cases going
        next notEnd =>
          rw [if_neg notEnd]
          exact ⟨g', runs', by rw [commits.clock, clock], by simpa using notEnd⟩

inductive Ending (s : MachineState) (p : Program) (c : Core) : Prop where
  | halts (fault : Fault) (failed : c.evaluate = .error fault)
      (tick : c.tick = (.halted fault, c.halt fault))
  | completes (next : Core) (g : StageCounts) (runs : Runs s p next g)
      (clock : next.clock = c.clock + 1) (atEnd : next.atEnd = true)
      (tick : c.tick = (.complete, { next with complete := true }))

theorem exists_ending (small : p.size < 2 ^ 60) (created : create p config = .ok sim)
    (ended : (Core.ticks k sim.core).tick.1 ≠ .running) :
    ∃ t g, t ≤ k ∧ (∀ i < t, (Core.ticks i sim.core).tick.1 = .running) ∧
      Runs sim.reference p (Core.ticks t sim.core) g ∧ (Core.ticks t sim.core).clock = t ∧
      (Core.ticks t sim.core).atEnd = false ∧
      (Core.ticks k sim.core).tick = (Core.ticks t sim.core).tick ∧
      Ending sim.reference p (Core.ticks t sim.core) := by
  obtain ⟨t, le, on, stop⟩ := Core.exists_first_end ended
  obtain ⟨g, runs, clock, notEnd⟩ := exists_runs small created on
  refine ⟨t, g, le, on, runs, clock, notEnd, Core.tick_ticks_of_ended stop le, ?_⟩
  rcases runs.tick_cases small with
    ⟨fault, failed, halted⟩ | ⟨next, g', fetched, access, commits, runs', settled⟩
  · exact .halts fault failed halted
  · rw [settled] at stop
    unfold Core.settle at settled stop
    split at stop
    next atEnd =>
      rw [if_pos atEnd] at settled
      exact .completes next g' runs' commits.clock atEnd settled
    · exact absurd rfl stop

/-! ## The three outcomes -/

theorem finished_of_complete (small : p.size < 2 ^ 60) (created : create p config = .ok sim)
    (ended : (Core.ticks k sim.core).tick.1 = .complete) :
    ∃ n, (sim.reference.after p n).step p = .finished ∧
      (Core.ticks (k + 1) sim.core).registers = (sim.reference.after p n).registers ∧
      (Core.ticks (k + 1) sim.core).memory = (sim.reference.after p n).memory := by
  obtain ⟨t, g, -, -, -, -, -, same, ending⟩ :=
    exists_ending (k := k) small created (by simp [ended])
  cases ending with
  | halts fault _ tick =>
      rw [same, tick] at ended
      cases ended
  | completes next g' runs _ atEnd tick =>
      obtain ⟨-, straight, unknown, stop⟩ := runs.tracks.of_atEnd atEnd
      have order := runs.tracks.order
      have reaches := straight.executes runs.tracks.reached
      refine ⟨g'.fetched, stop, ?_⟩
      rw [Core.ticks_succ, same, tick]
      constructor
      · rw [(MachineState.after_of_unknown (by omega) reaches unknown).1]
        exact runs.tracks.registers
      · rw [(MachineState.after_of_unknown (m := g'.accessed) (by omega) reaches fun k low lt =>
          unknown k (by omega) lt).2]
        exact runs.tracks.memory

theorem faulted_of_halted (small : p.size < 2 ^ 60) (created : create p config = .ok sim)
    (ended : (Core.ticks k sim.core).tick.1 = .halted fault) :
    ∃ n, (sim.reference.after p n).step p = .faulted fault ∧
      (Core.ticks (k + 1) sim.core).memory = (sim.reference.after p n).memory ∧
      (Core.ticks (k + 1) sim.core).registers.apply (Core.ticks (k + 1) sim.core).retiring =
        (sim.reference.after p n).registers := by
  obtain ⟨t, g, -, -, runs, -, -, same, ending⟩ :=
    exists_ending (k := k) small created (by simp [ended])
  cases ending with
  | halts fault' failed tick =>
      rw [same, tick] at ended
      cases ended
      refine ⟨g.accessed, runs.faulted_of_error small failed, ?_⟩
      rw [Core.ticks_succ, same, tick]
      exact ⟨runs.tracks.memory, runs.tracks.registers_retiring⟩
  | completes _ _ _ _ _ tick =>
      rw [same, tick] at ended
      cases ended

theorem executed_of_running (small : p.size < 2 ^ 60) (created : create p config = .ok sim)
    (on : ∀ k, (Core.ticks k sim.core).tick.1 = .running) (n : Nat) :
    ∃ execution next, (sim.reference.after p n).step p = .executed execution next := by
  apply Classical.byContradiction
  intro none
  have stopped : ∀ execution next,
      (sim.reference.after p n).step p ≠ .executed execution next :=
    fun execution next step => none ⟨execution, next, step⟩
  -- By then the instruction at which the machine stops is long past its cycle.
  obtain ⟨g, runs, clock, notEnd⟩ :=
    exists_runs (n := sim.reference.retireCycle p n + 1) small created fun i _ => on i
  have behind := runs.clock_le notEnd
  have before := runs.tracks.reached.le_of_stopped stopped
  have later := MachineState.retireCycle_le (s := sim.reference) (p := p) before
  omega

theorem exists_end (small : p.size < 2 ^ 60) (created : create p config = .ok sim)
    (stopped : ∀ execution next,
      (sim.reference.after p n).step p ≠ .executed execution next) :
    ∃ k, (Core.ticks k sim.core).tick.1 ≠ .running := by
  apply Classical.byContradiction
  intro none
  simp only [ne_eq, not_exists, Classical.not_not] at none
  obtain ⟨execution, next, step⟩ := executed_of_running small created none n
  exact stopped execution next step

theorem complete_of_finished (small : p.size < 2 ^ 60) (created : create p config = .ok sim)
    (stop : (sim.reference.after p n).step p = .finished) :
    ∃ k, (Core.ticks k sim.core).tick.1 = .complete := by
  obtain ⟨k, ended⟩ := exists_end (n := n) small created (by simp [stop])
  refine ⟨k, ?_⟩
  cases outcome : (Core.ticks k sim.core).tick.1 with
  | running => exact absurd outcome ended
  | complete => rfl
  | halted fault =>
      obtain ⟨m, stop', -⟩ := faulted_of_halted small created outcome
      rw [MachineState.after_eq_of_stopped (i := m) (j := n) (by simp [stop']) (by simp [stop]),
        stop] at stop'
      cases stop'

theorem halted_of_faulted (small : p.size < 2 ^ 60) (created : create p config = .ok sim)
    (stop : (sim.reference.after p n).step p = .faulted fault) :
    ∃ k, (Core.ticks k sim.core).tick.1 = .halted fault := by
  obtain ⟨k, ended⟩ := exists_end (n := n) small created (by simp [stop])
  refine ⟨k, ?_⟩
  cases outcome : (Core.ticks k sim.core).tick.1 with
  | running => exact absurd outcome ended
  | complete =>
      obtain ⟨m, stop', -⟩ := finished_of_complete small created outcome
      rw [MachineState.after_eq_of_stopped (i := m) (j := n) (by simp [stop']) (by simp [stop]),
        stop] at stop'
      cases stop'
  | halted fault' =>
      obtain ⟨m, stop', -⟩ := faulted_of_halted small created outcome
      rw [MachineState.after_eq_of_stopped (i := m) (j := n) (by simp [stop']) (by simp [stop]),
        stop] at stop'
      cases stop'
      rfl

theorem running_of_executed (small : p.size < 2 ^ 60) (created : create p config = .ok sim)
    (on : ∀ n, ∃ execution next, (sim.reference.after p n).step p = .executed execution next)
    (k : Nat) : (Core.ticks k sim.core).tick.1 = .running := by
  cases outcome : (Core.ticks k sim.core).tick.1 with
  | running => rfl
  | complete =>
      obtain ⟨n, stop, -⟩ := finished_of_complete small created outcome
      obtain ⟨execution, next, step⟩ := on n
      rw [stop] at step
      cases step
  | halted fault =>
      obtain ⟨n, stop, -⟩ := faulted_of_halted small created outcome
      obtain ⟨execution, next, step⟩ := on n
      rw [stop] at step
      cases step

/-- The core completes just when the sequential machine reaches the end of the program, halts just
on the fault on which that machine stops, and goes on for ever just when that machine does.  At the
end registers and memory are those of the machine; on a fault so is memory, and the registers are
once the write that is still on its way is made. -/
theorem outcome_iff_sequential (small : p.size < 2 ^ 60) (created : create p config = .ok sim) :
    ((∃ k, (Core.ticks k sim.core).tick.1 = .complete) ↔
      ∃ n, (sim.reference.after p n).pc = p.endPc) ∧
    (∀ fault, (∃ k, (Core.ticks k sim.core).tick.1 = .halted fault) ↔
      ∃ n, (sim.reference.after p n).step p = .faulted fault) ∧
    ((∀ k, (Core.ticks k sim.core).tick.1 = .running) ↔
      ∀ n, ∃ execution next, (sim.reference.after p n).step p = .executed execution next) ∧
    (∀ k n, (Core.ticks k sim.core).tick.1 = .complete → (sim.reference.after p n).pc = p.endPc →
      (Core.ticks (k + 1) sim.core).registers = (sim.reference.after p n).registers ∧
      (Core.ticks (k + 1) sim.core).memory = (sim.reference.after p n).memory) ∧
    (∀ k n fault, (Core.ticks k sim.core).tick.1 = .halted fault →
      (sim.reference.after p n).step p = .faulted fault →
      (Core.ticks (k + 1) sim.core).memory = (sim.reference.after p n).memory ∧
      (Core.ticks (k + 1) sim.core).registers.apply (Core.ticks (k + 1) sim.core).retiring =
        (sim.reference.after p n).registers) := by
  have finished_iff : ∀ n, (sim.reference.after p n).pc = p.endPc ↔
      (sim.reference.after p n).step p = .finished := fun n => by
    rw [MachineState.step_eq_finished_iff, Program.fetchWord_eq_none_iff]
  simp only [finished_iff]
  refine ⟨⟨?_, ?_⟩, fun fault => ⟨?_, ?_⟩,
    ⟨executed_of_running small created, running_of_executed small created⟩, ?_, ?_⟩
  · rintro ⟨k, ended⟩
    obtain ⟨n, stop, -⟩ := finished_of_complete small created ended
    exact ⟨n, stop⟩
  · rintro ⟨n, stop⟩
    exact complete_of_finished small created stop
  · rintro ⟨k, ended⟩
    obtain ⟨n, stop, -⟩ := faulted_of_halted small created ended
    exact ⟨n, stop⟩
  · rintro ⟨n, stop⟩
    exact halted_of_faulted small created stop
  -- The machine may be looked at anywhere behind its stop: the state there is one and the same.
  · intro k n ended stop
    obtain ⟨m, stop', state⟩ := finished_of_complete small created ended
    rw [MachineState.after_eq_of_stopped (i := n) (j := m) (by simp [stop]) (by simp [stop'])]
    exact state
  · intro k n fault ended stop
    obtain ⟨m, stop', state⟩ := faulted_of_halted small created ended
    rw [MachineState.after_eq_of_stopped (i := n) (j := m) (by simp [stop]) (by simp [stop'])]
    exact state

theorem sample_completes :
    sampleProgram.size < 2 ^ 60 ∧ create sampleProgram sampleConfig = .ok sample ∧
      (sample.reference.after sampleProgram 4).pc = sampleProgram.endPc ∧
      ∃ k, (Core.ticks k sample.core).tick.1 = .complete :=
  have small : sampleProgram.size < 2 ^ 60 := by decide
  have created : create sampleProgram sampleConfig = .ok sample := by decide
  have atEnd : (sample.reference.after sampleProgram 4).pc = sampleProgram.endPc := by decide
  ⟨small, created, atEnd, (outcome_iff_sequential small created).1.2 ⟨4, atEnd⟩⟩

end Simulator

end FiveStage
