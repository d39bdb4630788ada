import FiveStage.Proofs.Pipeline.Outcome

/-!
# Wrong-path instructions are invisible

Behind a transfer of control or a fault the front of the pipeline works on words that the
sequential machine never reads.  `wrongPath_invisible` compares two programs that differ only in
such words: their cores agree, cycle by cycle, in everything behind execute and in every counter of
committed work.
-/

namespace FiveStage

/-! ## Programs that a run cannot tell apart -/

/-- The program `q` is as long as `p` and has the words of `p` that the run from `s` reads. -/
structure Program.AgreesOnRun (q p : Program) (s : MachineState) : Prop where
  size : q.size = p.size
  reads : ∀ n word, p.wordAt? (s.after p n).pc = some word →
    q.wordAt? (s.after p n).pc = some word

namespace Program

variable {p q : Program} {pc : Doubleword}

theorem wordAt?_congr (size : q.size = p.size)
    (reads : ∀ word, p.wordAt? pc = some word → q.wordAt? pc = some word) :
    q.wordAt? pc = p.wordAt? pc := by
  cases found : p.wordAt? pc with
  | some word => exact reads word found
  | none =>
      rw [wordAt?_eq_none_iff] at found ⊢
      rwa [size]

theorem fetchWord_congr (size : q.size = p.size) (same : q.wordAt? pc = p.wordAt? pc) :
    q.fetchWord pc = p.fetchWord pc := by
  have ends : q.endPc = p.endPc := by rw [endPc, endPc, size]
  rw [fetchWord, fetchWord, ends, same]

end Program

namespace Program.AgreesOnRun

variable {p q : Program} {s : MachineState} {n : Nat}

theorem wordAt?_eq (a : q.AgreesOnRun p s) (n : Nat) :
    q.wordAt? (s.after p n).pc = p.wordAt? (s.after p n).pc :=
  wordAt?_congr a.size (a.reads n)

theorem fetchWord_eq (a : q.AgreesOnRun p s) (n : Nat) :
    q.fetchWord (s.after p n).pc = p.fetchWord (s.after p n).pc :=
  fetchWord_congr a.size (a.wordAt?_eq n)

theorem step_eq (a : q.AgreesOnRun p s) (n : Nat) :
    (s.after p n).step q = (s.after p n).step p := by
  simp only [MachineState.step, a.fetchWord_eq n]

theorem after_eq (a : q.AgreesOnRun p s) (n : Nat) : s.after q n = s.after p n := by
  induction n with
  | zero => rfl
  | succ n ih =>
      have same : (s.after q n).step q = (s.after p n).step p := by rw [ih, a.step_eq]
      cases step : (s.after p n).step p with
      | executed execution next =>
          rw [MachineState.after_succ step, MachineState.after_succ (same.trans step)]
      | finished | faulted fault =>
          have stopped : ∀ execution next,
              (s.after p n).step p ≠ .executed execution next := by simp [step]
          rw [MachineState.after_of_stopped stopped n.le_succ,
            MachineState.after_of_stopped (same ▸ stopped) n.le_succ, ih]

theorem of_finished {m : Nat} (small : p.size < 2 ^ 60) (size : q.size = p.size)
    (stop : (s.after p m).step p = .finished)
    (reads : ∀ n < m, q.wordAt? (s.after p n).pc = p.wordAt? (s.after p n).pc) :
    q.AgreesOnRun p s where
  size
  reads n word found := by
    rcases Nat.lt_or_ge n m with lt | ge
    · rw [reads n lt, found]
    · rw [MachineState.after_of_stopped (by simp [stop]) ge, ← fetchWord_eq_some_iff small] at found
      rw [MachineState.step_eq_finished_iff, found] at stop
      cases stop

theorem symm (a : q.AgreesOnRun p s) : p.AgreesOnRun q s where
  size := a.size.symm
  reads n word found := by rwa [a.after_eq, ← a.wordAt?_eq, ← a.after_eq]

theorem executes_iff (a : q.AgreesOnRun p s) : s.Executes q n ↔ s.Executes p n := by
  simp only [MachineState.Executes, a.after_eq, a.step_eq]

theorem starts_iff (a : q.AgreesOnRun p s) : s.Starts q n ↔ s.Starts p n := by
  simp only [MachineState.Starts, a.executes_iff, a.after_eq, a.step_eq]

theorem isKnownAt_eq (a : q.AgreesOnRun p s) : s.isKnownAt q n = s.isKnownAt p n := by
  simp only [MachineState.isKnownAt, a.after_eq, a.wordAt?_eq]

theorem retireCycle_eq (a : q.AgreesOnRun p s) : s.retireCycle q n = s.retireCycle p n := by
  induction n with
  | zero => rfl
  | succ n ih =>
      have delays : s.delays q n = s.delays p n := by
        simp only [MachineState.delays, a.after_eq, a.wordAt?_eq]
      have transfers : s.transfers q n = s.transfers p n := by
        simp only [MachineState.transfers, a.after_eq, a.step_eq]
      rw [MachineState.retireCycle, MachineState.retireCycle, ih, delays, transfers]

end Program.AgreesOnRun

/-! ## Counters of committed work -/

def Statistics.committed (s : Statistics) : Statistics :=
  { s with loadUseStalls := 0, forwardsExMem := 0, forwardsMemWb := 0, squashed := 0 }

namespace Statistics

@[simp] theorem committed_countStall (s : Statistics) (stall : Bool) :
    (s.countStall stall).committed = s.committed := by
  cases stall <;> rfl

@[simp] theorem committed_countForward (s : Statistics) (source : ForwardSource) :
    (s.countForward source).committed = s.committed := by
  cases source <;> rfl

@[simp] theorem committed_countRetirement (s : Statistics) (retirement : Option Retirement) :
    (s.countRetirement retirement).committed = s.committed.countRetirement retirement := by
  cases retirement with
  | none => rfl
  | some r =>
      simp only [countRetirement]
      split_ifs <;> rfl

end Statistics

theorem Core.committed_countCycle (c : Core) (cycle : Cycle) :
    (c.countCycle cycle).committed =
      { c.stats.committed with
        cycles := c.stats.committed.cycles + 1
        flushes := c.stats.committed.flushes + cycle.access.redirect.isSome.toNat
        : Statistics }.countRetirement cycle.retirement := by
  simp only [countCycle, Statistics.committed_countRetirement, Statistics.committed_countForward,
    Statistics.committed_countStall]
  cases cycle.access.redirect <;> rfl

theorem Core.committed_halt (c : Core) (fault : Fault) :
    (c.halt fault).stats.committed =
      { c.stats.committed with cycles := c.stats.committed.cycles + 1 } := rfl

/-! ## Cores that agree behind execute -/

structure Core.Alike (c d : Core) : Prop where
  clock : d.clock = c.clock
  registers : d.registers = c.registers
  memory : d.memory = c.memory
  exMem : d.exMem = c.exMem
  memWb : d.memWb = c.memWb
  fault : d.fault = c.fault
  complete : d.complete = c.complete
  stats : d.stats.committed = c.stats.committed

theorem MemWb.ResultOf.unique {latch latch' : MemWb} {p : Program} {s : MachineState}
    (h : latch.ResultOf p s) (h' : latch'.ResultOf p s) : latch' = latch := by
  obtain ⟨word, result, found, accessed, rfl⟩ := h
  obtain ⟨word', result', found', accessed', rfl⟩ := h'
  rw [found] at found'
  cases found'
  rw [accessed] at accessed'
  cases accessed'
  rfl

theorem ExMem.ResultOf.unique {latch latch' : ExMem} {p : Program} {s : MachineState}
    (h : latch.ResultOf p s) (h' : latch'.ResultOf p s) : latch' = latch := by
  obtain ⟨word, found, rfl⟩ := h
  obtain ⟨word', found', rfl⟩ := h'
  rw [found] at found'
  cases found'
  rfl

theorem Tracks.starts_of_lt_executed {s : MachineState} {p : Program} {c : Core} {g : StageCounts}
    {k : Nat} (h : Tracks s p c g) (lt : k < g.executed) : s.Starts p k := by
  rcases Nat.lt_or_ge k g.accessed with before | behind
  · obtain ⟨execution, next, step⟩ := h.reached k before
    exact MachineState.starts_of_step step
  · have order := h.exMem.le
    obtain rfl : k = g.accessed := by omega
    exact (h.exMem_isEmpty (by omega)).1

theorem Slot.unique {latch : Type} {x y empty : latch} {busy : latch → Prop} {behind ahead : Nat}
    (one : ∀ {x y}, busy x → busy y → y = x) (h : Slot behind ahead (x = empty) (busy x))
    (h' : Slot behind ahead (y = empty) (busy y)) : y = x := by
  rcases h with ⟨idle, rfl⟩ | ⟨more, held⟩
  · rcases h' with ⟨-, rfl⟩ | ⟨more, -⟩
    · rfl
    · omega
  · rcases h' with ⟨idle, -⟩ | ⟨-, held'⟩
    · omega
    · exact one held held'

theorem Program.AgreesOnRun.count_le {p q : Program} {s : MachineState} {x y n : Nat}
    (a : q.AgreesOnRun p s) (started : ∀ k < x, s.Starts p k)
    (left : ∀ k, s.Starts p k → (k < x ↔ s.retireCycle p k ≤ n))
    (right : ∀ k, s.Starts q k → (k < y ↔ s.retireCycle q k ≤ n)) : x ≤ y := by
  refine Nat.le_of_not_lt fun lt => Nat.lt_irrefl y ?_
  have starts := started y lt
  rw [right y (a.starts_iff.2 starts), a.retireCycle_eq]
  exact (left y starts).1 lt

namespace Runs

variable {s : MachineState} {p q : Program} {c d next next' : Core} {g g' : StageCounts}
  {fault : Fault}

theorem counts_le (a : q.AgreesOnRun p s) (left : Runs s p c g) (right : Runs s q d g')
    (clock : d.clock = c.clock) :
    g.retired ≤ g'.retired ∧ g.accessed ≤ g'.accessed ∧ g.executed ≤ g'.executed := by
  have order := left.tracks.order
  have started : ∀ k < g.executed, s.Starts p k := fun k => left.tracks.starts_of_lt_executed
  have l := left.onTime
  have r := right.onTime
  exact
    ⟨a.count_le (fun k lt => started k (by omega)) (fun k => l.lt_retired_iff left.tracks)
        (fun k => clock ▸ r.lt_retired_iff right.tracks),
      a.count_le (fun k lt => started k (by omega)) (fun k => l.lt_accessed_iff left.tracks)
        (fun k => clock ▸ r.lt_accessed_iff right.tracks),
      a.count_le started (fun k => l.lt_executed_iff left.tracks)
        (fun k => clock ▸ r.lt_executed_iff right.tracks)⟩

theorem counts_eq (a : q.AgreesOnRun p s) (left : Runs s p c g) (right : Runs s q d g')
    (clock : d.clock = c.clock) :
    g'.retired = g.retired ∧ g'.accessed = g.accessed ∧ g'.executed = g.executed := by
  obtain ⟨retired, accessed, executed⟩ := counts_le a left right clock
  obtain ⟨retired', accessed', executed'⟩ := counts_le a.symm right left clock.symm
  exact ⟨Nat.le_antisymm retired' retired, Nat.le_antisymm accessed' accessed,
    Nat.le_antisymm executed' executed⟩

theorem alike (a : q.AgreesOnRun p s) (left : Runs s p c g) (right : Runs s q d g')
    (clock : d.clock = c.clock) (stats : d.stats.committed = c.stats.committed) :
    c.Alike d := by
  obtain ⟨retired, accessed, executed⟩ := counts_eq a left right clock
  have exMem := right.tracks.exMem
  rw [ExMem.ResultOf, a.after_eq, a.fetchWord_eq, accessed, executed] at exMem
  have memWb := right.tracks.memWb
  rw [MemWb.ResultOf, a.after_eq, a.fetchWord_eq, retired, accessed] at memWb
  exact
    { clock, stats
      registers := by
        rw [left.tracks.registers, right.tracks.registers, a.after_eq, retired]
      memory := by rw [left.tracks.memory, right.tracks.memory, a.after_eq, accessed]
      exMem := left.tracks.exMem.unique ExMem.ResultOf.unique exMem
      memWb := left.tracks.memWb.unique MemWb.ResultOf.unique memWb
      fault := right.running.trans left.running.symm
      complete := right.going.trans left.going.symm }

theorem evaluate_error (small : p.size < 2 ^ 60) (a : q.AgreesOnRun p s) (left : Runs s p c g)
    (right : Runs s q d g') (clock : d.clock = c.clock) (failed : c.evaluate = .error fault) :
    d.evaluate = .error fault := by
  obtain ⟨-, accessed, -⟩ := counts_eq a left right clock
  rw [left.onTime.evaluate_eq_error_iff small left.tracks] at failed
  rw [right.onTime.evaluate_eq_error_iff (a.size ▸ small) right.tracks, accessed, a.after_eq,
    a.fetchWord_eq, a.retireCycle_eq, clock]
  exact failed

theorem atEnd (a : q.AgreesOnRun p s) (left : Runs s p c g) (right : Runs s q d g')
    (clock : d.clock = c.clock) (atEnd : c.atEnd = true) : d.atEnd = true := by
  obtain ⟨-, straight, -, stop⟩ := left.tracks.of_atEnd atEnd
  have reaches := straight.executes left.tracks.reached
  have all := (left.onTime.atEnd_iff left.tracks reaches stop).1 atEnd
  rw [right.onTime.atEnd_iff right.tracks (a.executes_iff.2 reaches)
    (by rw [a.after_eq, a.step_eq, stop])]
  simpa only [a.retireCycle_eq, a.isKnownAt_eq, clock] using all

theorem stats_commit {fetched fetched' : Option Fetched} {access access' : AccessResult}
    (same : c.Alike d) (commits : c.Commits next fetched access)
    (commits' : d.Commits next' fetched' access') :
    next'.stats.committed = next.stats.committed := by
  have accessed := commits'.access_eq
  rw [same.exMem, same.memory, commits.access_eq] at accessed
  cases accessed
  have retirement : d.retirement? = c.retirement? := by
    rw [Core.retirement?, Core.retirement?, same.memWb]
  rw [commits.stats, commits'.stats, Core.committed_countCycle, Core.committed_countCycle,
    same.stats]
  simp only [Core.cycle, retirement]

end Runs

/-! ## Two cores in step -/

/-- Two cores are both still running, at the same clock, or have both ended alike. -/
inductive Lockstep (s : MachineState) (p q : Program) (c d : Core) : Prop where
  | running (g g' : StageCounts) (left : Runs s p c g) (right : Runs s q d g')
      (clock : d.clock = c.clock) (stats : d.stats.committed = c.stats.committed)
  | ended (finished : c.isFinished = true) (same : c.Alike d)

namespace Lockstep

variable {s : MachineState} {p q : Program} {c d next next' : Core} {g g' : StageCounts}

theorem alike (a : q.AgreesOnRun p s) (h : Lockstep s p q c d) : c.Alike d := by
  cases h with
  | running g g' left right clock stats => exact left.alike a right clock stats
  | ended _ same => exact same

theorem tick_ended (finished : c.isFinished = true) (same : c.Alike d) :
    d.tick.1 = c.tick.1 ∧ Lockstep s p q c.tick.2 d.tick.2 := by
  have finished' : d.isFinished = true := by
    rw [Core.isFinished, same.fault, same.complete]
    exact finished
  rw [(Core.tick_of_isFinished finished).1, (Core.tick_of_isFinished finished').1]
  refine ⟨?_, .ended finished same⟩
  cases fault : c.fault with
  | some fault' => rw [Core.tick_of_fault fault, Core.tick_of_fault (same.fault.trans fault)]
  | none =>
      have complete : c.complete = true := by simpa [Core.isFinished, fault] using finished
      rw [Core.tick_of_complete fault complete,
        Core.tick_of_complete (same.fault.trans fault) (same.complete.trans complete)]

theorem settle (a : q.AgreesOnRun p s) (left : Runs s p next g) (right : Runs s q next' g')
    (clock : next'.clock = next.clock) (stats : next'.stats.committed = next.stats.committed) :
    next'.settle.1 = next.settle.1 ∧ Lockstep s p q next.settle.2 next'.settle.2 := by
  have atEnd : next'.atEnd = next.atEnd := by
    rw [Bool.eq_iff_iff]
    exact ⟨right.atEnd a.symm left clock.symm, left.atEnd a right clock⟩
  unfold Core.settle
  rw [atEnd]
  split
  · refine ⟨rfl, .ended (by simp [Core.isFinished]) ?_⟩
    have same := left.alike a right clock stats
    exact ⟨clock, same.registers, same.memory, same.exMem, same.memWb, same.fault, rfl, stats⟩
  · exact ⟨rfl, .running g g' left right clock stats⟩

theorem tick (small : p.size < 2 ^ 60) (a : q.AgreesOnRun p s) (h : Lockstep s p q c d) :
    d.tick.1 = c.tick.1 ∧ Lockstep s p q c.tick.2 d.tick.2 := by
  have small' : q.size < 2 ^ 60 := a.size ▸ small
  cases h with
  | ended finished same => exact tick_ended finished same
  | running g g' left right clock stats =>
      have same := left.alike a right clock stats
      rcases left.tick_cases small with
        ⟨fault, failed, halted⟩ | ⟨next, g₁, fetched, access, commits, runs, settled⟩
      · have failed' := left.evaluate_error small a right clock failed
        rw [halted, Core.tick_of_error right.running right.going failed']
        refine ⟨rfl, .ended rfl ?_⟩
        have stats' : (d.halt fault).stats.committed = (c.halt fault).stats.committed := by
          rw [Core.committed_halt, Core.committed_halt, stats]
        exact ⟨congrArg (· + 1) clock, same.registers, same.memory, same.exMem, same.memWb, rfl,
          same.complete, stats'⟩
      · rcases right.tick_cases small' with
          ⟨fault, failed, -⟩ | ⟨next', g₂, fetched', access', commits', runs', settled'⟩
        · have failed' := right.evaluate_error small' a.symm left clock.symm failed
          rw [Core.evaluate_eq_ok_iff.2 ⟨fetched, access, commits.fetch, commits.access_eq, rfl⟩]
            at failed'
          cases failed'
        · rw [settled, settled']
          exact settle a runs runs' (by rw [commits.clock, commits'.clock, clock])
            (Runs.stats_commit same commits commits')

theorem ticks (small : p.size < 2 ^ 60) (a : q.AgreesOnRun p s) (h : Lockstep s p q c d)
    (n : Nat) : Lockstep s p q (Core.ticks n c) (Core.ticks n d) := by
  induction n with
  | zero => exact h
  | succ n ih =>
      rw [Core.ticks_succ, Core.ticks_succ]
      exact (ih.tick small a).2

end Lockstep

namespace Simulator

variable {p q : Program} {config : Config} {sim sim' : Simulator}

theorem reference_eq (created : create p config = .ok sim)
    (created' : create q config = .ok sim') : sim'.reference = sim.reference := by
  obtain ⟨-, -, memory, loaded, rfl⟩ := create_eq_ok_iff.1 created
  obtain ⟨-, -, memory', loaded', rfl⟩ := create_eq_ok_iff.1 created'
  rw [loaded] at loaded'
  cases loaded'
  rfl

theorem lockstep_create (created : create p config = .ok sim)
    (created' : create q config = .ok sim') :
    Lockstep sim.reference p q sim.core sim'.core := by
  have right := reference_eq created created' ▸ runs_create created'
  refine .running _ _ (runs_create created) right ?_ ?_
  · rw [create_core created, create_core created']
    rfl
  · rw [create_core created, create_core created']
    rfl

/-- Two programs of one length that agree on every word that the sequential machine reads cannot be
told apart by anything that their cores commit: after any number of cycles these agree in clock,
registers, memory, the latches behind execute, how they stand and the counters of committed work,
and the next cycle ends alike in both. -/
theorem wrongPath_invisible (small : p.size < 2 ^ 60) (created : create p config = .ok sim)
    (created' : create q config = .ok sim') (agrees : q.AgreesOnRun p sim.reference) (n : Nat) :
    (Core.ticks n sim.core).Alike (Core.ticks n sim'.core) ∧
      (Core.ticks n sim'.core).tick.1 = (Core.ticks n sim.core).tick.1 := by
  have together := (lockstep_create created created').ticks small agrees n
  exact ⟨together.alike agrees, (together.tick small agrees).1⟩

def sampleVariant : Program :=
  ⟨#[0x00002083, 0x00108113, 0x00000463, 0x00002103, 0x00202223], by decide⟩

def sampleVariantSim : Simulator :=
  { sample with core := { sample.core with program := sampleVariant } }

theorem sampleVariant_invisible :
    sampleProgram.size < 2 ^ 60 ∧ create sampleProgram sampleConfig = .ok sample ∧
      create sampleVariant sampleConfig = .ok sampleVariantSim ∧
      sampleVariant.AgreesOnRun sampleProgram sample.reference ∧
      (Core.ticks 9 sample.core).Alike (Core.ticks 9 sampleVariantSim.core) := by
  have small : sampleProgram.size < 2 ^ 60 := by decide
  have created : create sampleProgram sampleConfig = .ok sample := by decide
  have created' : create sampleVariant sampleConfig = .ok sampleVariantSim := by decide
  have agrees : sampleVariant.AgreesOnRun sampleProgram sample.reference :=
    .of_finished (m := 4) small rfl (by decide) (by decide)
  exact ⟨small, created, created', agrees, (wrongPath_invisible small created created' agrees 9).1⟩

end Simulator

end FiveStage
