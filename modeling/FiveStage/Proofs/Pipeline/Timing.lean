import FiveStage.Proofs.Pipeline.Outcome

/-!
# The cycles of a run

The schedule of the sequential run is exact: `timing_eq_schedule` says for every program and
configuration in which cycle each instruction retires, and in which cycle the run of the core ends.
-/

namespace FiveStage

namespace MachineState

variable {s : MachineState} {p : Program} {m n : Nat}

def lastKnown? (s : MachineState) (p : Program) : Nat → Option Nat
  | 0 => none
  | m + 1 => if s.isKnownAt p m then some m else s.lastKnown? p m

/-- The cycle in which a run of `m` instructions comes to its end: the last known instruction has
to retire, and the last one of all, known or not, has to be decoded. -/
def completionCycle (s : MachineState) (p : Program) (m : Nat) : Nat :=
  let decoded := s.retireCycle p (m - 1) - 3
  match s.lastKnown? p m with
  | some k => max (s.retireCycle p k) decoded
  | none => decoded

theorem lastKnown?_eq_none_iff : s.lastKnown? p m = none ↔ ∀ k < m, s.isKnownAt p k = false := by
  induction m with
  | zero => simp [lastKnown?]
  | succ m ih =>
      rw [lastKnown?]
      constructor
      · intro none k lt
        split at none
        · cases none
        next unknown =>
          rcases Nat.eq_or_lt_of_le (Nat.le_of_lt_succ lt) with rfl | before
          · simpa using unknown
          · exact ih.1 none k before
      · intro unknown
        rw [if_neg (by simp [unknown m m.lt_succ_self])]
        exact ih.2 fun k lt => unknown k (by omega)

theorem lastKnown?_eq_some {k : Nat} (last : s.lastKnown? p m = some k) :
    k < m ∧ s.isKnownAt p k = true ∧ ∀ j < m, s.isKnownAt p j = true → j ≤ k := by
  induction m with
  | zero => cases last
  | succ m ih =>
      rw [lastKnown?] at last
      split at last
      next known =>
        cases last
        exact ⟨by omega, known, fun j lt _ => Nat.le_of_lt_succ lt⟩
      next unknown =>
        obtain ⟨lt, known, latest⟩ := ih last
        refine ⟨by omega, known, fun j lt' known' => ?_⟩
        rcases Nat.eq_or_lt_of_le (Nat.le_of_lt_succ lt') with rfl | before
        · exact absurd known' unknown
        · exact latest j before known'

theorem lastKnown?_le_iff :
    (∀ k < m, s.isKnownAt p k = true → s.retireCycle p k ≤ n) ↔
      ∀ k, s.lastKnown? p m = some k → s.retireCycle p k ≤ n := by
  constructor
  · intro all k last
    obtain ⟨lt, known, -⟩ := lastKnown?_eq_some last
    exact all k lt known
  · intro late k lt known
    cases last : s.lastKnown? p m with
    | none => simp [lastKnown?_eq_none_iff.1 last k lt] at known
    | some j =>
        obtain ⟨-, -, latest⟩ := lastKnown?_eq_some last
        exact Nat.le_trans (retireCycle_le (latest k lt known)) (late j last)

theorem completionCycle_le_iff (pos : 0 < m) :
    s.completionCycle p m ≤ n ↔ ∀ k < m, s.retireCycle p k ≤ n + 3 ∧
      (s.isKnownAt p k = true → s.retireCycle p k ≤ n) := by
  have decoded : s.retireCycle p (m - 1) - 3 ≤ n ↔ ∀ k < m, s.retireCycle p k ≤ n + 3 := by
    constructor
    · intro le k lt
      have := retireCycle_le (s := s) (p := p) (show k ≤ m - 1 by omega)
      omega
    · intro all
      have := all (m - 1) (by omega)
      omega
  have parts : s.completionCycle p m ≤ n ↔ (s.retireCycle p (m - 1) - 3 ≤ n ∧
      ∀ k, s.lastKnown? p m = some k → s.retireCycle p k ≤ n) := by
    unfold completionCycle
    cases s.lastKnown? p m with
    | none => simp
    | some k =>
        simp only [Nat.max_le, Option.some.injEq, forall_eq']
        exact and_comm
  rw [parts, decoded, ← lastKnown?_le_iff]
  constructor
  · rintro ⟨all, known⟩ k lt
    exact ⟨all k lt, known k lt⟩
  · intro all
    exact ⟨fun k lt => (all k lt).1, fun k lt => (all k lt).2⟩

theorem pos_of_finished (small : p.size < 2 ^ 60) (start : s.pc = 0)
    (stop : (s.after p n).step p = .finished) : 0 < n := by
  rcases Nat.eq_zero_or_pos n with rfl | pos
  · obtain ⟨word, found⟩ := Program.fetchWord_zero small
    rw [step_eq_finished_iff, after_zero, start, found] at stop
    cases stop
  · exact pos

theorem transfers_of_fetch_error {fault : Fault} (small : p.size < 2 ^ 60)
    (reaches : s.Executes p (n + 1)) (failed : p.fetchWord (s.after p (n + 1)).pc = .error fault) :
    s.transfers p n = true := by
  obtain ⟨execution, next, step⟩ := reaches n n.lt_succ_self
  rw [transfers_of_step step]
  cases taken : execution.taken with
  | true => rfl
  | false =>
      obtain ⟨word, found, -⟩ := step_eq_executed_iff.1 step
      obtain ⟨fetched, answer⟩ :=
        Program.fetchWord_of_inRange small (Program.inRange_next small found)
      rw [after_succ step, pc_of_not_taken step taken, answer] at failed
      cases failed

end MachineState

namespace Core

/-- The run of a core ends in cycle `n`, counting from 1, and the clock stays there. -/
structure EndsIn (c : Core) (n : Nat) (outcome : Outcome) : Prop where
  on : ∀ i, i + 1 < n → (ticks i c).tick.1 = .running
  ends : ∀ i, n ≤ i + 1 → (ticks i c).tick.1 = outcome
  clock : ∀ i, n ≤ i → (ticks i c).clock = n

variable {c : Core} {n t : Nat} {outcome : Outcome}

theorem endsIn_of_first_end (on : ∀ i < t, (ticks i c).tick.1 = .running)
    (ended : (ticks t c).tick.1 = outcome) (stops : outcome ≠ .running)
    (clock : (ticks t c).tick.2.clock = t + 1) : EndsIn c (t + 1) outcome where
  on i lt := on i (by omega)
  ends i le := by
    rw [tick_ticks_of_ended (ended ▸ stops) (show t ≤ i by omega), ended]
  clock i le := by
    rw [ticks_of_ended (ended ▸ stops) (show t < i by omega), clock]

theorem isFinished_of_ended (ended : c.tick.1 ≠ .running) : c.tick.2.isFinished = true := by
  cases finished : c.isFinished with
  | true => rw [(tick_of_isFinished finished).1, finished]
  | false =>
      obtain ⟨running, going⟩ := isFinished_eq_false_iff.1 finished
      rcases tick_cases running going with ⟨fault, -, halted⟩ | ⟨next, _, _, commits, settled⟩
      · rw [halted]
        rfl
      · rw [settled] at ended ⊢
        unfold settle at ended ⊢
        split at ended
        next atEnd =>
          rw [if_pos atEnd]
          simp [isFinished]
        · exact absurd rfl ended

theorem running_of_not_finished (going : (ticks n c).isFinished = false) :
    ∀ i < n, (ticks i c).tick.1 = .running := by
  intro i lt
  by_contra ended
  rw [ticks_of_ended ended lt, isFinished_of_ended ended] at going
  cases going

theorem retires?_eq_some_iff {r : Retirement} :
    c.retires? = some r ↔
      c.isFinished = false ∧ c.tick.2.fault = none ∧ c.retirement? = some r := by
  cases finished : c.isFinished with
  | true => simp [retires?_of_isFinished finished]
  | false =>
      obtain ⟨running, going⟩ := isFinished_eq_false_iff.1 finished
      rcases tick_cases running going with ⟨fault, -, halted⟩ | ⟨next, _, _, commits, settled⟩
      · simp [retires?, finished, halted, halt]
      · have healthy : next.settle.2.fault = none := by
          unfold settle
          split <;> exact commits.fault.trans running
        rw [retires?_of_settle finished settled, settled]
        simp [healthy]

end Core

namespace Simulator

variable {p : Program} {config : Config} {sim : Simulator} {m t : Nat} {fault : Fault}
  {outcome : Outcome}

theorem completes_of_finished (small : p.size < 2 ^ 60) (created : create p config = .ok sim)
    (reaches : sim.reference.Executes p m) (stop : (sim.reference.after p m).step p = .finished) :
    sim.core.EndsIn (sim.reference.completionCycle p m) .complete := by
  have pos : 0 < m := MachineState.pos_of_finished small rfl stop
  obtain ⟨k, ended⟩ := exists_end (n := m) small created (by simp [stop])
  obtain ⟨t, g, -, on, runs, clock, notEnd, -, ending⟩ := exists_ending small created ended
  cases ending with
  | halts fault failed =>
      have stop' := runs.faulted_of_error small failed
      obtain rfl : m = g.accessed :=
        reaches.eq_of_stopped runs.tracks.reached (by simp [stop]) (by simp [stop'])
      rw [stop] at stop'
      cases stop'
  | completes next g' runs' clock' atEnd tick =>
      have now := (runs'.onTime.atEnd_iff runs'.tracks reaches stop).1 atEnd
      have before := (runs.onTime.atEnd_iff runs.tracks reaches stop).not.1 (by simp [notEnd])
      rw [← MachineState.completionCycle_le_iff pos] at now before
      have same : sim.reference.completionCycle p m = t + 1 := by omega
      rw [same]
      exact Core.endsIn_of_first_end on (by rw [tick]) (by simp) (by rw [tick, clock', clock])

theorem halts_of_faulted (small : p.size < 2 ^ 60) (created : create p config = .ok sim)
    (reaches : sim.reference.Executes p m)
    (stop : (sim.reference.after p m).step p = .faulted fault) :
    ∃ t, sim.core.EndsIn (t + 1) (.halted fault) ∧
      (p.fetchWord (sim.reference.after p m).pc = .error fault ∧
          sim.reference.retireCycle p m = t + 5 ∨
        (∃ word, p.fetchWord (sim.reference.after p m).pc = .ok (some word) ∧
          (sim.reference.after p m).execute word = .error fault) ∧
          sim.reference.retireCycle p m = t + 2) := by
  obtain ⟨k, ended⟩ := exists_end (n := m) small created (by simp [stop])
  obtain ⟨t, g, -, on, runs, clock, -, -, ending⟩ := exists_ending small created ended
  cases ending with
  | halts fault' failed tick =>
      have stop' := runs.faulted_of_error small failed
      obtain rfl : m = g.accessed :=
        reaches.eq_of_stopped runs.tracks.reached (by simp [stop]) (by simp [stop'])
      rw [stop] at stop'
      cases stop'
      have due := (runs.onTime.evaluate_eq_error_iff small runs.tracks).1 failed
      rw [clock] at due
      exact ⟨t, Core.endsIn_of_first_end on (by rw [tick]) (by simp)
        (by rw [tick, Core.halt, clock]), due⟩
  | completes next g' runs' clock' atEnd tick =>
      obtain ⟨-, straight, -, stop'⟩ := runs'.tracks.of_atEnd atEnd
      obtain rfl : m = g'.fetched := reaches.eq_of_stopped
        (straight.executes runs'.tracks.reached) (by simp [stop]) (by simp [stop'])
      rw [stop] at stop'
      cases stop'

theorem due_of_retires (small : p.size < 2 ^ 60) (created : create p config = .ok sim)
    {r : Retirement} (retires : (Core.ticks t sim.core).retires? = some r) :
    ∃ k execution next, (sim.reference.after p k).step p = .executed execution next ∧
      execution.isKnown = true ∧ sim.reference.retireCycle p k = t + 1 ∧
      r = execution.retirement := by
  obtain ⟨going, -, retire⟩ := Core.retires?_eq_some_iff.1 retires
  obtain ⟨g, runs, clock, -⟩ := exists_runs small created (Core.running_of_not_finished going)
  obtain ⟨low, high⟩ := runs.tracks.memWb.le
  rcases Nat.eq_or_lt_of_le low with idle | busy
  · rw [runs.tracks.retirement?_of_idle idle.symm] at retire
    cases retire
  · have more : g.accessed = g.retired + 1 := by omega
    obtain ⟨execution, next, step, out⟩ := runs.tracks.retirement?_of_busy more
    have due := runs.onTime.memWb more
    rw [clock] at due
    rw [out] at retire
    split at retire
    next known =>
      cases retire
      exact ⟨g.retired, execution, next, step, known, due, rfl⟩
    · cases retire

theorem running_of_due (small : p.size < 2 ^ 60) (created : create p config = .ok sim)
    (healthy : (Core.ticks t sim.core).fault = none) {k : Nat} (starts : sim.reference.Starts p k)
    (known : sim.reference.isKnownAt p k = true) (due : t < sim.reference.retireCycle p k) :
    ∀ i < t, (Core.ticks i sim.core).tick.1 = .running := by
  intro i lt
  by_contra ended
  obtain ⟨t', g, le, -, runs, clock, -, same, ending⟩ := exists_ending small created ended
  have final := Core.ticks_of_ended ended lt
  rw [same] at final
  cases ending with
  | halts fault failed tick =>
      rw [final, tick] at healthy
      cases healthy
  | completes next g' runs' clock' atEnd tick =>
      obtain ⟨-, straight, -, stop⟩ := runs'.tracks.of_atEnd atEnd
      have reaches := straight.executes runs'.tracks.reached
      have all := (runs'.onTime.atEnd_iff runs'.tracks reaches stop).1 atEnd
      have := (all k (starts.lt_of_finished stop)).2 known
      omega

theorem retires_of_due (small : p.size < 2 ^ 60) (created : create p config = .ok sim)
    (healthy : (Core.ticks (t + 1) sim.core).fault = none) {k : Nat} {execution : Execution}
    {next : MachineState} (step : (sim.reference.after p k).step p = .executed execution next)
    (known : execution.isKnown = true) (due : sim.reference.retireCycle p k = t + 1) :
    (Core.ticks t sim.core).retires? = some execution.retirement := by
  have starts := MachineState.starts_of_step step
  have known' := (MachineState.isKnownAt_of_step step).trans known
  rw [Core.ticks_succ] at healthy
  have healthy' : (Core.ticks t sim.core).fault = none := by
    cases stopped : (Core.ticks t sim.core).fault with
    | none => rfl
    | some fault =>
        rw [Core.tick_of_fault stopped, stopped] at healthy
        cases healthy
  have on := running_of_due small created healthy' starts known' (by omega)
  obtain ⟨g, runs, clock, -⟩ := exists_runs small created on
  rw [Core.retires?_eq_some_iff, Core.isFinished_eq_false_iff]
  refine ⟨⟨healthy', runs.going⟩, healthy, ?_⟩
  have order := runs.tracks.memWb.le
  have passed := (runs.onTime.lt_accessed_iff runs.tracks starts).2 (by omega)
  have waiting := (runs.onTime.lt_retired_iff runs.tracks starts).not.2 (by omega)
  obtain rfl : k = g.retired := by omega
  obtain ⟨execution', next', step', retire⟩ := runs.tracks.retirement?_of_busy (by omega)
  rw [step] at step'
  cases step'
  rw [retire, if_pos known]

/-- The schedule of the sequential run tells every cycle of the core.  A cycle that no fault stops
retires an instruction just when that is known and due.  A run that reaches the end of the program
completes when its last known instruction is retired and its last one decoded.  A data access that
faults stops the core one cycle before its instruction would retire.  A fetch only faults behind a
transfer of control, and stops the core in the cycle in which that retires. -/
theorem timing_eq_schedule (small : p.size < 2 ^ 60) (created : create p config = .ok sim) :
    (∀ t r, (Core.ticks t sim.core).retires? = some r ↔
      (Core.ticks (t + 1) sim.core).fault = none ∧
        ∃ k execution next, (sim.reference.after p k).step p = .executed execution next ∧
          execution.isKnown = true ∧ sim.reference.retireCycle p k = t + 1 ∧
          r = execution.retirement) ∧
    (∀ m, sim.reference.Executes p m → (sim.reference.after p m).pc = p.endPc →
      sim.core.EndsIn (sim.reference.completionCycle p m) .complete) ∧
    (∀ k word fault, sim.reference.Executes p k →
      p.fetchWord (sim.reference.after p k).pc = .ok (some word) →
      (sim.reference.after p k).execute word = .error fault →
      sim.core.EndsIn (sim.reference.retireCycle p k - 1) (.halted fault)) ∧
    (∀ k fault, sim.reference.Executes p (k + 1) →
      p.fetchWord (sim.reference.after p (k + 1)).pc = .error fault →
      sim.reference.transfers p k = true ∧
        sim.core.EndsIn (sim.reference.retireCycle p k) (.halted fault)) := by
  refine ⟨fun t r => ⟨fun retires => ?_, ?_⟩, fun m reaches atEnd => ?_, ?_, ?_⟩
  · refine ⟨?_, due_of_retires small created retires⟩
    rw [Core.ticks_succ]
    exact (Core.retires?_eq_some_iff.1 retires).2.1
  · rintro ⟨healthy, k, execution, next, step, known, due, rfl⟩
    exact retires_of_due small created healthy step known due
  · refine completes_of_finished small created reaches ?_
    rw [MachineState.step_eq_finished_iff, atEnd]
    exact Program.fetchWord_eq_none_iff.2 rfl
  · intro k word fault reaches found faults
    obtain ⟨t, ends, ⟨fetch, -⟩ | ⟨-, due⟩⟩ := halts_of_faulted small created reaches
      (MachineState.step_eq_faulted_iff.2 (.inr ⟨word, found, faults⟩))
    · rw [found] at fetch
      cases fetch
    · rwa [due]
  · intro k fault reaches failed
    have transfers := MachineState.transfers_of_fetch_error small reaches failed
    refine ⟨transfers, ?_⟩
    obtain ⟨t, ends, ⟨-, due⟩ | ⟨⟨word, found, -⟩, -⟩⟩ := halts_of_faulted small created reaches
      (MachineState.step_eq_faulted_iff.2 (.inl failed))
    · rw [MachineState.retireCycle_of_transfers transfers] at due
      have last : sim.reference.retireCycle p k = t + 1 := by omega
      rw [last]
      exact ends
    · rw [found] at failed
      cases failed

theorem sample_ends_in_twelve :
    sampleProgram.size < 2 ^ 60 ∧ create sampleProgram sampleConfig = .ok sample ∧
      sample.reference.completionCycle sampleProgram 4 = 12 ∧ sample.core.EndsIn 12 .complete := by
  have small : sampleProgram.size < 2 ^ 60 := by decide
  have created : create sampleProgram sampleConfig = .ok sample := by decide
  have last : sample.reference.completionCycle sampleProgram 4 = 12 := by decide
  have reaches : sample.reference.Executes sampleProgram 4 :=
    MachineState.executes_of_step (n := 3) rfl
  refine ⟨small, created, last, ?_⟩
  rw [← last]
  exact (timing_eq_schedule small created).2.1 4 reaches (by decide)

end Simulator

end FiveStage
