import FiveStage.Proofs.Pipeline.Schedule

/-!
# Positions by the clock

A core that is on time has no choice about the counts that matter outside: the clock and the
schedule of the sequential run decide how many instructions are retired, accessed and executed, when
the core stops on a fault, and when it has come to the end.
-/

namespace FiveStage

namespace MachineState

variable {s next : MachineState} {p : Program} {execution : Execution} {word : Word} {n : Nat}

def isKnownAt (s : MachineState) (p : Program) (n : Nat) : Bool :=
  match p.wordAt? (s.after p n).pc with
  | some word => Control.isKnown word.opcode
  | none => false

theorem isKnownAt_eq (found : p.fetchWord (s.after p n).pc = .ok (some word)) :
    s.isKnownAt p n = Control.isKnown word.opcode := by
  simp [isKnownAt, Program.wordAt?_of_fetchWord found]

theorem isKnownAt_of_step (step : (s.after p n).step p = .executed execution next) :
    s.isKnownAt p n = execution.isKnown := by
  obtain ⟨word, found, done⟩ := step_eq_executed_iff.1 step
  rw [isKnownAt_eq found, Execution.isKnown, (execution_of_execute done).2.1]

theorem straight_of_unknown (found : p.fetchWord (s.after p n).pc = .ok (some word))
    (unknown : s.isKnownAt p n = false) : s.Straight p n (n + 1) := by
  intro k low high
  obtain rfl : k = n := by omega
  have bubble : (Control.ofCode word.opcode).isBubble = true := by
    simpa [isKnownAt_eq found, isKnown_eq] using unknown
  exact ⟨_, _, step_eq_executed_iff.2 ⟨word, found, execute_of_bubble bubble⟩, rfl⟩

theorem exMem_isEmpty (s : MachineState) (word : Word) :
    (s.exMem word).isEmpty = !Control.isKnown word.opcode := by
  rw [isKnown_eq, Bool.not_not]
  cases bubble : (Control.ofCode word.opcode).isBubble with
  | true =>
      rw [exMem_of_bubble bubble]
      rfl
  | false =>
      rw [exMem_of_busy bubble]
      exact bubble

end MachineState

theorem IfId.decode_isEmpty {latch : IfId} {rf : RegisterFile} {write : Option RegisterWrite}
    (valid : latch.valid = true) :
    (latch.decode rf write).isEmpty = !Control.isKnown latch.word.opcode := by
  simp [decode, valid, IdEx.isEmpty, MachineState.isKnown_eq]

theorem MemWb.isEmpty_of_retire? {latch : MemWb} : latch.isEmpty = latch.retire?.isNone := by
  cases empty : latch.isEmpty <;> simp [retire?, empty]

namespace Tracks

variable {s : MachineState} {p : Program} {c : Core} {g : StageCounts} {m n : Nat}

theorem access_of_fault {word : Word} {fault : Fault} (h : Tracks s p c g)
    (busy : g.accessed < g.executed)
    (found : p.fetchWord (s.after p g.accessed).pc = .ok (some word))
    (faults : (s.after p g.accessed).execute word = .error fault) :
    c.exMem.access c.memory = .error fault := by
  rcases h.exMem with ⟨same, -⟩ | ⟨-, word', found', latch⟩
  · omega
  · rw [found] at found'
    cases found'
    rw [latch, h.memory]
    exact MachineState.access_of_fault faults

/-! ## Which latches hold something -/

theorem memWb_isEmpty (h : Tracks s p c g) (busy : g.accessed = g.retired + 1) :
    c.memWb.isEmpty = !s.isKnownAt p g.retired := by
  obtain ⟨execution, after, step, retire⟩ := h.retirement?_of_busy busy
  rw [MachineState.isKnownAt_of_step step, MemWb.isEmpty_of_retire?, ← Core.retirement?, retire]
  cases execution.isKnown <;> rfl

theorem exMem_isEmpty (h : Tracks s p c g) (busy : g.executed = g.accessed + 1) :
    s.Starts p g.accessed ∧ c.exMem.isEmpty = !s.isKnownAt p g.accessed ∧
      (s.isKnownAt p g.accessed = false → s.Straight p g.accessed g.executed) := by
  rcases h.exMem with ⟨same, -⟩ | ⟨-, word, found, latch⟩
  · omega
  · refine ⟨⟨h.reached, MachineState.step_ne_finished found (by simp)⟩, ?_, ?_⟩
    · rw [latch, MachineState.exMem_isEmpty, MachineState.isKnownAt_eq found]
    · rw [busy]
      exact MachineState.straight_of_unknown found

theorem idEx_isEmpty (h : Tracks s p c g) (straight : s.Straight p g.accessed g.executed)
    (busy : g.decoded = g.executed + 1) :
    s.Starts p g.executed ∧ c.idEx.isEmpty = !s.isKnownAt p g.executed ∧
      (s.isKnownAt p g.executed = false → s.Straight p g.accessed g.decoded) := by
  rcases h.idEx with ⟨same, -⟩ | ⟨-, latch, ⟨valid, found⟩, staged, follows⟩
  · omega
  · rw [follows straight] at found
    refine ⟨⟨straight.executes h.reached, MachineState.step_ne_finished found (by simp)⟩, ?_,
      fun unknown => ?_⟩
    · rw [staged, IfId.decode_isEmpty valid, MachineState.isKnownAt_eq found]
    · rw [busy]
      exact straight.trans (MachineState.straight_of_unknown found unknown)

theorem starts_decoded (h : Tracks s p c g) (straight : s.Straight p g.accessed g.decoded)
    (busy : g.fetched = g.decoded + 1) : s.Starts p g.decoded := by
  rcases h.ifId with ⟨same, -⟩ | ⟨-, ⟨valid, found⟩, -, follows⟩
  · omega
  · rw [follows straight] at found
    exact ⟨straight.executes h.reached, MachineState.step_ne_finished found (by simp)⟩

theorem isDrained_iff (h : Tracks s p c g) (decoded : g.fetched = g.decoded)
    (straight : s.Straight p g.accessed g.executed) :
    c.isDrained = true ↔ ∀ k, g.retired ≤ k → k < g.fetched → s.isKnownAt p k = false := by
  have ifId : c.ifId = {} := by
    rcases h.ifId with ⟨-, empty⟩ | ⟨more, -⟩
    · exact empty
    · omega
  obtain ⟨low₁, high₁⟩ := h.memWb.le
  obtain ⟨low₂, high₂⟩ := h.exMem.le
  obtain ⟨low₃, high₃⟩ := h.idEx.le
  simp only [Core.isDrained, ifId, Bool.and_eq_true]
  constructor
  · rintro ⟨⟨⟨-, idEx⟩, exMem⟩, memWb⟩ k low high
    rcases Nat.lt_or_ge k g.accessed with before | behind
    · obtain rfl : k = g.retired := by omega
      simpa [h.memWb_isEmpty (by omega)] using memWb
    · rcases Nat.lt_or_ge k g.executed with before' | behind'
      · obtain rfl : k = g.accessed := by omega
        simpa [(h.exMem_isEmpty (by omega)).2.1] using exMem
      · obtain rfl : k = g.executed := by omega
        simpa [(h.idEx_isEmpty straight (by omega)).2.1] using idEx
  · intro unknown
    refine ⟨⟨⟨rfl, ?_⟩, ?_⟩, ?_⟩
    · rcases h.idEx with ⟨-, empty⟩ | ⟨more, -⟩
      · rw [empty]
        rfl
      · rw [(h.idEx_isEmpty straight more).2.1, unknown _ (by omega) (by omega)]
        rfl
    · rcases h.exMem with ⟨-, empty⟩ | ⟨more, -⟩
      · rw [empty]
        rfl
      · rw [(h.exMem_isEmpty more).2.1, unknown _ (by omega) (by omega)]
        rfl
    · rcases h.memWb with ⟨-, empty⟩ | ⟨more, -⟩
      · rw [empty]
        rfl
      · rw [h.memWb_isEmpty more, unknown _ (by omega) (by omega)]
        rfl

/-- At the end of the program all that is left in the latches are traces of unknown instructions,
and the sequential machine finishes behind them. -/
theorem of_atEnd (h : Tracks s p c g) (atEnd : c.atEnd = true) :
    g.fetched = g.decoded ∧ s.Straight p g.accessed g.fetched ∧
      (∀ k, g.retired ≤ k → k < g.fetched → s.isKnownAt p k = false) ∧
      (s.after p g.fetched).step p = .finished := by
  obtain ⟨pc, drained⟩ := Core.atEnd_eq_true_iff.1 atEnd
  obtain ⟨low₂, high₂⟩ := h.exMem.le
  obtain ⟨low₃, high₃⟩ := h.idEx.le
  have empty := drained
  simp only [Core.isDrained, Bool.and_eq_true] at empty
  have decoded : g.fetched = g.decoded := by
    rcases h.ifId with ⟨same, -⟩ | ⟨-, ⟨valid, -⟩, -⟩
    · exact same
    · simp [IfId.isEmpty, valid] at empty
  have straight : s.Straight p g.accessed g.executed := by
    rcases Nat.eq_or_lt_of_le low₂ with idle | busy
    · rw [← idle]
      exact MachineState.straight_refl
    · obtain ⟨-, known, passes⟩ := h.exMem_isEmpty (by omega)
      exact passes (by simpa [known] using empty.1.2)
  have straight' : s.Straight p g.accessed g.fetched := by
    rcases Nat.eq_or_lt_of_le low₃ with idle | busy
    · rw [decoded, ← idle]
      exact straight
    · obtain ⟨-, known, passes⟩ := h.idEx_isEmpty straight (by omega)
      rw [decoded]
      exact passes (by simpa [known] using empty.1.1.2)
  refine ⟨decoded, straight', (h.isDrained_iff decoded straight).1 drained, ?_⟩
  rw [MachineState.step_eq_finished_iff, Program.fetchWord_eq_none_iff, ← h.pc straight', pc,
    Core.endPc, h.program]

end Tracks

namespace OnTime

variable {s : MachineState} {p : Program} {c : Core} {g : StageCounts} {fault : Fault} {k m : Nat}

/-! ## The counts by the clock -/

theorem due_of_idle (t : OnTime s p c g) (h : Tracks s p c g)
    (notEnd : (s.after p g.accessed).step p ≠ .finished) (idle : g.executed = g.accessed) :
    c.clock + 3 ≤ s.retireCycle p g.accessed := by
  have straight : s.Straight p g.accessed g.executed := idle ▸ MachineState.straight_refl
  rcases Nat.eq_or_lt_of_le h.idEx.le.1 with decoded | decoding
  · rcases Nat.eq_or_lt_of_le h.ifId.le.1 with fetched | fetching
    · have := t.fresh (by omega) notEnd
      omega
    · have order := h.ifId.le
      have := t.ifId (by omega) (decoded ▸ straight)
      rw [← decoded, idle] at this
      omega
  · have order := h.idEx.le
    have := t.idEx (by omega) straight
    rw [idle] at this
    omega

theorem due (t : OnTime s p c g) (h : Tracks s p c g)
    (notEnd : (s.after p g.accessed).step p ≠ .finished) :
    c.clock + 2 ≤ s.retireCycle p g.accessed := by
  rcases Nat.eq_or_lt_of_le h.exMem.le.1 with idle | busy
  · have := t.due_of_idle h notEnd idle.symm
    omega
  · have order := h.exMem.le
    exact Nat.le_of_eq (t.exMem (by omega)).symm

theorem lt_accessed_iff (t : OnTime s p c g) (h : Tracks s p c g) (starts : s.Starts p k) :
    k < g.accessed ↔ s.retireCycle p k ≤ c.clock + 1 := by
  constructor
  · intro lt
    have order := h.memWb.le
    rcases Nat.lt_or_ge k g.retired with before | behind
    · exact Nat.le_trans (t.past k before) (Nat.le_succ _)
    · obtain rfl : k = g.retired := by omega
      exact Nat.le_of_eq (t.memWb (by omega))
  · intro le
    rcases Nat.lt_or_ge k g.accessed with lt | ge
    · exact lt
    · have first := t.due h (starts.mono ge).2
      have later := MachineState.retireCycle_le (s := s) (p := p) ge
      omega

theorem lt_retired_iff (t : OnTime s p c g) (h : Tracks s p c g) (starts : s.Starts p k) :
    k < g.retired ↔ s.retireCycle p k ≤ c.clock := by
  refine ⟨t.past k, fun le => ?_⟩
  have passed := (t.lt_accessed_iff h starts).2 (by omega)
  rcases Nat.lt_or_ge k g.retired with lt | ge
  · exact lt
  · have order := h.memWb.le
    obtain rfl : k = g.retired := by omega
    have := t.memWb (by omega)
    omega

theorem lt_executed_iff (t : OnTime s p c g) (h : Tracks s p c g) (starts : s.Starts p k) :
    k < g.executed ↔ s.retireCycle p k ≤ c.clock + 2 := by
  have order := h.exMem.le
  constructor
  · intro lt
    rcases Nat.lt_or_ge k g.accessed with before | behind
    · exact Nat.le_trans ((t.lt_accessed_iff h starts).1 before) (Nat.le_succ _)
    · obtain rfl : k = g.accessed := by omega
      exact Nat.le_of_eq (t.exMem (by omega))
  · intro le
    rcases Nat.lt_or_ge k g.executed with lt | ge
    · exact lt
    · rcases Nat.eq_or_lt_of_le order.1 with idle | busy
      · have first := t.due_of_idle h (starts.mono (by omega)).2 idle.symm
        have later := MachineState.retireCycle_le (s := s) (p := p) (idle ▸ ge)
        omega
      · have first := t.exMem (by omega)
        have later := MachineState.retireCycle_lt (s := s) (p := p)
          (show g.accessed < k by omega)
        omega

/-! ## The end of the program -/

/-- A core is at the end just when its schedule has nothing left for it: all instructions of the
run are decoded, and the known ones are retired. -/
theorem atEnd_iff (t : OnTime s p c g) (h : Tracks s p c g) (reaches : s.Executes p m)
    (stop : (s.after p m).step p = .finished) :
    c.atEnd = true ↔ ∀ k < m, s.retireCycle p k ≤ c.clock + 3 ∧
      (s.isKnownAt p k = true → s.retireCycle p k ≤ c.clock) := by
  constructor
  · intro atEnd k lt
    obtain ⟨decoded, straight, unknown, stop'⟩ := h.of_atEnd atEnd
    obtain rfl : m = g.fetched :=
      reaches.eq_of_stopped (straight.executes h.reached) (by simp [stop]) (by simp [stop'])
    rcases Nat.lt_or_ge k g.retired with before | behind
    · have := t.past k before
      exact ⟨by omega, fun _ => this⟩
    · refine ⟨?_, fun known => by simp [unknown k behind lt] at known⟩
      obtain ⟨execution, next, step⟩ := reaches k lt
      have started := MachineState.starts_of_step step
      rcases Nat.lt_or_ge k g.executed with before' | behind'
      · have := (t.lt_executed_iff h started).1 before'
        omega
      · have order := h.idEx.le
        obtain rfl : k = g.executed := by omega
        exact Nat.le_of_eq (t.idEx (by omega) (straight.mono (by omega)))
  · intro late
    obtain ⟨low₁, high₁⟩ := h.memWb.le
    obtain ⟨low₂, high₂⟩ := h.exMem.le
    obtain ⟨low₃, high₃⟩ := h.idEx.le
    obtain ⟨low₄, high₄⟩ := h.ifId.le
    have unknown : ∀ k, s.Starts p k → g.retired ≤ k → s.isKnownAt p k = false := by
      intro k starts behind
      cases known : s.isKnownAt p k with
      | false => rfl
      | true =>
          have := (t.lt_retired_iff h starts).2 ((late k (starts.lt_of_finished stop)).2 known)
          omega
    have straight : s.Straight p g.accessed g.executed := by
      rcases Nat.eq_or_lt_of_le low₂ with idle | busy
      · rw [← idle]
        exact MachineState.straight_refl
      · obtain ⟨starts, -, passes⟩ := h.exMem_isEmpty (by omega)
        exact passes (unknown _ starts (by omega))
    have straight' : s.Straight p g.accessed g.decoded := by
      rcases Nat.eq_or_lt_of_le low₃ with idle | busy
      · rw [← idle]
        exact straight
      · obtain ⟨starts, -, passes⟩ := h.idEx_isEmpty straight (by omega)
        exact passes (unknown _ starts (by omega))
    have decoded : g.fetched = g.decoded := by
      rcases Nat.eq_or_lt_of_le low₄ with same | busy
      · exact same.symm
      · have starts := h.starts_decoded straight' (by omega)
        have due := t.ifId (by omega) straight'
        have := (late _ (starts.lt_of_finished stop)).1
        omega
    have pc : c.pc = p.endPc := by
      rcases h.front with fresh | ⟨-, ended⟩
      · by_cases finished : (s.after p g.accessed).step p = .finished
        · rw [h.pc_of_fresh fresh]
          rwa [MachineState.step_eq_finished_iff, Program.fetchWord_eq_none_iff] at finished
        · have due := t.fresh fresh finished
          have starts : s.Starts p g.accessed := ⟨h.reached, finished⟩
          have := (late _ (starts.lt_of_finished stop)).1
          omega
      · exact ended decoded
    have drained : c.isDrained = true := by
      rw [h.isDrained_iff decoded straight]
      intro k behind lt
      obtain ⟨execution, next, step⟩ := straight'.executes h.reached k (decoded ▸ lt)
      exact unknown k (MachineState.starts_of_step step) behind
    simp [Core.atEnd, Core.endPc, h.program, pc, drained]

/-! ## Faults -/

theorem fetch?_of_due (t : OnTime s p c g) (h : Tracks s p c g) (starts : s.Starts p g.accessed)
    (fetch : p.fetchWord (s.after p g.accessed).pc = .error fault)
    (due : s.retireCycle p g.accessed = c.clock + 5) : c.fetch? = .error fault := by
  have notYet := (t.lt_executed_iff h starts).not
  obtain ⟨-, low₂, low₃, low₄⟩ := h.order
  have idle : g.executed = g.accessed := by omega
  have straight : s.Straight p g.accessed g.executed := idle ▸ MachineState.straight_refl
  have decoded : g.decoded = g.executed := by
    rcases Nat.eq_or_lt_of_le low₃ with same | more
    · exact same.symm
    · have order := h.idEx.le
      have := t.idEx (by omega) straight
      rw [idle] at this
      omega
  have still := h.stalls_eq_false decoded
  have fresh : g.fetched = g.accessed := by
    rcases Nat.eq_or_lt_of_le low₄ with same | more
    · omega
    · have order := h.ifId.le
      have := t.ifId (by omega) (decoded ▸ straight)
      rw [decoded, idle, still] at this
      simp only [Bool.toNat_false] at this
      omega
  simp [Core.fetch?, still, Program.fetch, h.program, h.pc_of_fresh fresh, fetch, Except.map]

/-- A core stops on a fault just when the instruction of that fault is where it shows: behind
execute for a data access, and at the point of being fetched for a fetch. -/
theorem evaluate_eq_error_iff (small : p.size < 2 ^ 60) (t : OnTime s p c g)
    (h : Tracks s p c g) :
    c.evaluate = .error fault ↔
      (p.fetchWord (s.after p g.accessed).pc = .error fault ∧
        s.retireCycle p g.accessed = c.clock + 5) ∨
      ((∃ word, p.fetchWord (s.after p g.accessed).pc = .ok (some word) ∧
        (s.after p g.accessed).execute word = .error fault) ∧
        s.retireCycle p g.accessed = c.clock + 2) := by
  rw [Core.evaluate_eq_error_iff]
  constructor
  · rintro (failed | ⟨-, failed⟩)
    · obtain ⟨fresh, fetch⟩ := h.fetch_error small failed
      exact .inl ⟨fetch, t.fresh fresh (MachineState.step_ne_finished fetch (by simp))⟩
    · obtain ⟨executed, faults⟩ := h.access_error failed
      exact .inr ⟨faults, t.exMem executed⟩
  · rintro (⟨fetch, due⟩ | ⟨⟨word, found, faults⟩, due⟩)
    · have starts : s.Starts p g.accessed :=
        ⟨h.reached, MachineState.step_ne_finished fetch (by simp)⟩
      exact .inl (t.fetch?_of_due h starts fetch due)
    · have starts : s.Starts p g.accessed :=
        ⟨h.reached, MachineState.step_ne_finished found (by simp)⟩
      have executed := (t.lt_executed_iff h starts).2 (by omega)
      refine .inr ⟨?_, h.access_of_fault executed found faults⟩
      cases answer : c.fetch? with
      | ok fetched => exact ⟨fetched, rfl⟩
      | error fault' =>
          have order := h.order
          have := (h.fetch_error small answer).1
          omega

end OnTime

end FiveStage
