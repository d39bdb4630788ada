import FiveStage.Proofs.Machine.Fetch
import FiveStage.Proofs.Pipeline.Alone

/-!
# How a core follows the sequential run

`StageCounts` counts how many instructions of the sequential run have passed each stage; unknown
opcodes count as instructions that leave empty latches behind.  `Tracks` says what every part of a
core has to do with these counts.  Ahead of memory access it says so only as long as control runs
straight: behind a transfer of control or a fault the front of the pipeline holds instructions that
are none of the run.  `Tracks.step` is the simulation: a committed cycle moves the counts on by one
of four moves.
-/

namespace FiveStage

structure StageCounts where
  retired : Nat
  accessed : Nat
  executed : Nat
  decoded : Nat
  fetched : Nat
  deriving DecidableEq, Repr

/-- The latch between two stages is empty, or holds the one instruction between the counts. -/
def Slot (behind ahead : Nat) (empty busy : Prop) : Prop :=
  (ahead = behind ∧ empty) ∨ (ahead = behind + 1 ∧ busy)

theorem Slot.le {behind ahead : Nat} {empty busy : Prop} (h : Slot behind ahead empty busy) :
    behind ≤ ahead ∧ ahead ≤ behind + 1 := by
  rcases h with ⟨same, -⟩ | ⟨more, -⟩ <;> omega

def IfId.Holds (latch : IfId) (p : Program) : Prop :=
  latch.valid = true ∧ p.fetchWord latch.pc = .ok (some latch.word)

def ExMem.ResultOf (latch : ExMem) (p : Program) (s : MachineState) : Prop :=
  ∃ word, p.fetchWord s.pc = .ok (some word) ∧ latch = s.exMem word

def MemWb.ResultOf (latch : MemWb) (p : Program) (s : MachineState) : Prop :=
  ∃ word result, p.fetchWord s.pc = .ok (some word) ∧ s.access word = .ok result ∧
    latch = result.latch

structure Tracks (s : MachineState) (p : Program) (c : Core) (g : StageCounts) : Prop where
  program : c.program = p
  reached : s.Executes p g.accessed
  registers : c.registers = (s.after p g.retired).registers
  memory : c.memory = (s.after p g.accessed).memory
  memWb : Slot g.retired g.accessed (c.memWb = {}) (c.memWb.ResultOf p (s.after p g.retired))
  exMem : Slot g.accessed g.executed (c.exMem = {}) (c.exMem.ResultOf p (s.after p g.accessed))
  idEx : Slot g.executed g.decoded (c.idEx = {})
    (∃ latch : IfId, latch.Holds p ∧ c.idEx = latch.decode c.registers none ∧
      (s.Straight p g.accessed g.executed → latch.pc = (s.after p g.executed).pc))
  ifId : Slot g.decoded g.fetched (c.ifId = {})
    (c.ifId.Holds p ∧ c.pc = c.ifId.pc + BitVec.ofNat 64 instructionSize ∧
      (s.Straight p g.accessed g.decoded → c.ifId.pc = (s.after p g.decoded).pc))
  pc : s.Straight p g.accessed g.fetched → c.pc = (s.after p g.fetched).pc
  front : g.fetched = g.accessed ∨
    (p.InRange c.pc ∧ (g.fetched = g.decoded → c.pc = p.endPc))
  noUse : c.exMem.FeedsNoUse c.idEx

/-- How the counts can move on in a committed cycle. -/
inductive Advances (s : MachineState) (p : Program) (c : Core) (g : StageCounts) :
    StageCounts → Prop where
  | turn (execution : Execution) (next : MachineState)
      (step : (s.after p g.accessed).step p = .executed execution next)
      (taken : execution.taken = true) (executed : g.executed = g.accessed + 1) :
      Advances s p c g ⟨g.accessed, g.executed, g.executed, g.executed, g.executed⟩
  | wait (straight : s.Straight p g.accessed g.executed) (stalls : c.stalls = true)
      (decoded : g.decoded = g.executed + 1) (fetched : g.fetched = g.decoded + 1) :
      Advances s p c g ⟨g.accessed, g.executed, g.decoded, g.decoded, g.fetched⟩
  | drain (straight : s.Straight p g.accessed g.executed) (stalls : c.stalls = false)
      (atEnd : c.pc = p.endPc) :
      Advances s p c g ⟨g.accessed, g.executed, g.decoded, g.fetched, g.fetched⟩
  | flow (word : Word) (straight : s.Straight p g.accessed g.executed) (stalls : c.stalls = false)
      (found : p.fetchWord c.pc = .ok (some word)) :
      Advances s p c g ⟨g.accessed, g.executed, g.decoded, g.fetched, g.fetched + 1⟩

namespace Tracks

variable {s : MachineState} {p : Program} {c next : Core} {g : StageCounts}
  {fetched : Option Fetched} {access : AccessResult} {fault : Fault}

theorem order (h : Tracks s p c g) :
    g.retired ≤ g.accessed ∧ g.accessed ≤ g.executed ∧ g.executed ≤ g.decoded ∧
      g.decoded ≤ g.fetched :=
  ⟨h.memWb.le.1, h.exMem.le.1, h.idEx.le.1, h.ifId.le.1⟩

theorem congr {c' : Core} (h : Tracks s p c g) (program : c'.program = c.program)
    (pc : c'.pc = c.pc) (registers : c'.registers = c.registers) (memory : c'.memory = c.memory)
    (ifId : c'.ifId = c.ifId) (idEx : c'.idEx = c.idEx) (exMem : c'.exMem = c.exMem)
    (memWb : c'.memWb = c.memWb) : Tracks s p c' g := by
  obtain ⟨h₁, h₂, h₃, h₄, h₅, h₆, h₇, h₈, h₉, h₁₀, h₁₁⟩ := h
  rw [← program] at h₁
  rw [← registers] at h₃ h₇
  rw [← memory] at h₄
  rw [← memWb] at h₅
  rw [← exMem] at h₆ h₁₁
  rw [← idEx] at h₇ h₁₁
  rw [← ifId, ← pc] at h₈
  rw [← pc] at h₉ h₁₀
  exact ⟨h₁, h₂, h₃, h₄, h₅, h₆, h₇, h₈, h₉, h₁₀, h₁₁⟩

/-! ## Write-back -/

theorem memWb_rd_lt (h : Tracks s p c g) : c.memWb.rd < registerCount := by
  rcases h.memWb with ⟨-, empty⟩ | ⟨-, word, result, -, accessed, latch⟩
  · rw [empty]
    decide
  · rw [latch]
    exact MachineState.access_rd_lt accessed

theorem exMem_rd_lt (h : Tracks s p c g) : c.exMem.rd < registerCount := by
  rcases h.exMem with ⟨-, empty⟩ | ⟨-, word, -, latch⟩
  · rw [empty]
    decide
  · rw [latch]
    exact MachineState.exMem_rd_lt _ _

theorem registers_retiring (h : Tracks s p c g) :
    c.registers.apply c.retiring = (s.after p g.accessed).registers := by
  rw [c.retiring_eq, h.registers]
  rcases h.memWb with ⟨same, empty⟩ | ⟨more, word, result, found, accessed, latch⟩
  · rw [empty, same]
    rfl
  · obtain ⟨execution, next, done, -, -, retire⟩ := MachineState.execute_of_access accessed
    have step := MachineState.step_eq_executed_iff.2 ⟨word, found, done⟩
    rw [more, MachineState.after_succ step, latch, MachineState.write?_of_execute done retire]
    exact (MachineState.execution_of_execute done).2.2.2.1.symm

/-! ## Memory access -/

theorem access_cases (h : Tracks s p c g) (accessed : c.exMem.access c.memory = .ok access) :
    (g.executed = g.accessed ∧ access = {}) ∨
      (g.executed = g.accessed + 1 ∧ access.latch.ResultOf p (s.after p g.accessed) ∧
        ∃ execution next, (s.after p g.accessed).step p = .executed execution next ∧
          (s.after p g.accessed).memory.apply access.store = .ok next.memory ∧
          access.redirect = if execution.taken then some next.pc else none) := by
  rcases h.exMem with ⟨same, empty⟩ | ⟨more, word, found, latch⟩
  · rw [empty, ExMem.access_empty] at accessed
    cases accessed
    exact .inl ⟨same, rfl⟩
  · rw [latch, h.memory] at accessed
    obtain ⟨execution, next, done, made, turned, -⟩ := MachineState.execute_of_access accessed
    exact .inr ⟨more, ⟨word, access, found, accessed, rfl⟩, execution, next,
      MachineState.step_eq_executed_iff.2 ⟨word, found, done⟩, made, turned⟩

theorem access_error (h : Tracks s p c g) (failed : c.exMem.access c.memory = .error fault) :
    g.executed = g.accessed + 1 ∧ ∃ word, p.fetchWord (s.after p g.accessed).pc = .ok (some word) ∧
      (s.after p g.accessed).execute word = .error fault := by
  rcases h.exMem with ⟨-, empty⟩ | ⟨more, word, found, latch⟩
  · rw [empty, ExMem.access_empty] at failed
    cases failed
  · rw [latch, h.memory] at failed
    refine ⟨more, word, found, ?_⟩
    cases done : (s.after p g.accessed).execute word with
    | ok pair =>
        obtain ⟨result, accessed, -⟩ := MachineState.access_of_execute done
        rw [MachineState.access, failed] at accessed
        cases accessed
    | error fault' =>
        rw [Except.error.inj ((MachineState.access_of_fault done).symm.trans failed)]

theorem back_step (h : Tracks s p c g) (commits : c.Commits next fetched access) :
    s.Executes p g.executed ∧ next.registers = (s.after p g.accessed).registers ∧
      next.memory = (s.after p g.executed).memory ∧
      Slot g.accessed g.executed (next.memWb = {})
        (next.memWb.ResultOf p (s.after p g.accessed)) := by
  have registers := commits.registers.trans h.registers_retiring
  have written := commits.memory
  rcases h.access_cases commits.access_eq with
    ⟨same, idle⟩ | ⟨more, latch, execution, after, step, made, -⟩
  · subst idle
    have kept : c.memory = next.memory := Except.ok.inj written
    refine ⟨same ▸ h.reached, registers, ?_, .inl ⟨same, commits.memWb⟩⟩
    rw [same, ← h.memory, kept]
  · rw [h.memory, made] at written
    refine ⟨more ▸ MachineState.executes_of_step step, registers, ?_,
      .inr ⟨more, commits.memWb ▸ latch⟩⟩
    rw [more, MachineState.after_succ step, Except.ok.inj written]

theorem straight_of_no_redirect (h : Tracks s p c g)
    (accessed : c.exMem.access c.memory = .ok access) (redirect : access.redirect = none) :
    s.Straight p g.accessed g.executed := by
  rcases h.access_cases accessed with ⟨same, -⟩ | ⟨more, -, execution, after, step, -, turned⟩
  · rw [same]
    exact MachineState.straight_refl
  · intro k low high
    obtain rfl : k = g.accessed := by omega
    refine ⟨execution, after, step, ?_⟩
    rw [redirect] at turned
    cases taken : execution.taken with
    | false => rfl
    | true => simp [taken] at turned

theorem turn_of_redirect (h : Tracks s p c g)
    (accessed : c.exMem.access c.memory = .ok access) {target : Doubleword}
    (redirect : access.redirect = some target) :
    g.executed = g.accessed + 1 ∧ ∃ execution next,
      (s.after p g.accessed).step p = .executed execution next ∧ execution.taken = true ∧
        target = (s.after p g.executed).pc := by
  rcases h.access_cases accessed with ⟨-, idle⟩ | ⟨more, -, execution, after, step, -, turned⟩
  · subst idle
    cases redirect
  · rw [redirect] at turned
    cases taken : execution.taken with
    | false => simp [taken] at turned
    | true =>
        simp only [taken, if_true, Option.some.injEq] at turned
        refine ⟨more, execution, after, step, taken, ?_⟩
        rw [turned, more, MachineState.after_succ step]

/-! ## Execute -/

theorem read_in_execute (h : Tracks s p c g)
    (straight : s.Straight p g.accessed g.executed) {index : Nat}
    (noUse : c.exMem.control.memRead = true → c.exMem.rd ≠ 0 → c.exMem.rd ≠ index) :
    ((c.registers.apply c.memWb.write?).apply c.exMem.write?).read index =
      (s.after p g.executed).registers.read index := by
  rw [← c.retiring_eq, h.registers_retiring]
  rcases h.exMem with ⟨same, empty⟩ | ⟨more, word, found, latch⟩
  · rw [empty, same]
    rfl
  · obtain ⟨execution, next, step, -⟩ := straight g.accessed (Nat.le_refl _) (by omega)
    obtain ⟨word', found', done⟩ := MachineState.step_eq_executed_iff.1 step
    rw [found] at found'
    cases found'
    rw [latch] at noUse ⊢
    rw [MachineState.read_apply_exMem_write? done noUse, more, MachineState.after_succ step,
      (MachineState.execution_of_execute done).2.2.2.1]

theorem executed_slot (h : Tracks s p c g) (straight : s.Straight p g.accessed g.executed) :
    Slot g.executed g.decoded (c.executed = {})
      (c.executed.ResultOf p (s.after p g.executed)) := by
  rcases h.idEx with ⟨same, empty⟩ | ⟨more, latch, ⟨valid, word⟩, staged, follows⟩
  · refine .inl ⟨same, ?_⟩
    rw [Core.executed, empty]
    rfl
  · have noUse := h.noUse
    have here := follows straight
    rw [staged, IfId.decode, if_pos valid] at noUse
    refine .inr ⟨more, latch.word, here ▸ word, ?_⟩
    rw [Core.executed, Core.forwarding, staged]
    exact IdEx.execute_eq_alone valid here h.exMem_rd_lt h.memWb_rd_lt
      (h.read_in_execute straight fun reads pos => (noUse reads pos).1)
      (h.read_in_execute straight fun reads pos => (noUse reads pos).2)

/-! ## Decode -/

theorem decoded_slot (h : Tracks s p c g) (straight : s.Straight p g.accessed g.executed) :
    Slot g.decoded g.fetched (c.ifId.decode c.registers c.retiring = {})
      (∃ latch : IfId, latch.Holds p ∧
        c.ifId.decode c.registers c.retiring =
          latch.decode (c.registers.apply c.retiring) none ∧
        (s.Straight p g.executed g.decoded → latch.pc = (s.after p g.decoded).pc)) := by
  rcases h.ifId with ⟨same, empty⟩ | ⟨more, holds, -, follows⟩
  · refine .inl ⟨same, ?_⟩
    rw [empty]
    rfl
  · have bound : ∀ w, c.retiring = some w → w.rd < registerCount := by
      intro w writes
      rw [c.retiring_eq, MemWb.write?] at writes
      split at writes
      · cases writes
        exact h.memWb_rd_lt
      · cases writes
    exact .inr ⟨more, c.ifId, holds, IfId.decode_eq bound,
      fun rest => follows (straight.trans rest)⟩

/-! ## Fetch -/

theorem fetch_error (small : p.size < 2 ^ 60) (h : Tracks s p c g)
    (failed : c.fetch? = .error fault) :
    g.fetched = g.accessed ∧ p.fetchWord (s.after p g.accessed).pc = .error fault := by
  unfold Core.fetch? Program.fetch at failed
  split at failed
  · cases failed
  · rw [h.program] at failed
    cases found : p.fetchWord c.pc with
    | ok answer => simp [found, Except.map] at failed
    | error fault' =>
        obtain rfl : fault' = fault := by simpa [found, Except.map] using failed
        rcases h.front with fresh | ⟨range, -⟩
        · refine ⟨fresh, ?_⟩
          rw [← found, h.pc (by rw [fresh]; exact MachineState.straight_refl), fresh]
        · obtain ⟨answer, served⟩ := Program.fetchWord_of_inRange small range
          rw [served] at found
          cases found

theorem stalls_busy (h : Tracks s p c g) (stalls : c.stalls = true) :
    g.decoded = g.executed + 1 ∧ g.fetched = g.decoded + 1 := by
  unfold Core.stalls loadUseHazard at stalls
  constructor
  · rcases h.idEx with ⟨-, empty⟩ | ⟨more, -⟩
    · simp [empty, Control.bubble] at stalls
    · exact more
  · rcases h.ifId with ⟨-, empty⟩ | ⟨more, -⟩
    · simp [empty] at stalls
    · exact more

/-! ## The step -/

theorem step_turn (h : Tracks s p c g) (commits : c.Commits next fetched access)
    {target : Doubleword} (redirect : access.redirect = some target) (pc : next.pc = target)
    (ifId : next.ifId = {}) (idEx : next.idEx = {}) (exMem : next.exMem = {}) :
    ∃ g', Advances s p c g g' ∧ Tracks s p next g' := by
  obtain ⟨executed, execution, after, step, taken, there⟩ :=
    h.turn_of_redirect commits.access_eq redirect
  obtain ⟨reached, registers, memory, memWb⟩ := h.back_step commits
  refine ⟨_, .turn execution after step taken executed, ?_⟩
  exact
    { program := commits.program.trans h.program
      reached, registers, memory, memWb
      exMem := .inl ⟨rfl, exMem⟩
      idEx := .inl ⟨rfl, idEx⟩
      ifId := .inl ⟨rfl, ifId⟩
      pc := fun _ => pc.trans there
      front := .inl rfl
      noUse := by simp [ExMem.FeedsNoUse, exMem] }

theorem step_wait (h : Tracks s p c g) (commits : c.Commits next fetched access)
    (redirect : access.redirect = none) (stalls : c.stalls = true) (pc : next.pc = c.pc)
    (ifId : next.ifId = c.ifId) (idEx : next.idEx = {}) (exMem : next.exMem = c.executed) :
    ∃ g', Advances s p c g g' ∧ Tracks s p next g' := by
  have straight := h.straight_of_no_redirect commits.access_eq redirect
  obtain ⟨reached, registers, memory, memWb⟩ := h.back_step commits
  obtain ⟨decoded, more⟩ := h.stalls_busy stalls
  have order := h.order
  refine ⟨_, .wait straight stalls decoded more, ?_⟩
  exact
    { program := commits.program.trans h.program
      reached, registers, memory, memWb
      exMem := exMem ▸ h.executed_slot straight
      idEx := .inl ⟨rfl, idEx⟩
      ifId := by
        rcases h.ifId with ⟨same, -⟩ | ⟨-, holds, ahead, follows⟩
        · omega
        · rw [ifId, pc]
          exact .inr ⟨more, holds, ahead, fun rest => follows (straight.trans rest)⟩
      pc := fun rest => pc.trans (h.pc (straight.trans rest))
      front := by
        rcases h.front with fresh | ⟨range, -⟩
        · omega
        · rw [pc]
          exact .inr ⟨range, fun same => by simp only at same; omega⟩
      noUse := by
        rw [idEx]
        exact fun _ pos => ⟨pos, pos⟩ }

theorem step_flow (small : p.size < 2 ^ 60) (h : Tracks s p c g)
    (commits : c.Commits next fetched access) {got : Fetched} (redirect : access.redirect = none)
    (stalls : c.stalls = false) (fetch : c.program.fetch c.pc = .ok got)
    (pc : next.pc = got.nextPc) (ifId : next.ifId = got.latch)
    (idEx : next.idEx = c.ifId.decode c.registers c.retiring) (exMem : next.exMem = c.executed) :
    ∃ g', Advances s p c g g' ∧ Tracks s p next g' := by
  have straight := h.straight_of_no_redirect commits.access_eq redirect
  obtain ⟨reached, registers, memory, memWb⟩ := h.back_step commits
  have staged := h.decoded_slot straight
  rw [← idEx, ← commits.registers] at staged
  have noUse : next.exMem.FeedsNoUse next.idEx := by
    rw [exMem, idEx]
    exact IdEx.execute_feedsNoUse stalls
  rw [h.program, Program.fetch] at fetch
  cases found : p.fetchWord c.pc with
  | error fault => simp [found, Except.map] at fetch
  | ok answer =>
      rw [found] at fetch
      cases answer with
      | none =>
          cases fetch
          have atEnd := Program.fetchWord_eq_none_iff.1 found
          refine ⟨_, .drain straight stalls atEnd, ?_⟩
          exact
            { program := commits.program.trans h.program
              reached, registers, memory, memWb, noUse
              exMem := exMem ▸ h.executed_slot straight
              idEx := staged
              ifId := .inl ⟨rfl, ifId⟩
              pc := fun rest => pc.trans (h.pc (straight.trans rest))
              front := .inr ⟨pc.trans atEnd ▸ Program.inRange_endPc small,
                fun _ => pc.trans atEnd⟩ }
      | some word =>
          cases fetch
          refine ⟨_, .flow word straight stalls found, ?_⟩
          exact
            { program := commits.program.trans h.program
              reached, registers, memory, memWb, noUse
              exMem := exMem ▸ h.executed_slot straight
              idEx := staged
              ifId := by
                rw [ifId, pc]
                exact .inr ⟨rfl, ⟨rfl, found⟩, rfl, fun rest => h.pc (straight.trans rest)⟩
              pc := by
                intro rest
                have order := h.order
                obtain ⟨execution, after, step, taken⟩ :=
                  rest g.fetched (by simp only; omega) (by simp)
                rw [pc, MachineState.after_succ step, MachineState.pc_of_not_taken step taken,
                  h.pc (straight.trans (rest.mono (by simp)))]
              front := .inr ⟨pc ▸ Program.inRange_next small found, fun same => by simp at same⟩ }

theorem step (small : p.size < 2 ^ 60) (h : Tracks s p c g)
    (commits : c.Commits next fetched access) :
    ∃ g', Advances s p c g g' ∧ Tracks s p next g' := by
  cases commits.front with
  | turn target redirect pc ifId idEx exMem =>
      exact h.step_turn commits redirect pc ifId idEx exMem
  | wait redirect stalls pc ifId idEx exMem =>
      exact h.step_wait commits redirect stalls pc ifId idEx exMem
  | flow got redirect stalls _ fetch pc ifId idEx exMem =>
      exact h.step_flow small commits redirect stalls fetch pc ifId idEx exMem

/-! ## What write-back takes out -/

theorem retirement?_of_idle (h : Tracks s p c g) (idle : g.accessed = g.retired) :
    c.retirement? = none := by
  rcases h.memWb with ⟨-, empty⟩ | ⟨more, -⟩
  · rw [Core.retirement?, empty]
    rfl
  · omega

theorem retirement?_of_busy (h : Tracks s p c g) (busy : g.accessed = g.retired + 1) :
    ∃ execution after, (s.after p g.retired).step p = .executed execution after ∧
      c.retirement? = if execution.isKnown then some execution.retirement else none := by
  rcases h.memWb with ⟨same, -⟩ | ⟨-, word, result, found, accessed, latch⟩
  · omega
  · obtain ⟨execution, after, done, -, -, retire⟩ := MachineState.execute_of_access accessed
    exact ⟨execution, after, MachineState.step_eq_executed_iff.2 ⟨word, found, done⟩,
      by rw [Core.retirement?, latch, retire]⟩

end Tracks

end FiveStage
