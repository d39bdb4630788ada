import FiveStage.Proofs.Isa.Encoded
import FiveStage.Proofs.Machine.Effect
import FiveStage.Proofs.Simulator.Limit

/-!
# Programs without loops

If control can only move forward, every instruction is carried out at most once.  The schedule
gives an instruction at most four cycles, so that `run_ends_of_forward` can say in how many cycles
such a program has ended.
-/

namespace FiveStage

variable {p : Program} {s next : MachineState} {w : Word} {execution : Execution} {m n : Nat}

/-- A word does not jump through a register, and leads ahead if it transfers control at all. -/
def Word.LeadsAhead (w : Word) : Prop :=
  w.opcode ≠ Opcode.jalr.code ∧
    (w.opcode = Opcode.branch.code ∨ w.opcode = Opcode.jal.code → 0 < w.immediate.toInt)

instance (w : Word) : Decidable w.LeadsAhead := inferInstanceAs (Decidable (_ ∧ _))

def Program.IsForward (p : Program) : Prop := ∀ w ∈ p.words, w.LeadsAhead

instance (p : Program) : Decidable p.IsForward :=
  decidable_of_iff (p.words.toList.all fun w => w.LeadsAhead) (by
    simp only [List.all_eq_true, decide_eq_true_eq, Array.mem_toList_iff, Program.IsForward])

theorem Program.mem_of_wordAt? {pc : Doubleword} (found : p.wordAt? pc = some w) : w ∈ p.words := by
  unfold wordAt? at found
  split at found
  · exact Array.mem_of_getElem? found
  · cases found

namespace MachineState

/-! ## One instruction -/

theorem category_of_taken (taken : s.taken w = true) :
    ∃ o, Opcode.ofCode? w.opcode = some o ∧ (o = .branch ∨ o = .jal ∨ o = .jalr) := by
  rw [MachineState.taken, Control.ofCode] at taken
  cases category : Opcode.ofCode? w.opcode with
  | none => simp [category, Control.bubble] at taken
  | some o =>
      refine ⟨o, rfl, ?_⟩
      cases o <;> simp [category, Opcode.control, Control.bubble] at taken ⊢

theorem target_of_relative {o : Opcode} (category : Opcode.ofCode? w.opcode = some o)
    (relative : o = .branch ∨ o = .jal) : s.target w = s.pc + w.immediate := by
  have control := Control.ofCode_of_category category
  rcases relative with rfl | rfl
  · simp [target, control, Opcode.control, relativeTarget]
  · have sum := s.calculated_of_address category rfl
    simpa [target, control, Opcode.control, firstInput, secondInput] using sum

theorem immediate_lt {o : Opcode} (category : Opcode.ofCode? w.opcode = some o)
    (relative : o = .branch ∨ o = .jal) : w.immediate.toInt < 2 ^ 20 := by
  rcases relative with rfl | rfl
  · have := Instruction.bounds_extract_b w
    rw [Word.immediate_of_category category rfl]
    omega
  · have := Instruction.bounds_extract_j w
    rw [Word.immediate_of_category category rfl]
    omega

theorem pc_lt_target {o : Opcode} (category : Opcode.ofCode? w.opcode = some o)
    (relative : o = .branch ∨ o = .jal) (near : s.pc.toNat < 2 ^ 62)
    (ahead : 0 < w.immediate.toInt) : s.pc.toNat < (s.target w).toNat := by
  have short := immediate_lt category relative
  have wide := w.immediate.isLt
  rw [BitVec.toInt_eq_toNat_cond] at ahead short
  rw [target_of_relative category relative, BitVec.toNat_add]
  -- The program and its offsets are far too short for the sum to wrap round.
  split at ahead <;> omega

theorem pc_lt_of_executed (small : p.size < 2 ^ 60) (forward : p.IsForward)
    (step : s.step p = .executed execution next) : s.pc.toNat < next.pc.toNat := by
  obtain ⟨w, found, done⟩ := step_eq_executed_iff.1 step
  have here := Program.wordAt?_of_fetchWord found
  obtain ⟨-, bound⟩ := Program.lt_of_wordAt? here
  obtain ⟨-, -, -, -, pc⟩ := execution_of_execute done
  simp only [instructionSize] at bound
  rw [pc, nextPc]
  split
  next taken =>
    obtain ⟨noJalr, ahead⟩ := forward w (Program.mem_of_wordAt? here)
    obtain ⟨o, category, kind⟩ := category_of_taken taken
    have code := Opcode.code_of_ofCode? category
    have relative : o = .branch ∨ o = .jal := by
      rcases kind with branch | jal | rfl
      · exact .inl branch
      · exact .inr jal
      · exact absurd code.symm noJalr
    have covered : w.opcode = Opcode.branch.code ∨ w.opcode = Opcode.jal.code := by
      rcases relative with rfl | rfl
      · exact .inl code.symm
      · exact .inr code.symm
    exact pc_lt_target category relative (by omega) (ahead covered)
  next =>
    simp only [BitVec.toNat_add, BitVec.toNat_ofNat, instructionSize]
    omega

/-! ## The whole run -/

theorem le_pc_of_fetch (small : p.size < 2 ^ 60) (forward : p.IsForward)
    (reaches : s.Executes p n) (found : p.fetchWord (s.after p n).pc = .ok (some w)) :
    instructionSize * n ≤ (s.after p n).pc.toNat := by
  induction n generalizing w with
  | zero => exact Nat.zero_le _
  | succ n ih =>
      obtain ⟨execution, next, step⟩ := reaches n n.lt_succ_self
      obtain ⟨before, found', -⟩ := step_eq_executed_iff.1 step
      have behind := ih (reaches.mono n.le_succ) found'
      have ahead := pc_lt_of_executed small forward step
      obtain ⟨aligned, -⟩ := Program.lt_of_wordAt? (Program.wordAt?_of_fetchWord found)
      obtain ⟨aligned', -⟩ := Program.lt_of_wordAt? (Program.wordAt?_of_fetchWord found')
      rw [after_succ step] at aligned ⊢
      simp only [instructionSize] at *
      omega

theorem lt_size_of_fetch (small : p.size < 2 ^ 60) (forward : p.IsForward)
    (reaches : s.Executes p n) (found : p.fetchWord (s.after p n).pc = .ok (some w)) :
    n < p.size := by
  have far := le_pc_of_fetch small forward reaches found
  obtain ⟨-, bound⟩ := Program.lt_of_wordAt? (Program.wordAt?_of_fetchWord found)
  simp only [instructionSize] at *
  omega

theorem le_size_of_executes (small : p.size < 2 ^ 60) (forward : p.IsForward)
    (reaches : s.Executes p n) : n ≤ p.size := by
  cases n with
  | zero => exact Nat.zero_le _
  | succ n =>
      obtain ⟨execution, next, step⟩ := reaches n n.lt_succ_self
      obtain ⟨w, found, -⟩ := step_eq_executed_iff.1 step
      exact lt_size_of_fetch small forward (reaches.mono n.le_succ) found

theorem exists_stop_of_bound (bound : ∀ n, s.Executes p n → n ≤ m) :
    ∃ n ≤ m, s.Executes p n ∧
      ∀ execution next, (s.after p n).step p ≠ .executed execution next := by
  by_contra goesOn
  push Not at goesOn
  have all : ∀ n ≤ m + 1, s.Executes p n := by
    intro n le
    induction n with
    | zero => exact executes_zero
    | succ n ih =>
        obtain ⟨execution, next, step⟩ := goesOn n (by omega) (ih (by omega))
        exact executes_of_step step
  exact absurd (bound (m + 1) (all _ le_rfl)) (by omega)

/-! ## The schedule -/

theorem retireCycle_le_four_mul (s : MachineState) (p : Program) (n : Nat) :
    s.retireCycle p n ≤ 4 * n + 5 := by
  induction n with
  | zero => exact le_rfl
  | succ n ih =>
      cases transfers : s.transfers p n with
      | true =>
          rw [retireCycle_of_transfers transfers]
          omega
      | false =>
          have waits := Bool.toNat_le (s.delays p n)
          simp only [retireCycle, transfers, Bool.toNat_false]
          omega

theorem completionCycle_le_four_mul (pos : 0 < n) : s.completionCycle p n ≤ 4 * n + 1 := by
  refine (completionCycle_le_iff pos).2 fun k lt => ?_
  have due := s.retireCycle_le_four_mul p k
  exact ⟨by omega, fun _ => by omega⟩

theorem completionCycle_pos (pos : 0 < n) : 0 < s.completionCycle p n := by
  by_contra none
  have early := (completionCycle_le_iff pos).1 (Nat.le_of_not_lt none) 0 pos
  simp [retireCycle] at early

end MachineState

namespace Simulator

variable {config : Config} {sim : Simulator} {outcome : Outcome}

theorem cap_eq_top (created : create p config = .ok sim) (unlimited : config.maxCycles = none) :
    sim.cap = ⊤ := by
  obtain ⟨-, -, memory, -, rfl⟩ := create_eq_ok_iff.1 created
  simp [cap, unlimited]

theorem runsTo_of_endsIn (created : create p config = .ok sim) (unlimited : config.maxCycles = none)
    (pos : 0 < n) (ends : sim.core.EndsIn n outcome) (stops : outcome ≠ .running) :
    sim.RunsTo outcome (sim.ticked n) := by
  obtain ⟨t, rfl⟩ := Nat.exists_eq_add_one.2 pos
  have below : (t : ℕ∞) < sim.cap := by
    rw [cap_eq_top created unlimited]
    exact ENat.natCast_lt_top t
  have told := ends.ends t le_rfl
  have run := (isNew_create created).runsIn_of_end below (fun i lt => ends.on i (by omega))
    (told ▸ stops)
  rw [told] at run
  exact run.runsTo

theorem exists_endsIn_of_forward (small : p.size < 2 ^ 60) (forward : p.IsForward)
    (created : create p config = .ok sim) :
    ∃ n outcome, 0 < n ∧ sim.core.EndsIn n outcome ∧ n ≤ 4 * p.size + 1 ∧
      (outcome = .complete ∨ ∃ fault, outcome = .halted fault) := by
  obtain ⟨m, le, reaches, stops⟩ := MachineState.exists_stop_of_bound
    (s := sim.reference) fun n => MachineState.le_size_of_executes small forward
  cases stop : (sim.reference.after p m).step p with
  | executed execution next => exact absurd stop (stops execution next)
  | finished =>
      have pos : 0 < m := MachineState.pos_of_finished small rfl stop
      have soon := MachineState.completionCycle_le_four_mul (s := sim.reference) (p := p) pos
      exact ⟨_, _, MachineState.completionCycle_pos pos,
        completes_of_finished small created reaches stop, by omega, .inl rfl⟩
  | faulted fault =>
      obtain ⟨t, ends, due⟩ := halts_of_faulted small created reaches stop
      have soon := sim.reference.retireCycle_le_four_mul p m
      refine ⟨t + 1, _, t.succ_pos, ends, ?_, .inr ⟨fault, rfl⟩⟩
      -- A fetch that faults stops the core earlier; any other fault has a word of its own.
      rcases due with ⟨-, due⟩ | ⟨⟨w, found, -⟩, due⟩
      · omega
      · have place := MachineState.lt_size_of_fetch small forward reaches found
        omega

/-- A run of a program without jumps through registers or backwards ends, with the program or with a
fault, and takes at most four cycles for each word of the program and one more. -/
theorem run_ends_of_forward (small : p.size < 2 ^ 60) (forward : p.IsForward)
    (created : create p config = .ok sim) (unlimited : config.maxCycles = none) :
    ∃ outcome final, sim.RunsTo outcome final ∧
      (outcome = .complete ∨ ∃ fault, outcome = .halted fault) ∧
      final.core.clock ≤ 4 * p.size + 1 := by
  obtain ⟨n, outcome, pos, ends, le, how⟩ := exists_endsIn_of_forward small forward created
  have stops : outcome ≠ .running := by
    rcases how with rfl | ⟨fault, rfl⟩ <;> simp
  have clock : (sim.ticked n).core.clock = n := ends.clock n le_rfl
  exact ⟨outcome, sim.ticked n, runsTo_of_endsIn created unlimited pos ends stops, how,
    by rw [clock]; exact le⟩

def jumpsAhead : Program := ⟨#[0x0040006F, 0x0040006F], by decide⟩

def jumpsAheadSim : Simulator := { core := Core.boot jumpsAhead 16, maxCycles := none }

theorem jumpsAhead_ends :
    jumpsAhead.size < 2 ^ 60 ∧ jumpsAhead.IsForward ∧
      create jumpsAhead { dataSize := 16 } = .ok jumpsAheadSim ∧
      (∃ outcome final, jumpsAheadSim.RunsTo outcome final ∧
        (outcome = .complete ∨ ∃ fault, outcome = .halted fault) ∧
        final.core.clock ≤ 4 * jumpsAhead.size + 1) ∧
      (Core.ticks 8 jumpsAheadSim.core).isFinished = false := by
  have small : jumpsAhead.size < 2 ^ 60 := by decide
  have forward : jumpsAhead.IsForward := by decide
  have created : create jumpsAhead { dataSize := 16 } = .ok jumpsAheadSim := by decide
  exact ⟨small, forward, created, run_ends_of_forward small forward created rfl, by decide⟩

end Simulator

end FiveStage
