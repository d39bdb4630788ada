import FiveStage.Proofs.Pipeline.Tracking
import FiveStage.Proofs.Simulator.Setup

/-!
# Retirement in program order

The instructions that leave the pipeline are those of the sequential run, in its order and with its
register writes.  `retirements_eq_sequential` says so for every program, configuration and number
of cycles, together with what registers and memory hold at that moment.
-/

namespace FiveStage

namespace Core

variable {c next : Core} {fetched : Option Fetched} {access : AccessResult} {fault : Fault}

/-- The instruction that the next cycle retires.  A cycle that stops on a fault retires none. -/
def retires? (c : Core) : Option Retirement :=
  if c.isFinished then none
  else
    match c.tick.1 with
    | .halted _ => none
    | .running | .complete => c.retirement?

def retirements : Nat → Core → List Retirement
  | 0, _ => []
  | n + 1, c => c.retires?.toList ++ retirements n c.tick.2

theorem ticks_succ (n : Nat) (c : Core) : ticks (n + 1) c = (ticks n c).tick.2 :=
  ticks_add n 1 c

theorem retirements_succ (n : Nat) (c : Core) :
    retirements (n + 1) c = retirements n c ++ (ticks n c).retires?.toList := by
  induction n generalizing c with
  | zero => simp [retirements, ticks]
  | succ n ih =>
      rw [retirements, ih c.tick.2, ← List.append_assoc]
      rfl

/-! ## The three ways of a tick -/

theorem isFinished_eq_false_iff : c.isFinished = false ↔ c.fault = none ∧ c.complete = false := by
  simp [isFinished]

def verdict (c : Core) : Outcome :=
  match c.fault with
  | some fault => .halted fault
  | none => .complete

theorem tick_eq_verdict (finished : c.isFinished = true) : c.tick = (c.verdict, c) := by
  unfold verdict
  cases fault : c.fault with
  | some fault => exact tick_of_fault fault
  | none => exact tick_of_complete fault (by simpa [isFinished, fault] using finished)

theorem tick_of_isFinished (h : c.isFinished = true) : c.tick.2 = c ∧ c.tick.1 ≠ .running := by
  rw [tick_eq_verdict h]
  refine ⟨rfl, ?_⟩
  cases fault : c.fault <;> simp [verdict, fault]

/-- What every committed cycle and every halt of a running core keep, any number of ticks keeps. -/
theorem kept_by_ticks {Kept : Core → Prop}
    (commit : ∀ {c next fetched access}, c.isFinished = false → Kept c →
      c.Commits next fetched access → Kept next.settle.2)
    (halt : ∀ {c fault}, c.isFinished = false → Kept c → c.evaluate = .error fault →
      Kept (c.halt fault))
    (start : Kept c) (n : Nat) : Kept (ticks n c) := by
  induction n with
  | zero => exact start
  | succ n ih =>
      rw [ticks_succ]
      cases finished : (ticks n c).isFinished with
      | true => rwa [tick_eq_verdict finished]
      | false =>
          obtain ⟨running, going⟩ := isFinished_eq_false_iff.1 finished
          rcases tick_cases running going with ⟨fault, failed, halted⟩ | ⟨next, _, _, done, settled⟩
          · rw [halted]
            exact halt finished ih failed
          · rw [settled]
            exact commit finished ih done

theorem retires?_of_isFinished (h : c.isFinished = true) : c.retires? = none := by
  simp [retires?, h]

theorem retires?_of_halted (h : c.tick.1 = .halted fault) : c.retires? = none := by
  simp [retires?, h]

theorem retires?_of_settle (running : c.isFinished = false) (h : c.tick = next.settle) :
    c.retires? = c.retirement? := by
  have outcome : next.settle.1 = .complete ∨ next.settle.1 = .running := by
    unfold settle
    split <;> simp
  unfold retires?
  rw [running, h]
  rcases outcome with done | on <;> simp [*]

end Core

/-- The retirements that a stretch of the sequential run stands for: unknown words leave none. -/
def retirementsOf (executions : List Execution) : List Retirement :=
  (executions.filter (·.isKnown)).map (·.retirement)

theorem retirementsOf_append (executions : List Execution) (execution : Execution) :
    retirementsOf (executions ++ [execution]) =
      retirementsOf executions ++
        (if execution.isKnown then some execution.retirement else none).toList := by
  cases known : execution.isKnown <;> simp [retirementsOf, known]

namespace Tracks

variable {s : MachineState} {p : Program} {c next : Core} {g : StageCounts}

theorem settle (h : Tracks s p next g) : Tracks s p next.settle.2 g := by
  unfold Core.settle
  split
  · exact h.congr rfl rfl rfl rfl rfl rfl rfl rfl
  · exact h

theorem retirementsOf_accessed (h : Tracks s p c g) :
    retirementsOf (MachineState.run p g.accessed s).1 =
      retirementsOf (MachineState.run p g.retired s).1 ++ c.retirement?.toList := by
  obtain ⟨low, high⟩ := h.memWb.le
  rcases Nat.eq_or_lt_of_le low with idle | busy
  · rw [h.retirement?_of_idle idle.symm, ← idle, Option.toList_none, List.append_nil]
  · have more : g.accessed = g.retired + 1 := by omega
    obtain ⟨execution, after, step, retire⟩ := h.retirement?_of_busy more
    rw [more, MachineState.run_succ step, retirementsOf_append, retire]

theorem tick (small : p.size < 2 ^ 60) (h : Tracks s p c g) :
    ∃ g', Tracks s p c.tick.2 g' ∧
      retirementsOf (MachineState.run p g'.retired s).1 =
        retirementsOf (MachineState.run p g.retired s).1 ++ c.retires?.toList := by
  cases finished : c.isFinished with
  | true =>
      refine ⟨g, ?_, ?_⟩
      · rw [(Core.tick_of_isFinished finished).1]
        exact h
      · simp [Core.retires?_of_isFinished finished]
  | false =>
      obtain ⟨running, going⟩ := Core.isFinished_eq_false_iff.1 finished
      rcases Core.tick_cases running going with
        ⟨fault, -, halted⟩ | ⟨next, fetched, access, commits, settled⟩
      · refine ⟨g, ?_, ?_⟩
        · rw [halted]
          exact h.congr rfl rfl rfl rfl rfl rfl rfl rfl
        · have idle : c.retires? = none := Core.retires?_of_halted (by rw [halted])
          simp [idle]
      · obtain ⟨g', advances, follows⟩ := h.step small commits
        refine ⟨g', settled ▸ follows.settle, ?_⟩
        have passed : g'.retired = g.accessed := by cases advances <;> rfl
        rw [passed, h.retirementsOf_accessed, Core.retires?_of_settle finished settled]

end Tracks

namespace Simulator

variable {p : Program} {config : Config} {sim : Simulator}

def reference (sim : Simulator) : MachineState :=
  { registers := sim.core.registers, memory := sim.core.memory }

theorem create_core (created : create p config = .ok sim) :
    sim.core = { Core.boot p config.dataSize with
      registers := sim.core.registers, memory := sim.core.memory } := by
  obtain ⟨-, -, memory, -, rfl⟩ := create_eq_ok_iff.1 created
  rfl

theorem tracks_create (created : create p config = .ok sim) :
    Tracks sim.reference p sim.core ⟨0, 0, 0, 0, 0⟩ := by
  rw [create_core created]
  exact
    { program := rfl
      reached := MachineState.executes_zero
      registers := rfl
      memory := rfl
      memWb := .inl ⟨rfl, rfl⟩
      exMem := .inl ⟨rfl, rfl⟩
      idEx := .inl ⟨rfl, rfl⟩
      ifId := .inl ⟨rfl, rfl⟩
      pc := fun _ => rfl
      front := .inl rfl
      noUse := fun _ pos => absurd rfl pos }

theorem exists_tracks (small : p.size < 2 ^ 60) (created : create p config = .ok sim) (k : Nat) :
    ∃ g, Tracks sim.reference p (Core.ticks k sim.core) g ∧
      Core.retirements k sim.core =
        retirementsOf (MachineState.run p g.retired sim.reference).1 := by
  induction k with
  | zero => exact ⟨_, tracks_create created, rfl⟩
  | succ k ih =>
      obtain ⟨g, tracks, retired⟩ := ih
      obtain ⟨g', tracks', more⟩ := tracks.tick small
      refine ⟨g', Core.ticks_succ k _ ▸ tracks', ?_⟩
      rw [Core.retirements_succ, retired, more]

/-- After any number of cycles the retired instructions are the known ones among the first `n` of
the sequential run, each with the register write of that run, and the registers are those after
these `n`.  The instruction on its way to write-back, if there is one, is the next of the run, and
memory is already that after it. -/
theorem retirements_eq_sequential (small : p.size < 2 ^ 60)
    (created : create p config = .ok sim) (k : Nat) :
    ∃ n m, n ≤ m ∧ m ≤ n + 1 ∧ sim.reference.Executes p m ∧
      Core.retirements k sim.core = retirementsOf (MachineState.run p n sim.reference).1 ∧
      (Core.ticks k sim.core).registers = (MachineState.run p n sim.reference).2.registers ∧
      Core.retirements k sim.core ++ (Core.ticks k sim.core).retirement?.toList =
        retirementsOf (MachineState.run p m sim.reference).1 ∧
      (Core.ticks k sim.core).memory = (MachineState.run p m sim.reference).2.memory := by
  obtain ⟨g, tracks, retired⟩ := exists_tracks small created k
  obtain ⟨low, high⟩ := tracks.memWb.le
  refine ⟨g.retired, g.accessed, low, high, tracks.reached, retired, tracks.registers, ?_,
    tracks.memory⟩
  rw [retired, tracks.retirementsOf_accessed]

def sampleProgram : Program :=
  ⟨#[0x00002083, 0x00108113, 0x00000463, 0x00202023, 0x00202223], by decide⟩

def sampleConfig : Config := { dataSize := 16, memoryPreloads := [⟨0, 41, 4⟩] }

def sample : Simulator :=
  { core :=
      { Core.boot sampleProgram 16 with
        memory := ⟨#[41, 0, 0, 0, 0, 0, 0, 0, 0, 0, 0, 0, 0, 0, 0, 0]⟩ }
    maxCycles := none }

theorem sample_retirements :
    sampleProgram.size < 2 ^ 60 ∧ create sampleProgram sampleConfig = .ok sample ∧
      ∃ n m, n ≤ m ∧ m ≤ n + 1 ∧ sample.reference.Executes sampleProgram m ∧
        Core.retirements 7 sample.core =
          retirementsOf (MachineState.run sampleProgram n sample.reference).1 ∧
        (Core.ticks 7 sample.core).registers =
          (MachineState.run sampleProgram n sample.reference).2.registers ∧
        Core.retirements 7 sample.core ++ (Core.ticks 7 sample.core).retirement?.toList =
          retirementsOf (MachineState.run sampleProgram m sample.reference).1 ∧
        (Core.ticks 7 sample.core).memory =
          (MachineState.run sampleProgram m sample.reference).2.memory :=
  have small : sampleProgram.size < 2 ^ 60 := by decide
  have created : create sampleProgram sampleConfig = .ok sample := by decide
  ⟨small, created, retirements_eq_sequential small created 7⟩

end Simulator

end FiveStage
