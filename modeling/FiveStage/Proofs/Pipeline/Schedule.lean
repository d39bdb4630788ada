import FiveStage.Proofs.Pipeline.Tracking

/-!
# The schedule of a run

`MachineState.retireCycle` says from the sequential run alone in which cycle each instruction
leaves the pipeline: one cycle behind the one before it, one more if it has to wait for a load, and
three more behind a transfer of control.  `OnTime` says that a core keeps to this schedule, and
`OnTime.step` that it goes on to do so.
-/

namespace FiveStage

/-- A load writes a register that stands in a source field of the next word, whatever the format
of that word. -/
def Word.delays (word next : Word) : Bool :=
  word.opcode == Opcode.load.code && word.rd != 0 && (word.rd == next.rs1 || word.rd == next.rs2)

theorem Control.memRead_eq (word : Word) :
    (Control.ofCode word.opcode).memRead = (word.opcode == Opcode.load.code) := by
  unfold ofCode
  cases found : Opcode.ofCode? word.opcode with
  | none =>
      have other : word.opcode ≠ Opcode.load.code := by
        intro same
        rw [same, Opcode.ofCode?_code] at found
        cases found
      simp [other, bubble]
  | some o =>
      rw [← Opcode.code_of_ofCode? found]
      cases o <;> decide

theorem loadUseHazard_decode {ahead behind : IfId} {rf : RegisterFile}
    {write : Option RegisterWrite} (valid₁ : ahead.valid = true) (valid₂ : behind.valid = true) :
    loadUseHazard (ahead.decode rf write) behind = ahead.word.delays behind.word := by
  simp only [loadUseHazard, IfId.decode, valid₁, valid₂, if_true, Control.memRead_eq,
    Word.delays, Bool.true_and]

namespace MachineState

variable {s next : MachineState} {p : Program} {execution : Execution} {m n : Nat}

def delays (s : MachineState) (p : Program) (n : Nat) : Bool :=
  match p.wordAt? (s.after p n).pc, p.wordAt? (s.after p (n + 1)).pc with
  | some word, some next => word.delays next
  | _, _ => false

def transfers (s : MachineState) (p : Program) (n : Nat) : Bool :=
  match (s.after p n).step p with
  | .executed execution _ => execution.taken
  | .finished | .faulted _ => false

/-- The cycle in which instruction `n` leaves the pipeline, counting cycles from 1 and instructions
from 0. -/
def retireCycle (s : MachineState) (p : Program) : Nat → Nat
  | 0 => 5
  | n + 1 => s.retireCycle p n + 1 + (s.delays p n).toNat + 3 * (s.transfers p n).toNat

theorem retireCycle_lt_succ (s : MachineState) (p : Program) (n : Nat) :
    s.retireCycle p n < s.retireCycle p (n + 1) := by
  simp only [retireCycle]
  omega

theorem retireCycle_lt (lt : m < n) : s.retireCycle p m < s.retireCycle p n := by
  obtain ⟨extra, rfl⟩ := Nat.exists_eq_add_of_lt lt
  clear lt
  induction extra with
  | zero => exact retireCycle_lt_succ s p m
  | succ extra ih => exact Nat.lt_trans ih (retireCycle_lt_succ s p (m + extra + 1))

theorem retireCycle_le (le : m ≤ n) : s.retireCycle p m ≤ s.retireCycle p n := by
  rcases Nat.eq_or_lt_of_le le with rfl | lt
  · exact Nat.le_refl _
  · exact Nat.le_of_lt (retireCycle_lt lt)

theorem transfers_of_step (step : (s.after p n).step p = .executed execution next) :
    s.transfers p n = execution.taken := by
  simp [transfers, step]

/-- A load is no transfer of control, so nothing waits behind a transfer. -/
theorem delays_of_transfers (h : s.transfers p n = true) : s.delays p n = false := by
  unfold transfers at h
  split at h
  next execution next step =>
    obtain ⟨word, found, done⟩ := step_eq_executed_iff.1 step
    obtain ⟨-, -, taken, -⟩ := execution_of_execute done
    obtain ⟨-, reads, -⟩ := Control.ofCode_signals word.opcode
    have noLoad : (word.opcode == Opcode.load.code) = false := by
      rw [← Control.memRead_eq]
      cases memRead : (Control.ofCode word.opcode).memRead with
      | false => rfl
      | true =>
          rw [h] at taken
          simp [MachineState.taken, (reads memRead).2.1, (reads memRead).2.2] at taken
    unfold delays
    rw [Program.wordAt?_of_fetchWord found]
    split
    next found' _ =>
      cases found'
      simp [Word.delays, noLoad]
    · rfl
  · cases h
  · cases h

theorem retireCycle_of_transfers (h : s.transfers p n = true) :
    s.retireCycle p (n + 1) = s.retireCycle p n + 4 := by
  rw [retireCycle, delays_of_transfers h, h]
  rfl

end MachineState

structure OnTime (s : MachineState) (p : Program) (c : Core) (g : StageCounts) : Prop where
  past : ∀ k < g.retired, s.retireCycle p k ≤ c.clock
  memWb : g.accessed = g.retired + 1 → s.retireCycle p g.retired = c.clock + 1
  exMem : g.executed = g.accessed + 1 → s.retireCycle p g.accessed = c.clock + 2
  idEx : g.decoded = g.executed + 1 → s.Straight p g.accessed g.executed →
    s.retireCycle p g.executed = c.clock + 3
  ifId : g.fetched = g.decoded + 1 → s.Straight p g.accessed g.decoded →
    s.retireCycle p g.decoded = c.clock + 4 + c.stalls.toNat
  fresh : g.fetched = g.accessed → (s.after p g.accessed).step p ≠ .finished →
    s.retireCycle p g.accessed = c.clock + 5

namespace Tracks

variable {s : MachineState} {p : Program} {c next : Core} {g g' : StageCounts}

theorem stalls_eq_delays (h : Tracks s p c g) (decoded : g.decoded = g.executed + 1)
    (fetched : g.fetched = g.decoded + 1) (straight : s.Straight p g.accessed g.decoded) :
    c.stalls = s.delays p g.executed := by
  rcases h.idEx with ⟨same, -⟩ | ⟨-, latch, ⟨valid, word⟩, staged, follows⟩
  · omega
  · rcases h.ifId with ⟨same, -⟩ | ⟨-, ⟨valid', word'⟩, -, follows'⟩
    · omega
    · have order := h.order
      rw [follows (straight.mono (by omega))] at word
      rw [follows' straight, decoded] at word'
      rw [Core.stalls, staged, loadUseHazard_decode valid valid', MachineState.delays,
        Program.wordAt?_of_fetchWord word, Program.wordAt?_of_fetchWord word']

theorem stalls_eq_false (h : Tracks s p c g) (decoded : g.decoded = g.executed) :
    c.stalls = false := by
  rcases h.idEx with ⟨-, empty⟩ | ⟨more, -⟩
  · simp [Core.stalls, loadUseHazard, empty, Control.bubble]
  · omega

theorem pc_of_fresh (h : Tracks s p c g) (fresh : g.fetched = g.accessed) :
    c.pc = (s.after p g.accessed).pc := by
  rw [h.pc (by rw [fresh]; exact MachineState.straight_refl), fresh]

theorem retireCycle_fetched (h : Tracks s p c g) (t : OnTime s p c g)
    (fetched : g.fetched = g.decoded + 1) (stalls : c.stalls = false)
    (straight : s.Straight p g.accessed g.fetched) :
    s.retireCycle p g.fetched = c.clock + 5 + (s.delays p g.decoded).toNat := by
  have order := h.order
  obtain ⟨execution, next, step, taken⟩ := straight g.decoded (by omega) (by omega)
  have due := t.ifId fetched (straight.mono (by omega))
  rw [fetched, MachineState.retireCycle, due, MachineState.transfers_of_step step, stalls, taken]
  simp only [Bool.toNat_false]
  omega

end Tracks

namespace OnTime

variable {s : MachineState} {p : Program} {c next : Core} {g g' : StageCounts}

theorem past_step (t : OnTime s p c g) (h : Tracks s p c g) (clock : next.clock = c.clock + 1) :
    ∀ k < g.accessed, s.retireCycle p k ≤ next.clock := by
  intro k lt
  obtain ⟨low, high⟩ := h.memWb.le
  rcases Nat.lt_or_ge k g.retired with before | behind
  · exact Nat.le_trans (t.past k before) (by omega)
  · obtain rfl : k = g.retired := by omega
    have due := t.memWb (by omega)
    omega

theorem step (t : OnTime s p c g) (h : Tracks s p c g) (h' : Tracks s p next g')
    (clock : next.clock = c.clock + 1) (advances : Advances s p c g g') :
    OnTime s p next g' := by
  have past := t.past_step h clock
  have order := h.order
  cases advances with
  | turn execution after step taken executed =>
      have due := t.exMem executed
      have later := MachineState.retireCycle_of_transfers
        ((MachineState.transfers_of_step step).trans taken)
      refine ⟨past, fun _ => by rw [due, clock], by simp, by simp, by simp, ?_⟩
      intro _ _
      simp only
      rw [executed, later, due, clock]
  | wait straight stalls decoded fetched =>
      refine ⟨past, fun more => by rw [t.exMem more, clock],
        fun _ => by rw [t.idEx decoded straight, clock], by simp, ?_, ?_⟩
      · intro _ rest
        have due := t.ifId fetched (straight.trans rest)
        have still := h'.stalls_eq_false rfl
        simp only
        rw [due, stalls, still, clock]
        rfl
      · intro same
        simp only at same
        omega
  | drain straight stalls atEnd =>
      refine ⟨past, fun more => by rw [t.exMem more, clock],
        fun more => by rw [t.idEx more straight, clock], ?_, by simp, ?_⟩
      · intro more rest
        rw [t.ifId more (straight.trans rest), stalls, clock]
        rfl
      · intro same notEnd
        simp only at same notEnd
        have executed : g.executed = g.fetched := same.symm
        have arrived := h.pc (executed ▸ straight)
        refine absurd ?_ notEnd
        rw [MachineState.step_eq_finished_iff, Program.fetchWord_eq_none_iff, executed, ← arrived,
          atEnd]
  | flow word straight stalls found =>
      refine ⟨past, fun more => by rw [t.exMem more, clock],
        fun more => by rw [t.idEx more straight, clock], ?_, ?_, ?_⟩
      · intro more rest
        rw [t.ifId more (straight.trans rest), stalls, clock]
        rfl
      · intro _ rest
        simp only at rest ⊢
        rcases h.ifId.le with ⟨low, high⟩
        rcases Nat.eq_or_lt_of_le low with same | more
        · -- Nothing was left in front, so this is the first fetch behind a transfer.
          have fresh : g.fetched = g.accessed := by
            rcases h.front with fresh | ⟨-, ended⟩
            · exact fresh
            · rw [ended same.symm, Program.fetchWord_eq_none_iff.2 rfl] at found
              cases found
          have here := h.pc_of_fresh fresh
          have notEnd : (s.after p g.accessed).step p ≠ .finished :=
            MachineState.step_ne_finished (here ▸ found) (by simp)
          have still := h'.stalls_eq_false same.symm
          rw [fresh, t.fresh fresh notEnd, still, clock]
          rfl
        · have fetched : g.fetched = g.decoded + 1 := by omega
          have due := h.retireCycle_fetched t fetched stalls (straight.trans rest)
          have waits := h'.stalls_eq_delays (by simpa using fetched) rfl rest
          rw [due, waits, clock]
      · intro same
        simp only at same
        omega

end OnTime

end FiveStage
