import FiveStage.Machine.Sequential
import Mathlib.Tactic.Common

/-!
# Runs of the sequential machine

`MachineState.after` numbers the states of a run: instruction `n` starts in the state after `n`
instructions, and once the machine has stopped the state stays as it is.
-/

namespace FiveStage.MachineState

variable {p : Program} {s next : MachineState} {word : Word} {execution : Execution} {m n : Nat}

def after (s : MachineState) (p : Program) (n : Nat) : MachineState := (run p n s).2

def Executes (s : MachineState) (p : Program) (n : Nat) : Prop :=
  ∀ k < n, ∃ execution next, (s.after p k).step p = .executed execution next

/-- The instructions from `m` up to but without `n` are carried out, and each of them hands
control to the one behind it. -/
def Straight (s : MachineState) (p : Program) (m n : Nat) : Prop :=
  ∀ k, m ≤ k → k < n →
    ∃ execution next, (s.after p k).step p = .executed execution next ∧ execution.taken = false

/-! ## One step -/

theorem step_eq_executed_iff :
    s.step p = .executed execution next ↔
      ∃ word, p.fetchWord s.pc = .ok (some word) ∧ s.execute word = .ok (execution, next) := by
  unfold step
  constructor
  · intro h
    split at h
    · cases h
    · cases h
    next word found =>
      split at h
      · cases h
      next done =>
        cases h
        exact ⟨word, found, done⟩
  · rintro ⟨word, found, done⟩
    simp [found, done]

theorem step_eq_finished_iff : s.step p = .finished ↔ p.fetchWord s.pc = .ok none := by
  unfold step
  constructor
  · intro h
    split at h
    · cases h
    · assumption
    · split at h <;> cases h
  · intro h
    simp [h]

theorem step_ne_finished {answer : Except Fault (Option Word)} (fetch : p.fetchWord s.pc = answer)
    (away : answer ≠ .ok none) : s.step p ≠ .finished := by
  rw [ne_eq, step_eq_finished_iff, fetch]
  exact away

theorem step_eq_faulted_iff {fault : Fault} :
    s.step p = .faulted fault ↔
      p.fetchWord s.pc = .error fault ∨
        ∃ word, p.fetchWord s.pc = .ok (some word) ∧ s.execute word = .error fault := by
  unfold step
  constructor
  · intro h
    split at h
    next failed =>
      cases h
      exact .inl failed
    · cases h
    next word found =>
      split at h
      next failed =>
        cases h
        exact .inr ⟨word, found, failed⟩
      · cases h
  · rintro (failed | ⟨word, found, failed⟩)
    · simp [failed]
    · simp [found, failed]

theorem execute_eq_ok_iff :
    s.execute word = .ok (execution, next) ↔
      ∃ loadData memory, s.loaded word = .ok loadData ∧ s.stored word = .ok memory ∧
        execution = ⟨s.pc, word, s.write word loadData, s.taken word⟩ ∧
        next = ⟨s.nextPc word, s.registers.apply (s.write word loadData), memory⟩ := by
  unfold execute
  constructor
  · intro h
    split at h
    · cases h
    next loadData load =>
      split at h
      · cases h
      next memory store =>
        cases h
        exact ⟨loadData, memory, load, store, rfl, rfl⟩
  · rintro ⟨loadData, memory, load, store, rfl, rfl⟩
    simp [load, store]

theorem execution_of_execute (h : s.execute word = .ok (execution, next)) :
    execution.pc = s.pc ∧ execution.word = word ∧ execution.taken = s.taken word ∧
      next.registers = s.registers.apply execution.write ∧ next.pc = s.nextPc word := by
  obtain ⟨_, _, -, -, rfl, rfl⟩ := execute_eq_ok_iff.1 h
  exact ⟨rfl, rfl, rfl, rfl, rfl⟩

theorem pc_of_not_taken (h : s.step p = .executed execution next)
    (straight : execution.taken = false) :
    next.pc = s.pc + BitVec.ofNat 64 instructionSize := by
  obtain ⟨word, -, done⟩ := step_eq_executed_iff.1 h
  obtain ⟨-, -, taken, -, pc⟩ := execution_of_execute done
  rw [pc, nextPc, ← taken, straight]
  rfl

/-! ## Many steps -/

@[simp] theorem after_zero : s.after p 0 = s := rfl

theorem run_of_executed (first : s.step p = .executed execution next) :
    run p (n + 1) s = (execution :: (run p n next).1, (run p n next).2) := by
  simp [run, first]

theorem run_of_stuck (stuck : ∀ execution next, s.step p ≠ .executed execution next) :
    run p n s = ([], s) := by
  cases n with
  | zero => rfl
  | succ n =>
      rw [run]
      cases first : s.step p with
      | executed execution next => exact absurd first (stuck execution next)
      | finished => rfl
      | faulted fault => rfl

theorem run_succ (last : (s.after p n).step p = .executed execution next) :
    run p (n + 1) s = ((run p n s).1 ++ [execution], next) := by
  induction n generalizing s with
  | zero =>
      rw [after_zero] at last
      rw [run_of_executed last]
      rfl
  | succ n ih =>
      cases first : s.step p with
      | executed execution₁ next₁ =>
          have tail : (next₁.after p n).step p = .executed execution next := by
            simpa [after, run_of_executed first] using last
          rw [run_of_executed first, run_of_executed first, ih tail]
          rfl
      | finished =>
          have stay : s.after p (n + 1) = s := by rw [after, run_of_stuck (by simp [first])]
          rw [stay, first] at last
          cases last
      | faulted fault =>
          have stay : s.after p (n + 1) = s := by rw [after, run_of_stuck (by simp [first])]
          rw [stay, first] at last
          cases last

theorem after_succ (last : (s.after p n).step p = .executed execution next) :
    s.after p (n + 1) = next := by
  rw [after, run_succ last]

theorem run_of_stopped
    (stopped : ∀ execution next, (s.after p n).step p ≠ .executed execution next)
    (le : n ≤ m) : run p m s = run p n s := by
  obtain ⟨extra, rfl⟩ := Nat.exists_eq_add_of_le le
  clear le
  induction n generalizing s with
  | zero =>
      rw [after_zero] at stopped
      rw [run_of_stuck stopped, run_of_stuck stopped]
  | succ n ih =>
      rw [Nat.succ_add]
      cases first : s.step p with
      | executed execution₁ next₁ =>
          have tail : ∀ execution next, (next₁.after p n).step p ≠ .executed execution next := by
            simpa [after, run_of_executed first] using stopped
          rw [run_of_executed first, run_of_executed first, ih tail]
      | finished => rw [run_of_stuck (by simp [first]), run_of_stuck (by simp [first])]
      | faulted fault => rw [run_of_stuck (by simp [first]), run_of_stuck (by simp [first])]

theorem after_of_stopped
    (stopped : ∀ execution next, (s.after p n).step p ≠ .executed execution next)
    (le : n ≤ m) : s.after p m = s.after p n := by
  rw [after, run_of_stopped stopped le, after]

theorem executes_zero : s.Executes p 0 := fun _ lt => absurd lt (Nat.not_lt_zero _)

theorem executes_of_step (h : (s.after p n).step p = .executed execution next) :
    s.Executes p (n + 1) := by
  intro k lt
  by_contra none
  have stopped : ∀ execution next, (s.after p k).step p ≠ .executed execution next :=
    fun e next step => none ⟨e, next, step⟩
  rw [after_of_stopped stopped (Nat.le_of_lt_succ lt)] at h
  exact stopped execution next h

theorem Executes.mono (h : s.Executes p n) (le : m ≤ n) : s.Executes p m :=
  fun k lt => h k (Nat.lt_of_lt_of_le lt le)

theorem Executes.eq_of_stopped {i j : Nat} (hi : s.Executes p i) (hj : s.Executes p j)
    (si : ∀ execution next, (s.after p i).step p ≠ .executed execution next)
    (sj : ∀ execution next, (s.after p j).step p ≠ .executed execution next) : i = j := by
  rcases Nat.lt_trichotomy i j with lt | rfl | lt
  · obtain ⟨execution, next, step⟩ := hj i lt
    exact absurd step (si execution next)
  · rfl
  · obtain ⟨execution, next, step⟩ := hi j lt
    exact absurd step (sj execution next)

/-- Instruction `n` is begun; it may still fault. -/
def Starts (s : MachineState) (p : Program) (n : Nat) : Prop :=
  s.Executes p n ∧ (s.after p n).step p ≠ .finished

theorem starts_of_step (h : (s.after p n).step p = .executed execution next) : s.Starts p n :=
  ⟨(executes_of_step h).mono n.le_succ, by simp [h]⟩

theorem Starts.mono (h : s.Starts p n) (le : m ≤ n) : s.Starts p m := by
  rcases Nat.eq_or_lt_of_le le with rfl | lt
  · exact h
  · obtain ⟨execution, next, step⟩ := h.1 m lt
    exact starts_of_step step

theorem after_eq_of_stopped {i j : Nat}
    (si : ∀ execution next, (s.after p i).step p ≠ .executed execution next)
    (sj : ∀ execution next, (s.after p j).step p ≠ .executed execution next) :
    s.after p i = s.after p j := by
  rcases Nat.le_total i j with le | le
  · exact (after_of_stopped si le).symm
  · exact after_of_stopped sj le

theorem Executes.le_of_stopped (h : s.Executes p m)
    (stopped : ∀ execution next, (s.after p n).step p ≠ .executed execution next) : m ≤ n := by
  rcases Nat.lt_or_ge n m with lt | ge
  · obtain ⟨execution, next, step⟩ := h n lt
    exact absurd step (stopped execution next)
  · exact ge

theorem Starts.lt_of_finished (h : s.Starts p m) (stopped : (s.after p n).step p = .finished) :
    m < n := by
  have le := h.1.le_of_stopped (n := n) (by simp [stopped])
  rcases Nat.eq_or_lt_of_le le with rfl | lt
  · exact absurd stopped h.2
  · exact lt

theorem straight_refl : s.Straight p n n := fun _ le lt => absurd lt (Nat.not_lt_of_le le)

theorem Straight.mono {k : Nat} (h : s.Straight p m n) (le : k ≤ n) : s.Straight p m k :=
  fun j low lt => h j low (Nat.lt_of_lt_of_le lt le)

theorem Straight.trans {k : Nat} (first : s.Straight p k m) (second : s.Straight p m n) :
    s.Straight p k n := by
  intro j low lt
  rcases Nat.lt_or_ge j m with before | behind
  · exact first j low before
  · exact second j behind lt

theorem Straight.executes (h : s.Straight p m n) (before : s.Executes p m) : s.Executes p n := by
  intro k lt
  rcases Nat.lt_or_ge k m with early | late
  · exact before k early
  · obtain ⟨execution, next, step, -⟩ := h k late lt
    exact ⟨execution, next, step⟩

end FiveStage.MachineState
