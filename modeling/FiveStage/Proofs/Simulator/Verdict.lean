import FiveStage.Proofs.Pipeline.Timing

/-!
# What a run says

A run looks at its limit before it looks at the core.  So a run that starts on a core that is still
running ends with the verdict of the core, or at the limit with the core still running; but a run
that starts on a finished core says nothing of how that core ended once the limit is reached.
-/

namespace FiveStage

namespace Core

variable {c : Core}

theorem isFinished_tick_of_running (on : c.tick.1 = .running) : c.tick.2.isFinished = false := by
  cases finished : c.isFinished with
  | true => exact absurd on (tick_of_isFinished finished).2
  | false =>
      obtain ⟨running, going⟩ := isFinished_eq_false_iff.1 finished
      rcases tick_cases running going with ⟨fault, -, halted⟩ | ⟨next, _, _, commits, settled⟩
      · rw [halted] at on
        cases on
      · rw [settled] at on ⊢
        unfold settle at on ⊢
        split at on
        · cases on
        next notEnd =>
          rw [if_neg notEnd]
          exact isFinished_eq_false_iff.2
            ⟨commits.fault.trans running, commits.complete.trans going⟩

theorem tick_eq_verdict_of_ended (ended : c.tick.1 ≠ .running) : c.tick.1 = c.tick.2.verdict := by
  rw [← tick_tick ended, tick_eq_verdict (isFinished_of_ended ended)]

end Core

namespace Simulator

variable {s final stop : Simulator} {outcome told : Outcome}

/-! ## One turn of the loop -/

theorem advance_of_atLimit (limit : s.atLimit = true) : s.advance = .stopped .running s := by
  simp [advance, limit]

theorem advance_of_running (free : s.atLimit = false) (on : s.core.tick.1 = .running) :
    s.advance = .moving { s with core := s.core.tick.2 } := by
  simp [advance, tick, free, on]

theorem advance_of_ended (free : s.atLimit = false) (ended : s.core.tick.1 ≠ .running) :
    s.advance = .stopped s.core.tick.1 { s with core := s.core.tick.2 } := by
  simp only [advance, tick, free]
  cases answer : s.core.tick.1 with
  | running => exact absurd answer ended
  | complete => rfl
  | halted fault => rfl

theorem runsTo_iff_of_stopped (h : s.advance = .stopped told stop) :
    s.RunsTo outcome final ↔ final = stop ∧ outcome = told := by
  have here : s.RunsTo told stop := ⟨1, by simp [drive, h]⟩
  constructor
  · intro run
    obtain ⟨same, there⟩ := run.unique here
    exact ⟨there, same⟩
  · rintro ⟨rfl, rfl⟩
    exact here

/-! ## What a run says of the core -/

theorem runsTo_iff_of_finished (finished : s.core.isFinished = true) :
    s.RunsTo outcome final ↔
      final = s ∧ outcome = if s.atLimit then .running else s.core.verdict := by
  cases limit : s.atLimit with
  | true => exact runsTo_iff_of_stopped (advance_of_atLimit limit)
  | false =>
      have stays := Core.tick_eq_verdict finished
      have stopped := advance_of_ended limit (Core.tick_of_isFinished finished).2
      rw [stays] at stopped
      exact runsTo_iff_of_stopped stopped

/-- The outcome of a run is true of the core that it leaves behind: `running` says that the limit
came before the end of the program, and any other outcome how the core has ended. -/
structure Tells (outcome : Outcome) (final : Simulator) : Prop where
  running : outcome = .running → final.core.isFinished = false ∧ final.atLimit = true
  ended : outcome ≠ .running → final.core.isFinished = true ∧ outcome = final.core.verdict

theorem tells_of_drive {fuel : Nat} (going : s.core.isFinished = false)
    (run : s.drive fuel = .stopped outcome final) : Tells outcome final := by
  -- A turn that goes on leaves a core that is still running, so the limit finds no other.
  induction fuel generalizing s with
  | zero => cases run
  | succ fuel ih =>
      rw [drive] at run
      cases limit : s.atLimit with
      | true =>
          rw [advance_of_atLimit limit] at run
          cases run
          exact ⟨fun _ => ⟨going, limit⟩, fun ended => absurd rfl ended⟩
      | false =>
          by_cases on : s.core.tick.1 = .running
          · rw [advance_of_running limit on] at run
            exact ih (Core.isFinished_tick_of_running on) run
          · rw [advance_of_ended limit on] at run
            cases run
            exact ⟨fun said => absurd said on, fun _ =>
              ⟨Core.isFinished_of_ended on, Core.tick_eq_verdict_of_ended on⟩⟩

/-- A run that finds the core running tells the truth.  A run that finds the core finished leaves it
as it is, but says `running` all the same if the limit is reached, and tells how the core has ended
only if it is not. -/
theorem run_tells_end (s final : Simulator) (outcome : Outcome) :
    (s.core.isFinished = false → s.RunsTo outcome final → Tells outcome final) ∧
    (s.core.isFinished = true →
      (s.RunsTo outcome final ↔
        final = s ∧ outcome = if s.atLimit then .running else s.core.verdict)) := by
  refine ⟨fun going => ?_, runsTo_iff_of_finished⟩
  rintro ⟨fuel, run⟩
  exact tells_of_drive going run

/-! ## A program that ends just at the limit -/

def tight : Simulator :=
  { core := Core.boot ⟨#[0x00000013], by decide⟩ 16, maxCycles := some 5 }

def spent : Simulator := { tight with core := Core.ticks 5 tight.core }

theorem spent_says_running :
    tight.core.isFinished = false ∧ tight.RunsTo .complete spent ∧
      spent.core.isFinished = true ∧ spent.core.verdict = .complete ∧
      spent.RunsTo .running spent := by
  have going : tight.core.isFinished = false := by decide
  have run : tight.RunsTo .complete spent := ⟨5, by decide⟩
  obtain ⟨finished, verdict⟩ := ((run_tells_end _ _ _).1 going run).ended (by decide)
  exact ⟨going, run, finished, verdict.symm,
    ((run_tells_end _ _ _).2 finished).2 ⟨rfl, by decide⟩⟩

/-- A simulator after some calls: each is one tick, or a run that came to its end. -/
inductive Calls (start : Simulator) : Simulator → Prop where
  | none : Calls start start
  | tick {s : Simulator} (before : Calls start s) : Calls start s.tick.2
  | run {s final : Simulator} {outcome : Outcome} (before : Calls start s)
      (run : s.RunsTo outcome final) : Calls start final

theorem not_every_run_tells_end :
    ¬ ∀ (p : Program) (config : Config) (start s final : Simulator) (outcome : Outcome),
      create p config = .ok start → Calls start s → s.RunsTo outcome final →
        (outcome = .running → final.core.isFinished = false) ∧
        (s.core.isFinished = true → final = s ∧ outcome = s.core.verdict) := by
  intro told
  have created : create ⟨#[0x00000013], by decide⟩ { dataSize := 16, maxCycles := some 5 } =
      .ok tight := by decide
  have first : tight.RunsTo .complete spent := ⟨5, by decide⟩
  have second : spent.RunsTo .running spent := ⟨1, by decide⟩
  have going : spent.core.isFinished = false :=
    (told _ _ tight spent spent .running created (.run .none first) second).1 rfl
  exact absurd going (by decide)

end Simulator

end FiveStage
