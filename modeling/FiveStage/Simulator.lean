import FiveStage.Config.Basic
import FiveStage.Pipeline.Tick

/-!
# The simulator

A core set up from a program and a configuration, and the loop that drives it until the program
ends, a fault stops it, or the limit on cycles is reached.
-/

namespace FiveStage

structure Simulator where
  core : Core
  maxCycles : Option Nat
  deriving DecidableEq, Repr

/-- How a run ended.  The outcome `running` says that the limit on cycles was reached. -/
structure RunSummary where
  outcome : Outcome
  cycles : Nat
  retired : Nat
  deriving DecidableEq, Repr

def RunSummary.isComplete (s : RunSummary) : Bool := s.outcome = .complete

/-- Why a simulator cannot be set up.  Without capacity for its memory the set-up does not return
an error, it crashes. -/
inductive SetupError where
  | invalid (setting : InvalidSetting)
  | capacity
  | preload (fault : Fault)
  deriving DecidableEq, Repr

def SetupError.message : SetupError → String
  | invalid setting => setting.message
  | capacity => "capacity overflow"
  | preload fault => s!"invalid config value for memory.preload: {fault.message}"

def RegisterFile.preload (rf : RegisterFile) (preloads : List RegisterPreload) : RegisterFile :=
  preloads.foldl (fun rf p => rf.write p.index p.value) rf

def DataMemory.preload (m : DataMemory) (preloads : List MemoryPreload) :
    Except Fault DataMemory :=
  preloads.foldlM (fun m p => m.write p.addr p.width p.value) m

inductive Progress where
  | moving (s : Simulator)
  | stopped (outcome : Outcome) (s : Simulator)
  deriving DecidableEq, Repr

namespace Simulator

def create (program : Program) (config : Config) : Except SetupError Simulator :=
  match config.validate with
  | .error setting => .error (.invalid setting)
  | .ok () =>
      match Core.boot? program config.dataSize with
      | none => .error .capacity
      | some core =>
          match core.memory.preload config.memoryPreloads with
          | .error fault => .error (.preload fault)
          | .ok memory =>
              .ok
                { core :=
                    { core with
                      registers := core.registers.preload config.registerPreloads
                      memory }
                  maxCycles := config.maxCycles }

def tick (s : Simulator) : Outcome × Simulator :=
  let (outcome, core) := s.core.tick
  (outcome, { s with core })

def atLimit (s : Simulator) : Bool :=
  match s.maxCycles with
  | some limit => limit ≤ s.core.clock
  | none => false

/-- One turn of the driving loop: the limit is looked at before the clock moves. -/
def advance (s : Simulator) : Progress :=
  if s.atLimit then .stopped .running s
  else
    match s.tick with
    | (.running, next) => .moving next
    | (outcome, next) => .stopped outcome next

def drive : Nat → Simulator → Progress
  | 0, s => .moving s
  | fuel + 1, s =>
      match s.advance with
      | .moving next => drive fuel next
      | .stopped outcome final => .stopped outcome final

def RunsTo (s : Simulator) (outcome : Outcome) (final : Simulator) : Prop :=
  ∃ fuel, s.drive fuel = .stopped outcome final

def summary (s : Simulator) (outcome : Outcome) : RunSummary :=
  { outcome, cycles := s.core.clock, retired := s.core.stats.retired }

theorem drive_add (m n : Nat) (s : Simulator) :
    s.drive (m + n) =
      match s.drive m with
      | .moving next => next.drive n
      | .stopped outcome final => .stopped outcome final := by
  induction m generalizing s with
  | zero => simp [drive]
  | succ m ih =>
      rw [Nat.succ_add]
      simp only [drive]
      cases s.advance with
      | moving next => exact ih next
      | stopped outcome final => rfl

theorem drive_mono {m n : Nat} (le : m ≤ n) {s final : Simulator} {outcome : Outcome}
    (h : s.drive m = .stopped outcome final) : s.drive n = .stopped outcome final := by
  obtain ⟨extra, rfl⟩ := Nat.exists_eq_add_of_le le
  rw [drive_add, h]

theorem RunsTo.unique {s f₁ f₂ : Simulator} {o₁ o₂ : Outcome} (h₁ : s.RunsTo o₁ f₁)
    (h₂ : s.RunsTo o₂ f₂) : o₁ = o₂ ∧ f₁ = f₂ := by
  obtain ⟨m, hm⟩ := h₁
  obtain ⟨n, hn⟩ := h₂
  have left := drive_mono (Nat.le_max_left m n) hm
  have right := drive_mono (Nat.le_max_right m n) hn
  rw [left] at right
  cases right
  exact ⟨rfl, rfl⟩

end Simulator

end FiveStage
