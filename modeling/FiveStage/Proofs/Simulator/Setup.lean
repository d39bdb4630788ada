import FiveStage.Simulator
import Mathlib.Tactic.Common

/-!
# Setting up a simulator

A simulator takes a valid configuration and room for its memory, and nothing else: what a valid
configuration asks to have placed in memory fits there.
-/

namespace FiveStage

theorem MemoryPreload.problem?_eq_none_iff {q : MemoryPreload} {size : Nat} :
    q.problem? size = none ↔ q.width ∈ preloadWidths ∧ q.addr.toNat + q.width ≤ size := by
  unfold problem?
  split
  next unsupported => simp [unsupported]
  next supported =>
    rw [Decidable.not_not] at supported
    split
    next outside => simp [supported, outside]
    next inside => simp [supported, Nat.le_of_not_lt inside]

namespace DataMemory

@[simp] theorem size_zeroed (size : Nat) : (zeroed size).size = size := Array.size_replicate

theorem exists_preload {m : DataMemory} {preloads : List MemoryPreload}
    (inside : ∀ q ∈ preloads, q.problem? m.size = none) :
    ∃ next, m.preload preloads = .ok next := by
  -- A preload leaves the size as it is, so those behind it still fit.
  induction preloads generalizing m with
  | nil => exact ⟨m, rfl⟩
  | cons q rest ih =>
      obtain ⟨supported, fits⟩ :=
        MemoryPreload.problem?_eq_none_iff.1 (inside q List.mem_cons_self)
      have narrow : q.width ≤ maxWidth := by
        simp only [preloadWidths, List.mem_cons, List.not_mem_nil, or_false] at supported
        simp only [maxWidth]
        omega
      obtain ⟨m', wrote⟩ := exists_write_of_check (check_eq_ok_iff.2 ⟨narrow, fits⟩) q.value
      obtain ⟨next, loaded⟩ := ih fun r later => by
        rw [size_of_write wrote]
        exact inside r (List.mem_cons_of_mem _ later)
      refine ⟨next, ?_⟩
      simp only [preload, List.foldlM_cons, wrote]
      exact loaded

end DataMemory

namespace Config

theorem validate_eq_ok_iff {c : Config} : c.validate = .ok () ↔ c.problem? = none := by
  unfold validate
  cases c.problem? <;> simp

theorem problem?_eq_none_iff {c : Config} :
    c.problem? = none ↔
      c.dataSize ≠ 0 ∧ c.memoryPreloads.findSome? (·.problem? c.dataSize) = none ∧
        c.registerPreloads.findSome? RegisterPreload.problem? = none ∧ c.maxCycles ≠ some 0 := by
  unfold problem?
  split
  next none => simp [none]
  next some => simp [some, Option.or_eq_none_iff]

theorem maxCycles_ne_zero {c : Config} (valid : c.validate = .ok ()) : c.maxCycles ≠ some 0 :=
  (problem?_eq_none_iff.1 (validate_eq_ok_iff.1 valid)).2.2.2

end Config

namespace Simulator

variable {p : Program} {config : Config} {s : Simulator}

theorem create_eq_ok_iff :
    create p config = .ok s ↔
      config.validate = .ok () ∧ config.dataSize ≤ DataMemory.maxSize ∧ ∃ memory,
        (DataMemory.zeroed config.dataSize).preload config.memoryPreloads = .ok memory ∧
        s =
          { core :=
              { Core.boot p config.dataSize with
                registers := RegisterFile.empty.preload config.registerPreloads
                memory }
            maxCycles := config.maxCycles } := by
  unfold create
  constructor
  · intro created
    split at created
    · cases created
    next valid =>
      split at created
      · cases created
      next core booted =>
        obtain ⟨fits, rfl⟩ := Core.boot?_eq_some_iff.1 booted
        split at created
        · cases created
        next memory loaded =>
          cases created
          exact ⟨valid, fits, memory, loaded, rfl⟩
  · rintro ⟨valid, fits, memory, loaded, rfl⟩
    have booted : Core.boot? p config.dataSize = some (Core.boot p config.dataSize) :=
      Core.boot?_eq_some_iff.2 ⟨fits, rfl⟩
    have zeroed : (Core.boot p config.dataSize).memory = DataMemory.zeroed config.dataSize := rfl
    simp only [valid, booted, zeroed, loaded]
    rfl

theorem exists_create (p : Program) (valid : config.validate = .ok ())
    (fits : config.dataSize ≤ DataMemory.maxSize) : ∃ s, create p config = .ok s := by
  obtain ⟨-, placed, -⟩ := Config.problem?_eq_none_iff.1 (Config.validate_eq_ok_iff.1 valid)
  have inside : ∀ q ∈ config.memoryPreloads,
      q.problem? (DataMemory.zeroed config.dataSize).size = none := by
    rw [DataMemory.size_zeroed]
    exact List.findSome?_eq_none_iff.1 placed
  obtain ⟨memory, loaded⟩ := DataMemory.exists_preload inside
  exact ⟨_, create_eq_ok_iff.2 ⟨valid, fits, memory, loaded, rfl⟩⟩

theorem create_of_limit {other : Option Nat} (created : create p config = .ok s)
    (positive : other ≠ some 0) :
    create p { config with maxCycles := other } = .ok { s with maxCycles := other } := by
  obtain ⟨valid, fits, memory, loaded, rfl⟩ := create_eq_ok_iff.1 created
  rw [Config.validate_eq_ok_iff, Config.problem?_eq_none_iff] at valid
  refine create_eq_ok_iff.2 ⟨?_, fits, memory, loaded, rfl⟩
  rw [Config.validate_eq_ok_iff, Config.problem?_eq_none_iff]
  exact ⟨valid.1, valid.2.1, valid.2.2.1, positive⟩

end Simulator

end FiveStage
