import FiveStage.Proofs.Pipeline.Accounting
import FiveStage.Proofs.Simulator.Setup
import FiveStage.Proofs.Simulator.Verdict
import Mathlib.Data.ENat.Lattice

/-!
# The limit on cycles

A run with a limit is a run without one, cut off.  `run_cut_at_limit` says after how many ticks the
run of a new simulator ends, where and with which outcome and counts, and what a larger limit, or
none, changes about that.
-/

namespace FiveStage

namespace Core

variable {c : Core} {n t : Nat}

/-! ## How long a core runs -/

/-- The number of the first tick that ends the run of a core, counting ticks from 1, and `⊤` if the
core goes on for ever. -/
noncomputable def lifetime (c : Core) : ℕ∞ :=
  ⨅ (t : ℕ) (_ : (ticks t c).tick.1 ≠ .running), ((t + 1 : ℕ) : ℕ∞)

theorem lifetime_eq_of_first_end (on : ∀ i < t, (ticks i c).tick.1 = .running)
    (ended : (ticks t c).tick.1 ≠ .running) : c.lifetime = (t + 1 : ℕ) := by
  refine le_antisymm (iInf₂_le t ended) (le_iInf₂ fun i stopped => ?_)
  have later : t ≤ i := Nat.le_of_not_lt fun lt => stopped (on i lt)
  exact Nat.cast_le.2 (Nat.succ_le_succ later)

theorem lifetime_cases (c : Core) :
    (∃ t : ℕ, c.lifetime = (t + 1 : ℕ) ∧ (∀ i < t, (ticks i c).tick.1 = .running) ∧
      (ticks t c).tick.1 ≠ .running) ∨
    c.lifetime = ⊤ ∧ ∀ i, (ticks i c).tick.1 = .running := by
  by_cases ends : ∃ k, (ticks k c).tick.1 ≠ .running
  · obtain ⟨k, ended⟩ := ends
    obtain ⟨t, -, on, stop⟩ := exists_first_end ended
    exact .inl ⟨t, lifetime_eq_of_first_end on stop, on, stop⟩
  · simp only [not_exists, ne_eq, Classical.not_not] at ends
    exact .inr ⟨by simp [lifetime, ends], ends⟩

theorem running_of_lt_lifetime (lt : (t + 1 : ℕ) < c.lifetime) :
    (ticks t c).tick.1 = .running := by
  rcases c.lifetime_cases with ⟨last, same, on, -⟩ | ⟨-, on⟩
  · rw [same, Nat.cast_lt] at lt
    exact on t (by omega)
  · exact on t

/-! ## The clock and the count of instructions -/

theorem isFinished_ticks_of_running (start : c.isFinished = false)
    (on : ∀ i < n, (ticks i c).tick.1 = .running) : (ticks n c).isFinished = false := by
  cases n with
  | zero => exact start
  | succ n =>
      rw [ticks_succ]
      exact isFinished_tick_of_running (on n n.lt_succ_self)

theorem clock_tick (going : c.isFinished = false) : c.tick.2.clock = c.clock + 1 := by
  obtain ⟨healthy, incomplete⟩ := isFinished_eq_false_iff.1 going
  rcases tick_cases healthy incomplete with ⟨fault, -, halted⟩ | ⟨next, _, _, commits, settled⟩
  · rw [halted]
    rfl
  · rw [settled, (settle_same next).2.1, commits.clock]

theorem clock_ticks (start : c.isFinished = false)
    (on : ∀ i, i + 1 < n → (ticks i c).tick.1 = .running) :
    (ticks n c).clock = c.clock + n := by
  induction n with
  | zero => rfl
  | succ n ih =>
      have going : (ticks n c).isFinished = false :=
        isFinished_ticks_of_running start fun i lt => on i (by omega)
      rw [ticks_succ, clock_tick going, ih fun i lt => on i (by omega), Nat.add_assoc]

theorem retired_tick (c : Core) :
    c.tick.2.stats.retired = c.stats.retired + c.retires?.toList.length := by
  cases finished : c.isFinished with
  | true =>
      rw [tick_eq_verdict finished, retires?_of_isFinished finished]
      rfl
  | false =>
      obtain ⟨healthy, incomplete⟩ := isFinished_eq_false_iff.1 finished
      rcases tick_cases healthy incomplete with ⟨fault, -, halted⟩ | ⟨next, _, _, commits, settled⟩
      · rw [retires?_of_halted (by rw [halted]), halted]
        rfl
      · have counted : next.stats.retired = c.stats.retired + c.retirement?.isSome.toNat :=
          congrArg Ledger.retired commits.ledger
        rw [retires?_of_settle finished settled, settled, (settle_same next).1, counted]
        cases c.retirement? <;> rfl

theorem retired_ticks (n : Nat) (c : Core) :
    (ticks n c).stats.retired = c.stats.retired + (retirements n c).length := by
  induction n with
  | zero => rfl
  | succ n ih =>
      rw [ticks_succ, retired_tick, ih, retirements_succ, List.length_append, Nat.add_assoc]

end Core

def Progress.core : Progress → Core
  | moving next => next.core
  | stopped _ final => final.core

namespace Simulator

variable {s final : Simulator} {outcome : Outcome} {n : Nat}

/-! ## Runs by their ticks -/

inductive RunsIn : Simulator → Nat → Outcome → Simulator → Prop where
  | limit {s : Simulator} (reached : s.atLimit = true) : RunsIn s 0 .running s
  | last {s : Simulator} (free : s.atLimit = false) (ended : s.tick.1 ≠ .running) :
      RunsIn s 1 s.tick.1 s.tick.2
  | turn {s final : Simulator} {n : Nat} {outcome : Outcome} (free : s.atLimit = false)
      (on : s.tick.1 = .running) (rest : RunsIn s.tick.2 n outcome final) :
      RunsIn s (n + 1) outcome final

theorem RunsIn.unique {m : Nat} {said : Outcome} {stop : Simulator}
    (run : s.RunsIn n outcome final) (run' : s.RunsIn m said stop) :
    m = n ∧ said = outcome ∧ stop = final := by
  induction run generalizing m with
  | limit reached =>
      cases run' with
      | limit => exact ⟨rfl, rfl, rfl⟩
      | last free | turn free => simp [reached] at free
  | last free ended =>
      cases run' with
      | limit reached => simp [free] at reached
      | last => exact ⟨rfl, rfl, rfl⟩
      | turn _ on => exact absurd on ended
  | turn free on rest ih =>
      cases run' with
      | limit reached => simp [free] at reached
      | last _ ended => exact absurd on ended
      | turn _ _ rest' =>
          obtain ⟨rfl, rfl, rfl⟩ := ih rest'
          exact ⟨rfl, rfl, rfl⟩

theorem RunsIn.runsTo (run : s.RunsIn n outcome final) : s.RunsTo outcome final := by
  induction run with
  | limit reached => exact ⟨1, by rw [drive, advance_of_atLimit reached]⟩
  | last free ended => exact ⟨1, by rw [drive, advance_of_ended free ended]; rfl⟩
  | turn free on rest ih =>
      obtain ⟨fuel, driven⟩ := ih
      exact ⟨fuel + 1, by rw [drive, advance_of_running free on]; exact driven⟩

def ticked (s : Simulator) (n : Nat) : Simulator := { s with core := Core.ticks n s.core }

theorem tick_ticked (s : Simulator) (n : Nat) :
    (s.ticked n).tick = ((Core.ticks n s.core).tick.1, s.ticked (n + 1)) := by
  rw [ticked, ticked, Core.ticks_succ]
  rfl

theorem core_drive_one (free : s.atLimit = false) : (s.drive 1).core = s.core.tick.2 := by
  by_cases on : s.core.tick.1 = .running
  · rw [drive, advance_of_running free on]
    rfl
  · rw [drive, advance_of_ended free on]
    rfl

theorem drive_ticked (free : ∀ i < n, (s.ticked i).atLimit = false)
    (on : ∀ i < n, (Core.ticks i s.core).tick.1 = .running) :
    s.drive n = .moving (s.ticked n) := by
  induction n with
  | zero => rfl
  | succ n ih =>
      have turn : (s.ticked n).advance = .moving (s.ticked (n + 1)) := by
        rw [ticked, ticked, Core.ticks_succ]
        exact advance_of_running (free n n.lt_succ_self) (on n n.lt_succ_self)
      rw [drive_add, ih (fun i lt => free i (by omega)) fun i lt => on i (by omega)]
      simp only [drive, turn]

theorem RunsIn.of_ticked {m : Nat} (free : ∀ i < n, (s.ticked i).atLimit = false)
    (on : ∀ i < n, (Core.ticks i s.core).tick.1 = .running)
    (rest : (s.ticked n).RunsIn m outcome final) : s.RunsIn (n + m) outcome final := by
  induction n generalizing m with
  | zero => rwa [Nat.zero_add]
  | succ n ih =>
      have here := tick_ticked s n
      have turn : (s.ticked n).RunsIn (m + 1) outcome final :=
        .turn (free n n.lt_succ_self) (by rw [here]; exact on n n.lt_succ_self)
          (by rw [here]; exact rest)
      have whole := ih (fun i lt => free i (by omega)) (fun i lt => on i (by omega)) turn
      rwa [Nat.add_comm m 1, ← Nat.add_assoc] at whole

/-! ## Where a run is cut off -/

def cap (s : Simulator) : ℕ∞ :=
  match s.maxCycles with
  | some limit => limit
  | none => ⊤

theorem atLimit_iff : s.atLimit = true ↔ s.cap ≤ s.core.clock := by
  unfold atLimit cap
  cases s.maxCycles with
  | some limit => simp
  | none => simp

structure IsNew (s : Simulator) : Prop where
  clock : s.core.clock = 0
  retired : s.core.stats.retired = 0
  going : s.core.isFinished = false

theorem IsNew.clock_ticked (new : s.IsNew)
    (on : ∀ i, i + 1 < n → (Core.ticks i s.core).tick.1 = .running) :
    (s.ticked n).core.clock = n :=
  (Core.clock_ticks new.going on).trans (by rw [new.clock, Nat.zero_add])

theorem IsNew.atLimit_eq_false (new : s.IsNew) (below : (n : ℕ∞) < s.cap)
    (on : ∀ i, i + 1 < n → (Core.ticks i s.core).tick.1 = .running) :
    (s.ticked n).atLimit = false := by
  rw [← Bool.not_eq_true, atLimit_iff, new.clock_ticked on]
  exact not_le_of_gt below

theorem IsNew.runsIn_of_end {t : Nat} (new : s.IsNew) (below : (t : ℕ∞) < s.cap)
    (on : ∀ i < t, (Core.ticks i s.core).tick.1 = .running)
    (ended : (Core.ticks t s.core).tick.1 ≠ .running) :
    s.RunsIn (t + 1) (Core.ticks t s.core).tick.1 (s.ticked (t + 1)) := by
  have free : ∀ i < t + 1, (s.ticked i).atLimit = false := fun i lt =>
    new.atLimit_eq_false (lt_of_le_of_lt (Nat.cast_le.2 (Nat.le_of_lt_succ lt)) below)
      fun j before => on j (by omega)
  have here := tick_ticked s t
  have last : (s.ticked t).RunsIn 1 (s.ticked t).tick.1 (s.ticked t).tick.2 :=
    .last (free t t.lt_succ_self) (by rw [here]; exact ended)
  rw [here] at last
  exact last.of_ticked (fun i lt => free i (by omega)) on

theorem IsNew.runsIn_of_cap (new : s.IsNew) (reached : s.cap = n)
    (on : ∀ i < n, (Core.ticks i s.core).tick.1 = .running) :
    s.RunsIn n .running (s.ticked n) := by
  have free : ∀ i < n, (s.ticked i).atLimit = false := fun i lt =>
    new.atLimit_eq_false (reached ▸ Nat.cast_lt.2 lt) fun j before => on j (by omega)
  have stop : (s.ticked n).atLimit = true := by
    rw [atLimit_iff, new.clock_ticked fun j before => on j (by omega)]
    exact reached.le
  exact (RunsIn.limit stop).of_ticked free on

theorem IsNew.runsIn (new : s.IsNew) (cut : (n : ℕ∞) = min s.cap s.core.lifetime) :
    s.RunsIn n (if s.core.lifetime ≤ s.cap then (Core.ticks (n - 1) s.core).tick.1 else .running)
      (s.ticked n) := by
  by_cases dies : s.core.lifetime ≤ s.cap
  · rw [min_eq_right dies] at cut
    rw [if_pos dies]
    rcases s.core.lifetime_cases with ⟨t, same, on, ended⟩ | ⟨same, -⟩
    · rw [same, Nat.cast_inj] at cut
      subst cut
      have below : (t : ℕ∞) < s.cap :=
        lt_of_lt_of_le (Nat.cast_lt.2 t.lt_succ_self) (same ▸ dies)
      exact new.runsIn_of_end below on ended
    · rw [same] at cut
      cases cut
  · have outlives := lt_of_not_ge dies
    rw [min_eq_left outlives.le] at cut
    rw [if_neg dies]
    refine new.runsIn_of_cap cut.symm fun i lt => Core.running_of_lt_lifetime ?_
    exact lt_of_le_of_lt (cut ▸ Nat.cast_le.2 lt) outlives

theorem IsNew.core_drive (new : s.IsNew) (early : (n : ℕ∞) ≤ min s.cap s.core.lifetime) :
    (s.drive n).core = Core.ticks n s.core := by
  have on : ∀ i, i + 1 < n → (Core.ticks i s.core).tick.1 = .running := fun i lt =>
    Core.running_of_lt_lifetime (lt_of_lt_of_le (Nat.cast_lt.2 lt) (le_min_iff.1 early).2)
  have free : ∀ i < n, (s.ticked i).atLimit = false := fun i lt =>
    new.atLimit_eq_false (lt_of_lt_of_le (Nat.cast_lt.2 lt) (le_min_iff.1 early).1)
      fun j before => on j (by omega)
  cases n with
  | zero => rfl
  | succ t =>
      rw [drive_add, drive_ticked (fun i lt => free i (by omega)) fun i lt => on i (by omega),
        Core.ticks_succ]
      exact core_drive_one (free t t.lt_succ_self)

/-! ## The run with a limit -/

variable {p : Program} {config : Config} {limit : Nat}

theorem isNew_create (created : create p config = .ok s) : s.IsNew := by
  have core := create_core created
  constructor <;> rw [core] <;> rfl

theorem cap_create (created : create p config = .ok s)
    (limited : config.maxCycles = some limit) : s.cap = limit := by
  obtain ⟨-, -, memory, -, rfl⟩ := create_eq_ok_iff.1 created
  simp [cap, limited]

def Yields (s : Simulator) (summary : RunSummary) (core : Core) : Prop :=
  ∃ outcome final, s.RunsTo outcome final ∧ summary = final.summary outcome ∧ core = final.core

theorem RunsIn.yields_iff {n : Nat} {outcome : Outcome} {final : Simulator}
    (run : s.RunsIn n outcome final) {summary : RunSummary} {core : Core} :
    s.Yields summary core ↔ core = final.core ∧ summary = final.summary outcome := by
  constructor
  · rintro ⟨said, stop, ends, rfl, rfl⟩
    obtain ⟨rfl, rfl⟩ := ends.unique run.runsTo
    exact ⟨rfl, rfl⟩
  · rintro ⟨rfl, rfl⟩
    exact ⟨outcome, final, run.runsTo, rfl, rfl⟩

variable {n : ℕ} {other : Option ℕ} {summary : RunSummary} {core : Core}

theorem IsNew.summary_ticked (new : s.IsNew) (early : (n : ℕ∞) ≤ s.core.lifetime)
    (outcome : Outcome) :
    (s.ticked n).summary outcome =
      { outcome, cycles := n, retired := (Core.retirements n s.core).length } := by
  have clock := new.clock_ticked (n := n) fun i lt =>
    Core.running_of_lt_lifetime (lt_of_lt_of_le (Nat.cast_lt.2 lt) early)
  have retired : (s.ticked n).core.stats.retired = _ := Core.retired_ticks n s.core
  rw [Simulator.summary, clock, retired, new.retired, Nat.zero_add]

theorem IsNew.yields_iff (new : s.IsNew) (cut : (n : ℕ∞) = min s.cap s.core.lifetime) :
    s.Yields summary core ↔
      core = Core.ticks n s.core ∧
      summary =
        { outcome :=
            if s.core.lifetime ≤ s.cap then (Core.ticks (n - 1) s.core).tick.1 else .running
          cycles := n
          retired := (Core.retirements n s.core).length } := by
  rw [(new.runsIn cut).yields_iff, new.summary_ticked (cut ▸ min_le_right ..)]
  rfl

theorem IsNew.with_limit (new : s.IsNew) (other : Option ℕ) :
    IsNew { s with maxCycles := other } :=
  ⟨new.clock, new.retired, new.going⟩

theorem le_cap (larger : ∀ l ∈ other, limit ≤ l) :
    (limit : ℕ∞) ≤ cap { s with maxCycles := other } := by
  cases other with
  | none => exact le_top
  | some l => exact Nat.cast_le.2 (larger l rfl)

theorem IsNew.yields_iff_of_larger (new : s.IsNew) (cap : s.cap = limit)
    (dies : s.core.lifetime ≤ limit) (larger : ∀ l ∈ other, limit ≤ l) :
    Yields { s with maxCycles := other } summary core ↔ s.Yields summary core := by
  have dies' : s.core.lifetime ≤ Simulator.cap { s with maxCycles := other } :=
    dies.trans (le_cap larger)
  have finite : s.core.lifetime ≠ ⊤ := ne_top_of_le_ne_top (ENat.natCast_ne_top limit) dies
  have cut := ENat.natCast_toNat finite
  rw [(new.with_limit other).yields_iff (cut.trans (min_eq_right dies').symm),
    new.yields_iff (cut.trans (min_eq_right (cap ▸ dies)).symm), if_pos dies', if_pos (cap ▸ dies)]

/-- The run of a new simulator makes as many ticks as its core lives, or as its limit allows if
those are fewer.  It leaves the core where these ticks lead, and says how the last of them has ended
the life of the core, or that the core is running still.  A run with a larger limit comes through
the core at which this one is cut off; and once the core lives no longer than the limit, a larger
one or none makes no difference. -/
theorem run_cut_at_limit (created : create p config = .ok s)
    (limited : config.maxCycles = some limit) :
    ∃ n : ℕ, (n : ℕ∞) = min (limit : ℕ∞) s.core.lifetime ∧
      (∀ m, (∃ outcome final, s.RunsIn m outcome final) ↔ m = n) ∧
      (Core.ticks n s.core).clock = n ∧
      (∀ summary core, s.Yields summary core ↔
        core = Core.ticks n s.core ∧
        summary =
          { outcome :=
              if s.core.lifetime ≤ limit then (Core.ticks (n - 1) s.core).tick.1 else .running
            cycles := n
            retired := (Core.retirements n s.core).length }) ∧
      (∀ more : ℕ, limit ≤ more →
        ∃ s', create p { config with maxCycles := some more } = .ok s' ∧
          ∃ turns, (s'.drive turns).core = Core.ticks n s.core) ∧
      (s.core.lifetime ≤ limit → ∀ more : Option ℕ, (∀ l ∈ more, limit ≤ l) →
        ∃ s', create p { config with maxCycles := more } = .ok s' ∧
          ∀ summary core, s'.Yields summary core ↔ s.Yields summary core) := by
  have valid : config.validate = .ok () := (create_eq_ok_iff.1 created).1
  have cap := cap_create created limited
  have new := isNew_create created
  have positive : ∀ more : Option ℕ, (∀ l ∈ more, limit ≤ l) → more ≠ some 0 := by
    rintro _ larger rfl
    have zero : limit = 0 := Nat.le_zero.1 (larger 0 rfl)
    exact Config.maxCycles_ne_zero valid (limited.trans (congrArg some zero))
  obtain ⟨n, cut⟩ : ∃ n : ℕ, (n : ℕ∞) = min (limit : ℕ∞) s.core.lifetime :=
    ⟨_, ENat.natCast_toNat (ne_top_of_le_ne_top (ENat.natCast_ne_top limit) (min_le_left ..))⟩
  have early := le_min_iff.1 cut.le
  have run := new.runsIn (cap.symm ▸ cut)
  refine ⟨n, cut, fun m => ⟨?_, ?_⟩, ?_, fun summary core => ?_, fun more le => ?_,
    fun dies more larger => ?_⟩
  · rintro ⟨outcome, final, run'⟩
    exact (run.unique run').1
  · rintro rfl
    exact ⟨_, _, run⟩
  · exact new.clock_ticked fun i lt =>
      Core.running_of_lt_lifetime (lt_of_lt_of_le (Nat.cast_lt.2 lt) early.2)
  · rw [new.yields_iff (cap.symm ▸ cut), cap]
  · have larger : ∀ l ∈ some more, limit ≤ l := by simpa using le
    exact ⟨_, create_of_limit created (positive _ larger), n, (new.with_limit _).core_drive
      (le_min (early.1.trans (le_cap larger)) early.2)⟩
  · exact ⟨_, create_of_limit created (positive more larger), fun summary core =>
      new.yields_iff_of_larger cap dies larger⟩

theorem tight_not_cut :
    let p : Program := ⟨#[0x00000013], by decide⟩
    create p { dataSize := 16, maxCycles := some 5 } = .ok tight ∧ tight.core.lifetime ≤ 5 ∧
      tight.Yields { outcome := .complete, cycles := 5, retired := 1 } spent.core ∧
      (∃ s', create p { dataSize := 16, maxCycles := some 9 } = .ok s' ∧
        ∃ turns, (s'.drive turns).core = spent.core) ∧
      ∃ s', create p { dataSize := 16 } = .ok s' ∧
        ∀ summary core, s'.Yields summary core ↔ tight.Yields summary core := by
  intro p
  have created : create p { dataSize := 16, maxCycles := some 5 } = .ok tight := by decide
  have life : tight.core.lifetime = (5 : ℕ) :=
    Core.lifetime_eq_of_first_end (t := 4) (by decide) (by decide)
  have dies : tight.core.lifetime ≤ (5 : ℕ) := life.le
  obtain ⟨n, cut, -, -, yields, comesThrough, same⟩ := run_cut_at_limit created rfl
  obtain rfl : n = 5 := by
    rw [life, min_self, Nat.cast_inj] at cut
    exact cut
  refine ⟨created, dies, (yields _ _).2 ⟨rfl, ?_⟩, comesThrough 9 (by decide),
    same dies none (by simp)⟩
  rw [if_pos dies]
  decide

end Simulator

end FiveStage
