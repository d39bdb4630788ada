import FiveStage.Proofs.Pipeline.Halting
import FiveStage.Proofs.Pipeline.Position
import Mathlib.Data.Nat.Count

/-!
# Where the cycles go

Each committed cycle opens one slot of the pipeline.  The instruction in it retires, is thrown away
behind a transfer of control, dissolves in decode because its opcode is unknown, or is still on its
way; or the slot stays empty, because the front waits for a load or nothing is left to fetch.
`slots_conserved` says that the counters of a core add up in this way, after any number of ticks.
-/

namespace FiveStage

/-! ## What the counters record of a cycle -/

structure Ledger where
  cycles : Nat
  retired : Nat
  kinds : Nat
  stalls : Nat
  flushes : Nat
  squashed : Nat
  deriving DecidableEq, Repr

namespace Statistics

def ledger (s : Statistics) : Ledger :=
  { cycles := s.cycles
    retired := s.retired
    kinds := s.loads + s.stores + s.transfers + s.calculations
    stalls := s.loadUseStalls
    flushes := s.flushes
    squashed := s.squashed }

@[simp] theorem ledger_countStall (s : Statistics) (stall : Bool) :
    (s.countStall stall).ledger = { s.ledger with stalls := s.ledger.stalls + stall.toNat } := by
  cases stall <;> rfl

@[simp] theorem ledger_countForward (s : Statistics) (source : ForwardSource) :
    (s.countForward source).ledger = s.ledger := by
  cases source <;> rfl

@[simp] theorem ledger_countRetirement (s : Statistics) (retirement : Option Retirement) :
    (s.countRetirement retirement).ledger =
      { s.ledger with
        retired := s.ledger.retired + retirement.isSome.toNat
        kinds := s.ledger.kinds + retirement.isSome.toNat } := by
  cases retirement with
  | none => rfl
  | some r =>
      simp only [countRetirement, ledger]
      split_ifs <;> simp <;> omega

end Statistics

namespace Core

def thrownAway (c : Core) (cycle : Cycle) : Nat :=
  if cycle.access.redirect.isSome then c.squashCount cycle else 0

theorem thrownAway_of_some {c : Core} {cycle : Cycle} {target : Doubleword}
    (redirect : cycle.access.redirect = some target) :
    c.thrownAway cycle = c.squashCount cycle := by simp [thrownAway, redirect]

theorem thrownAway_of_none {c : Core} {cycle : Cycle} (redirect : cycle.access.redirect = none) :
    c.thrownAway cycle = 0 := by simp [thrownAway, redirect]

theorem ledger_countCycle (c : Core) (cycle : Cycle) :
    (c.countCycle cycle).ledger =
      { cycles := c.stats.cycles + 1
        retired := c.stats.retired + cycle.retirement.isSome.toNat
        kinds := c.stats.ledger.kinds + cycle.retirement.isSome.toNat
        stalls := c.stats.loadUseStalls + cycle.stall.toNat
        flushes := c.stats.flushes + cycle.access.redirect.isSome.toNat
        squashed := c.stats.squashed + c.thrownAway cycle } := by
  simp only [countCycle, Statistics.ledger_countRetirement, Statistics.ledger_countForward,
    Statistics.ledger_countStall, thrownAway]
  cases cycle.access.redirect <;> rfl

theorem squashCount_le (c : Core) (cycle : Cycle) : c.squashCount cycle ≤ 3 := by
  have bit : ∀ b : Bool, b.toNat ≤ 1 := Bool.toNat_le
  have first := bit (!cycle.executed.isEmpty)
  have second := bit (!cycle.decoded.isEmpty)
  unfold squashCount
  cases cycle.fetched with
  | none => have third := bit c.ifId.valid; simp only; omega
  | some got => have third := bit got.latch.valid; simp only; omega

theorem thrownAway_le (c : Core) (cycle : Cycle) :
    c.thrownAway cycle ≤ 3 * cycle.access.redirect.isSome.toNat := by
  cases redirect : cycle.access.redirect with
  | none => rw [thrownAway_of_none redirect]; exact Nat.zero_le _
  | some target => rw [thrownAway_of_some redirect]; exact c.squashCount_le cycle

end Core

/-! ## Which latches hold something behind a cycle -/

@[simp] theorem IfId.isEmpty_empty : ({} : IfId).isEmpty = true := rfl

@[simp] theorem IdEx.isEmpty_empty : ({} : IdEx).isEmpty = true := rfl

@[simp] theorem ExMem.isEmpty_empty : ({} : ExMem).isEmpty = true := rfl

theorem IfId.isEmpty_decode (latch : IfId) (rf : RegisterFile) (write : Option RegisterWrite) :
    (!(latch.decode rf write).isEmpty) = (latch.valid && Control.isKnown latch.word.opcode) := by
  cases valid : latch.valid with
  | true => rw [decode_isEmpty valid, Bool.not_not, Bool.true_and]
  | false =>
      simp only [decode, valid]
      rfl

theorem IdEx.isEmpty_execute (latch : IdEx) (fwd : Forwarding) (exMem : ExMem) (memWb : MemWb) :
    (latch.execute fwd exMem memWb).isEmpty = latch.isEmpty := by
  unfold execute
  cases empty : latch.isEmpty with
  | true => rfl
  | false => exact empty

theorem ExMem.isEmpty_of_access {latch : ExMem} {memory : DataMemory} {access : AccessResult}
    (accessed : latch.access memory = .ok access) : access.latch.isEmpty = latch.isEmpty := by
  cases empty : latch.isEmpty with
  | true =>
      have idle : latch.access memory = .ok {} := by simp [ExMem.access, empty]
      rw [idle] at accessed
      cases accessed
      rfl
  | false =>
      obtain ⟨_, _, -, -, rfl⟩ := (access_eq_ok_iff empty).1 accessed
      exact empty

theorem Program.valid_of_fetch {p : Program} {pc : Doubleword} {got : Fetched}
    (fetch : p.fetch pc = .ok got) : got.latch.valid = !(pc == p.endPc) := by
  rw [Program.fetch] at fetch
  cases found : p.fetchWord pc with
  | error fault => simp [found, Except.map] at fetch
  | ok answer =>
      rw [found] at fetch
      cases answer with
      | none =>
          cases fetch
          simp [fetchWord_eq_none_iff.1 found]
      | some word =>
          cases fetch
          have away : pc ≠ p.endPc := by
            rintro rfl
            rw [fetchWord_eq_none_iff.2 rfl] at found
            cases found
          simp [away]

namespace Core

variable {c next : Core} {fetched : Option Fetched} {access : AccessResult} {fault : Fault}

def occupied (c : Core) : Nat :=
  (!c.ifId.isEmpty).toNat + (!c.idEx.isEmpty).toNat + (!c.exMem.isEmpty).toNat +
    (!c.memWb.isEmpty).toNat

/-! ## What can happen in a cycle -/

/-- The cycle that the next tick works through to its end.  There is none in a core that has
finished or that is about to stop on a fault. -/
def cycle? (c : Core) : Option Cycle := if c.isFinished then none else c.evaluate.toOption

def fetches (c : Core) : Bool :=
  c.cycle?.any fun cycle => cycle.fetched.any (·.latch.valid)

/-- The front does not wait, but nothing is left to fetch. -/
def idles (c : Core) : Bool := c.cycle?.any fun cycle => !cycle.stall && c.pc == c.endPc

/-- Decode works on a word with an unknown opcode. -/
def dissolves (c : Core) : Bool :=
  c.cycle?.any fun cycle => !cycle.stall && c.ifId.valid && !Control.isKnown c.ifId.word.opcode

def redirects (c : Core) : Bool := c.cycle?.any fun cycle => cycle.access.redirect.isSome

theorem cycle?_of_isFinished (h : c.isFinished = true) : c.cycle? = none := by simp [cycle?, h]

theorem cycle?_of_error (failed : c.evaluate = .error fault) : c.cycle? = none := by
  simp [cycle?, failed, Except.toOption]

theorem cycle?_of_commits (running : c.isFinished = false)
    (commits : c.Commits next fetched access) : c.cycle? = some (c.cycle fetched access) := by
  have evaluated := evaluate_eq_ok_iff.2 ⟨_, _, commits.fetch, commits.access_eq, rfl⟩
  simp [cycle?, running, evaluated, Except.toOption]

theorem fetch?_cases (fetch : c.fetch? = .ok fetched) :
    c.stalls = true ∧ fetched = none ∨
      ∃ got, c.stalls = false ∧ fetched = some got ∧ got.latch.valid = !(c.pc == c.endPc) := by
  cases stalls : c.stalls with
  | true =>
      rw [fetch?_of_stalls stalls] at fetch
      cases fetch
      exact .inl ⟨rfl, rfl⟩
  | false =>
      cases got : c.program.fetch c.pc with
      | error fault => simp [fetch?, stalls, got, Except.map] at fetch
      | ok got' =>
          have same : some got' = fetched := by
            simpa [fetch?, stalls, got, Except.map] using fetch
          exact .inr ⟨got', rfl, same.symm, Program.valid_of_fetch got⟩

/-! ## The balance of a cycle -/

theorem Commits.opens (h : c.Commits next fetched access) :
    (fetched.any (·.latch.valid)).toNat + c.stalls.toNat +
      (!c.stalls && c.pc == c.endPc).toNat = 1 := by
  rcases fetch?_cases h.fetch with ⟨stalls, rfl⟩ | ⟨got, stalls, rfl, valid⟩
  · simp [stalls]
  · rw [stalls, Option.any_some, valid]
    cases c.pc == c.endPc <;> rfl

theorem isEmpty_decoded (c : Core) :
    (!c.decoded.isEmpty) =
      (!c.stalls && (c.ifId.valid && Control.isKnown c.ifId.word.opcode)) := by
  unfold decoded
  cases stalls : c.stalls with
  | true => rfl
  | false => exact IfId.isEmpty_decode ..

/-- A committed cycle opens one slot, and the instructions that were in flight retire, are thrown
away, dissolve or are in flight still. -/
theorem Commits.balance (h : c.Commits next fetched access) :
    next.occupied + c.retirement?.isSome.toNat + c.thrownAway (c.cycle fetched access) +
      c.stalls.toNat + (!c.stalls && c.pc == c.endPc).toNat +
      (!c.stalls && c.ifId.valid && !Control.isKnown c.ifId.word.opcode).toNat =
        c.occupied + 1 := by
  have memWb : next.memWb.isEmpty = c.exMem.isEmpty := by
    rw [h.memWb, ExMem.isEmpty_of_access h.access_eq]
  have executed : c.executed.isEmpty = c.idEx.isEmpty := IdEx.isEmpty_execute ..
  have decoded := c.isEmpty_decoded
  have retired : c.retirement?.isSome = !c.memWb.isEmpty := by
    rw [MemWb.isEmpty_of_retire?, retirement?]
    cases c.memWb.retire? <;> rfl
  have opens := h.opens
  have parts : (c.ifId.valid && Control.isKnown c.ifId.word.opcode).toNat +
      (c.ifId.valid && !Control.isKnown c.ifId.word.opcode).toNat = c.ifId.valid.toNat := by
    cases c.ifId.valid <;> cases Control.isKnown c.ifId.word.opcode <;> rfl
  have front : c.ifId.isEmpty = !c.ifId.valid := rfl
  unfold occupied
  rw [memWb, retired, front, Bool.not_not]
  cases h.front with
  | turn target redirect pc ifId idEx exMem =>
      have thrown : c.thrownAway (c.cycle fetched access) =
          c.squashCount (c.cycle fetched access) := thrownAway_of_some redirect
      rw [thrown, squashCount, ifId, idEx, exMem, IfId.isEmpty_empty, IdEx.isEmpty_empty,
        ExMem.isEmpty_empty]
      simp only [cycle, executed, decoded]
      rcases fetch?_cases h.fetch with ⟨stalls, rfl⟩ | ⟨got, stalls, rfl, valid⟩
      · simp only [stalls, Bool.not_true, Bool.false_and, Bool.toNat_false, Bool.toNat_true]
        omega
      · simp only [stalls, Option.any_some, Bool.not_true, Bool.not_false, Bool.true_and,
          Bool.toNat_false] at opens ⊢
        omega
  | wait redirect stalls pc ifId idEx exMem =>
      have kept : c.thrownAway (c.cycle fetched access) = 0 := thrownAway_of_none redirect
      rw [kept, ifId, front, Bool.not_not, idEx, exMem, executed, IdEx.isEmpty_empty]
      simp only [stalls, Bool.not_true, Bool.false_and, Bool.toNat_false, Bool.toNat_true]
      omega
  | flow got redirect stalls fetched_eq fetch pc ifId idEx exMem =>
      have kept : c.thrownAway (c.cycle fetched access) = 0 := thrownAway_of_none redirect
      have behind : next.idEx = c.decoded := by simp [Core.decoded, stalls, idEx, retiring]
      have fresh : (!next.ifId.isEmpty) = got.latch.valid := by
        rw [ifId, IfId.isEmpty, Bool.not_not]
      subst fetched_eq
      rw [kept, fresh, behind, decoded, exMem, executed]
      simp only [stalls, Option.any_some, Bool.not_false, Bool.true_and,
        Bool.toNat_false] at opens ⊢
      omega

theorem Commits.ledger (h : c.Commits next fetched access) :
    next.stats.ledger =
      { cycles := c.stats.cycles + 1
        retired := c.stats.retired + c.retirement?.isSome.toNat
        kinds := c.stats.ledger.kinds + c.retirement?.isSome.toNat
        stalls := c.stats.loadUseStalls + c.stalls.toNat
        flushes := c.stats.flushes + access.redirect.isSome.toNat
        squashed := c.stats.squashed + c.thrownAway (c.cycle fetched access) } := by
  rw [h.stats, ledger_countCycle]
  rfl

/-! ## The books of a run -/

def tally (event : Core → Bool) (n : Nat) (c : Core) : Nat :=
  Nat.count (fun k => event (ticks k c)) n

theorem tally_succ (event : Core → Bool) (n : Nat) (c : Core) :
    tally event (n + 1) c = tally event n c + (event (ticks n c)).toNat := by
  rw [tally, Nat.count_succ, tally]
  cases event (ticks n c) <;> rfl

/-- The books of a core after `n` ticks.  Each cycle has a slot that was used, kept empty or is
still in use; and each fetched word was retired, thrown away, dissolved or is in flight. -/
structure Balanced (start : Core) (n : Nat) : Prop where
  cycles : (ticks n start).stats.cycles = (ticks n start).clock
  slots : (ticks n start).stats.cycles =
    (ticks n start).stats.retired + (ticks n start).stats.squashed +
      (ticks n start).stats.loadUseStalls + (ticks n start).occupied +
      tally idles n start + tally dissolves n start
  fetched : tally fetches n start =
    (ticks n start).stats.retired + (ticks n start).stats.squashed + (ticks n start).occupied +
      tally dissolves n start
  kinds : (ticks n start).stats.loads + (ticks n start).stats.stores +
    (ticks n start).stats.transfers + (ticks n start).stats.calculations =
      (ticks n start).stats.retired
  flushes : (ticks n start).stats.flushes = tally redirects n start
  squashed_le : (ticks n start).stats.squashed ≤ 3 * (ticks n start).stats.flushes

theorem settle_same (next : Core) : next.settle.2.stats = next.stats ∧
    next.settle.2.clock = next.clock ∧ next.settle.2.occupied = next.occupied := by
  unfold settle
  split <;> exact ⟨rfl, rfl, rfl⟩

variable {start : Core} {n : Nat}

theorem tally_of_no_cycle (none : (ticks n start).cycle? = none) :
    tally idles (n + 1) start = tally idles n start ∧
      tally dissolves (n + 1) start = tally dissolves n start ∧
      tally fetches (n + 1) start = tally fetches n start ∧
      tally redirects (n + 1) start = tally redirects n start := by
  simp only [tally_succ, idles, dissolves, fetches, redirects, none]
  exact ⟨rfl, rfl, rfl, rfl⟩

theorem tally_of_commits (running : (ticks n start).isFinished = false)
    (commits : (ticks n start).Commits next fetched access) :
    tally idles (n + 1) start = tally idles n start +
        (!(ticks n start).stalls && (ticks n start).pc == (ticks n start).endPc).toNat ∧
      tally dissolves (n + 1) start = tally dissolves n start +
        (!(ticks n start).stalls && (ticks n start).ifId.valid &&
          !Control.isKnown (ticks n start).ifId.word.opcode).toNat ∧
      tally fetches (n + 1) start = tally fetches n start +
        (fetched.any (·.latch.valid)).toNat ∧
      tally redirects (n + 1) start = tally redirects n start +
        access.redirect.isSome.toNat := by
  simp only [tally_succ, idles, dissolves, fetches, redirects,
    cycle?_of_commits running commits, Option.any_some]
  exact ⟨rfl, rfl, rfl, rfl⟩

theorem Balanced.of_finished (b : Balanced start n)
    (finished : (ticks n start).isFinished = true) : Balanced start (n + 1) := by
  obtain ⟨idles, dissolves, fetches, redirects⟩ :=
    tally_of_no_cycle (cycle?_of_isFinished finished)
  have same : ticks (n + 1) start = ticks n start := by
    rw [ticks_succ, tick_eq_verdict finished]
  obtain ⟨cycles, slots, fetched, kinds, flushes, squashed_le⟩ := b
  constructor <;> simp only [same, idles, dissolves, fetches, redirects] <;> assumption

theorem Balanced.of_commits (b : Balanced start n) (running : (ticks n start).isFinished = false)
    (commits : (ticks n start).Commits next fetched access)
    (settled : (ticks n start).tick = next.settle) : Balanced start (n + 1) := by
  obtain ⟨idles, dissolves, fetches, redirects⟩ := tally_of_commits running commits
  obtain ⟨stats, clock, occupied⟩ := settle_same next
  rw [← settled, ← ticks_succ] at stats clock occupied
  have ledger := commits.ledger
  rw [← stats, Statistics.ledger, Ledger.mk.injEq] at ledger
  obtain ⟨cycles, retired, kinds, stalls, flushes, squashed⟩ := ledger
  have opens := commits.opens
  have balance := commits.balance
  have fewer : (ticks n start).thrownAway ((ticks n start).cycle fetched access) ≤
      3 * access.redirect.isSome.toNat := thrownAway_le ..
  exact
    { cycles := by rw [cycles, b.cycles, clock, commits.clock]
      slots := by
        have before := b.slots
        omega
      fetched := by
        have before := b.fetched
        omega
      kinds := by rw [kinds, retired, ← b.kinds]; rfl
      flushes := by rw [flushes, redirects, b.flushes]
      squashed_le := by
        have before := b.squashed_le
        omega }

theorem Balanced.tick (b : Balanced start n) (sound : (ticks (n + 1) start).fault = none) :
    Balanced start (n + 1) := by
  cases finished : (ticks n start).isFinished with
  | true => exact b.of_finished finished
  | false =>
      obtain ⟨running, going⟩ := isFinished_eq_false_iff.1 finished
      rcases tick_cases running going with ⟨fault, -, halted⟩ | ⟨next, _, _, commits, settled⟩
      · rw [ticks_succ, halted] at sound
        cases sound
      · exact b.of_commits finished commits settled

theorem fault_of_ticks_succ (sound : (ticks (n + 1) start).fault = none) :
    (ticks n start).fault = none := by
  cases stopped : (ticks n start).fault with
  | none => rfl
  | some fault =>
      rw [ticks_succ, tick_of_fault stopped, stopped] at sound
      cases sound

theorem balanced_ticks (opening : Balanced start 0) (n : Nat)
    (sound : (ticks n start).fault = none) : Balanced start n := by
  induction n with
  | zero => exact opening
  | succ n ih => exact (ih (fault_of_ticks_succ sound)).tick sound

end Core

namespace Simulator

variable {p : Program} {config : Config} {sim : Simulator}

theorem balanced_create (created : create p config = .ok sim) : Core.Balanced sim.core 0 := by
  rw [create_core created]
  constructor <;> rfl

/-- As long as no fault has stopped it, the books of a core are balanced after any number of ticks.
Cycles are those of ticks that find the core running: a finished core does nothing more.  The tick
that stops on a fault adds to the clock and to the count of cycles, and to nothing else. -/
theorem slots_conserved (created : create p config = .ok sim) (n : Nat) :
    ((Core.ticks n sim.core).fault = none → Core.Balanced sim.core n) ∧
    ((Core.ticks n sim.core).isFinished = false →
      ∀ fault, (Core.ticks n sim.core).tick.1 = .halted fault →
        (Core.ticks (n + 1) sim.core).clock = (Core.ticks n sim.core).clock + 1 ∧
        (Core.ticks (n + 1) sim.core).stats =
          { (Core.ticks n sim.core).stats with
            cycles := (Core.ticks n sim.core).stats.cycles + 1 } ∧
        (Core.ticks (n + 1) sim.core).occupied = (Core.ticks n sim.core).occupied ∧
        ∀ event ∈ [Core.idles, Core.dissolves, Core.fetches, Core.redirects],
          Core.tally event (n + 1) sim.core = Core.tally event n sim.core) := by
  refine ⟨Core.balanced_ticks (balanced_create created) n, fun finished fault ended => ?_⟩
  obtain ⟨running, going⟩ := Core.isFinished_eq_false_iff.1 finished
  rcases Core.tick_cases running going with ⟨fault, failed, halted⟩ | ⟨next, _, _, _, settled⟩
  · obtain ⟨idles, dissolves, fetches, redirects⟩ :=
      Core.tally_of_no_cycle (Core.cycle?_of_error failed)
    rw [Core.ticks_succ, halted]
    refine ⟨rfl, rfl, rfl, ?_⟩
    simp only [List.forall_mem_cons, List.not_mem_nil, false_imp_iff, implies_true, and_true]
    exact ⟨idles, dissolves, fetches, redirects⟩
  · rw [settled] at ended
    exact absurd ended Core.settle_ne_halted

def crampedSample : Simulator := { core := Core.boot sampleProgram 2, maxCycles := none }

theorem sample_balanced :
    create sampleProgram sampleConfig = .ok sample ∧ Core.Balanced sample.core 11 ∧
      (Core.ticks 11 sample.core).stats.squashed = 2 ∧
      create sampleProgram { dataSize := 2 } = .ok crampedSample ∧
      (Core.ticks 3 crampedSample.core).tick.1 = .halted (.accessOutOfRange 0 4) ∧
      (Core.ticks 4 crampedSample.core).occupied = (Core.ticks 3 crampedSample.core).occupied := by
  have created : create sampleProgram sampleConfig = .ok sample := by decide
  have sound : (Core.ticks 11 sample.core).fault = none := by decide
  have cramped : create sampleProgram { dataSize := 2 } = .ok crampedSample := by decide
  have running : (Core.ticks 3 crampedSample.core).isFinished = false := by decide
  have ended : (Core.ticks 3 crampedSample.core).tick.1 = .halted (.accessOutOfRange 0 4) := by
    decide
  exact ⟨created, (slots_conserved created 11).1 sound, by decide, cramped, ended,
    ((slots_conserved cramped 3).2 running _ ended).2.2.1⟩

end Simulator

end FiveStage
