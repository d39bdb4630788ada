import FiveStage.Proofs.Pipeline.Accounting
import FiveStage.Proofs.Pipeline.Freshness

/-!
# What the forward counters count

In a committed cycle the counter of a latch goes up by the operands that execute takes from it.  The
register fields of a word are looked at whatever its format, though.  So it also goes up where the
bits of an immediate are those of a register that the latch is to write.
-/

namespace FiveStage

namespace Statistics

def forwards (s : Statistics) : ForwardSource → Nat
  | .staged => 0
  | .exMem => s.forwardsExMem
  | .memWb => s.forwardsMemWb

@[simp] theorem forwards_countStall (s : Statistics) (stall : Bool) :
    (s.countStall stall).forwards = s.forwards := by
  cases stall <;> rfl

@[simp] theorem forwards_countRetirement (s : Statistics) (retirement : Option Retirement) :
    (s.countRetirement retirement).forwards = s.forwards := by
  cases retirement with
  | none => rfl
  | some r =>
      funext source
      simp only [countRetirement]
      split_ifs <;> rfl

theorem forwards_countForward (s : Statistics) (used : ForwardSource) {source : ForwardSource}
    (counted : source ≠ .staged) :
    (s.countForward used).forwards source = s.forwards source + (used == source).toNat := by
  cases source with
  | staged => exact absurd rfl counted
  | exMem => cases used <;> rfl
  | memWb => cases used <;> rfl

end Statistics

/-! ## Operands and fields -/

namespace IdEx

def readsFirst (latch : IdEx) : Bool := latch.control.first == .reg1

/-- Execute works with the contents of the second source register, or a store passes them on. -/
def readsSecond (latch : IdEx) : Bool := latch.control.second == .reg2 || latch.control.memWrite

structure FollowsWord (latch : IdEx) : Prop where
  rs1 : latch.rs1 = latch.word.rs1
  rs2 : latch.rs2 = latch.word.rs2
  control : latch.control = Control.ofCode latch.word.opcode

theorem followsWord_empty : ({} : IdEx).FollowsWord where
  rs1 := rfl
  rs2 := rfl
  control := rfl

theorem followsWord_decode (latch : IfId) (rf : RegisterFile) (write : Option RegisterWrite) :
    (latch.decode rf write).FollowsWord := by
  unfold IfId.decode
  split
  · exact ⟨rfl, rfl, rfl⟩
  · exact followsWord_empty

theorem FollowsWord.reads_iff {latch : IdEx} (h : latch.FollowsWord) {o : Opcode}
    (category : latch.word.opcode = o.code) :
    (latch.readsFirst = true ↔ o ∉ [.lui, .auipc, .jal]) ∧
      (latch.readsSecond = true ↔ o ∉ [.load, .opImm, .lui, .auipc, .jal, .jalr]) := by
  have signals : latch.control = o.control := by rw [h.control, category, Control.ofCode_code]
  rw [readsFirst, readsSecond, signals]
  cases o <;> decide

end IdEx

namespace Core

variable {c next : Core} {fetched : Option Fetched} {access : AccessResult}
  {source : ForwardSource}

def bypassed (c : Core) (source : ForwardSource) : Nat :=
  (c.idEx.readsFirst && c.forwarding.first == source).toNat +
    (c.idEx.readsSecond && c.forwarding.second == source).toNat

/-- The bits of an immediate that stand where other formats name a source register, and would name
one that has to come from a source. -/
def mistaken (c : Core) (source : ForwardSource) : Nat :=
  if c.idEx.isEmpty then 0
  else
    (!c.idEx.readsFirst &&
      ForwardSource.select c.idEx.word.rs1 c.exMem c.memWb == source).toNat +
    (!c.idEx.readsSecond &&
      ForwardSource.select c.idEx.word.rs2 c.exMem c.memWb == source).toNat

/-- A word that reads a second register reads a first one as well, so nothing of it is mistaken. -/
theorem mistaken_eq_zero (follows : c.idEx.FollowsWord) {o : Opcode}
    (category : c.idEx.word.opcode = o.code)
    (bare : o ∉ [.load, .opImm, .lui, .auipc, .jal, .jalr]) : c.mistaken source = 0 := by
  obtain ⟨first, second⟩ := follows.reads_iff category
  have both : c.idEx.readsFirst = true ∧ c.idEx.readsSecond = true := by
    refine ⟨first.2 fun mem => bare ?_, second.2 bare⟩
    exact List.Sublist.subset (by decide) mem
  simp [mistaken, both]

theorem forwards_countCycle (c : Core) (cycle : Cycle) (counted : source ≠ .staged) :
    (c.countCycle cycle).forwards source =
      c.stats.forwards source + (cycle.forwarding.first == source).toNat +
        (cycle.forwarding.second == source).toNat := by
  simp only [countCycle, Statistics.forwards_countRetirement,
    Statistics.forwards_countForward _ _ counted, Statistics.forwards_countStall]
  cases cycle.access.redirect <;> cases source <;> rfl

theorem forwarding_eq_bypassed_add_mistaken (follows : c.idEx.FollowsWord)
    (counted : source ≠ .staged) :
    (c.forwarding.first == source).toNat + (c.forwarding.second == source).toNat =
      c.bypassed source + c.mistaken source := by
  unfold bypassed mistaken forwarding Forwarding.select
  cases empty : c.idEx.isEmpty with
  | true =>
      have idle : (ForwardSource.staged == source) = false := by
        simpa using Ne.symm counted
      simp [idle]
  | false =>
      rw [follows.rs1, follows.rs2]
      simp only [Bool.false_eq_true, if_false]
      cases c.idEx.readsFirst <;> cases c.idEx.readsSecond <;> simp; omega

theorem Commits.forwards (h : c.Commits next fetched access) (follows : c.idEx.FollowsWord)
    (counted : source ≠ .staged) :
    next.stats.forwards source =
      c.stats.forwards source + c.bypassed source + c.mistaken source := by
  have selected := forwarding_eq_bypassed_add_mistaken follows counted
  rw [h.stats, forwards_countCycle c _ counted]
  simp only [cycle]
  omega

theorem forwards_tick (follows : c.idEx.FollowsWord) (running : c.isFinished = false)
    (committed : c.tick.2.fault = none) (counted : source ≠ .staged) :
    c.tick.2.stats.forwards source =
      c.stats.forwards source + c.bypassed source + c.mistaken source := by
  obtain ⟨sound, going⟩ := isFinished_eq_false_iff.1 running
  rcases tick_cases sound going with ⟨fault, -, halted⟩ | ⟨next, _, _, commits, settled⟩
  · rw [halted] at committed
    cases committed
  · rw [settled, (settle_same next).1]
    exact commits.forwards follows counted

theorem Commits.followsWord (h : c.Commits next fetched access) : next.idEx.FollowsWord := by
  cases h.front with
  | turn _ _ _ _ idEx _ => exact idEx ▸ IdEx.followsWord_empty
  | wait _ _ _ _ idEx _ => exact idEx ▸ IdEx.followsWord_empty
  | flow _ _ _ _ _ _ _ idEx _ => exact idEx ▸ IdEx.followsWord_decode ..

theorem followsWord_ticks (start : c.idEx.FollowsWord) (n : Nat) :
    (ticks n c).idEx.FollowsWord := by
  refine @kept_by_ticks c (fun c => c.idEx.FollowsWord) (fun _ _ commits => ?_)
    (fun _ follows _ => follows) start n
  unfold settle
  split <;> exact commits.followsWord

end Core

namespace Simulator

variable {p : Program} {config : Config} {sim : Simulator}

theorem followsWord_create (created : create p config = .ok sim) : sim.core.idEx.FollowsWord := by
  rw [create_core created]
  exact IdEx.followsWord_empty

/-- In a committed cycle each forward counter goes up by the operands that come from its latch and
by the immediate bits that are taken for such an operand.  Only words with an immediate in the place
of a register have such bits. -/
theorem forwards_counted (created : create p config = .ok sim) (n : Nat)
    (running : (Core.ticks n sim.core).isFinished = false)
    (committed : (Core.ticks (n + 1) sim.core).fault = none) :
    let c := Core.ticks n sim.core
    ∀ source ∈ [ForwardSource.exMem, .memWb],
      (Core.ticks (n + 1) sim.core).stats.forwards source =
          c.stats.forwards source + c.bypassed source + c.mistaken source ∧
        ∀ o ∉ [Opcode.load, .opImm, .lui, .auipc, .jal, .jalr], c.idEx.word.opcode = o.code →
          c.mistaken source = 0 := by
  intro c source mem
  have counted : source ≠ .staged := by
    rintro rfl
    exact absurd mem (by decide)
  have follows : c.idEx.FollowsWord := Core.followsWord_ticks (followsWord_create created) n
  refine ⟨?_, fun o bare category => Core.mistaken_eq_zero follows category bare⟩
  rw [Core.ticks_succ] at committed ⊢
  exact Core.forwards_tick follows running committed counted

/-- A constant, and one more than it: the second addition has the number of the register that it
reads as its immediate too. -/
def lookalike : Program := ⟨#[0x00100093, 0x00108113], by decide⟩

def lookalikeSim : Simulator := { core := Core.boot lookalike 16, maxCycles := none }

theorem lookalike_counted_twice :
    create lookalike { dataSize := 16 } = .ok lookalikeSim ∧
      (Core.ticks 3 lookalikeSim.core).isFinished = false ∧
      (Core.ticks 4 lookalikeSim.core).fault = none ∧
      (Core.ticks 3 lookalikeSim.core).bypassed .exMem = 1 ∧
      (Core.ticks 4 lookalikeSim.core).stats.forwardsExMem =
        (Core.ticks 3 lookalikeSim.core).stats.forwardsExMem + 2 := by
  have created : create lookalike { dataSize := 16 } = .ok lookalikeSim := by decide
  have running : (Core.ticks 3 lookalikeSim.core).isFinished = false := by decide
  have committed : (Core.ticks 4 lookalikeSim.core).fault = none := by decide
  obtain ⟨counts, -⟩ := forwards_counted created 3 running committed .exMem (by decide)
  have operands : (Core.ticks 3 lookalikeSim.core).bypassed .exMem = 1 := by decide
  have bits : (Core.ticks 3 lookalikeSim.core).mistaken .exMem = 1 := by decide
  rw [operands, bits] at counts
  exact ⟨created, running, committed, operands, counts⟩

theorem not_only_operands_counted :
    ¬∀ (p : Program) (config : Config) (sim : Simulator) (n : Nat),
      create p config = .ok sim → (Core.ticks n sim.core).isFinished = false →
        (Core.ticks (n + 1) sim.core).fault = none →
          (Core.ticks (n + 1) sim.core).stats.forwardsExMem =
              (Core.ticks n sim.core).stats.forwardsExMem +
                (Core.ticks n sim.core).bypassed .exMem ∧
            (Core.ticks (n + 1) sim.core).stats.forwardsMemWb =
              (Core.ticks n sim.core).stats.forwardsMemWb +
                (Core.ticks n sim.core).bypassed .memWb := by
  intro only
  have created : create lookalike { dataSize := 16 } = .ok lookalikeSim := by decide
  obtain ⟨exMem, -⟩ := only _ _ _ 3 created (by decide) (by decide)
  exact absurd exMem (by decide)

end Simulator

end FiveStage
