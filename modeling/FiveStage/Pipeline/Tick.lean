import FiveStage.Pipeline.Core

/-!
# The clock

`Core.tick` is one clock cycle.  All stages work on the state at the end of the previous cycle;
then their results are committed together.  A fault commits nothing, and a core that has halted
or completed stays as it is.
-/

namespace FiveStage

inductive Outcome where
  | running
  | complete
  | halted (fault : Fault)
  deriving DecidableEq, Repr, Inhabited

structure Cycle where
  stall : Bool
  fetched : Option Fetched
  retirement : Option Retirement
  decoded : IdEx
  forwarding : Forwarding
  executed : ExMem
  access : AccessResult
  deriving DecidableEq, Repr

namespace Cycle

def retiring (cycle : Cycle) : Option RegisterWrite := cycle.retirement.bind (·.write)

end Cycle

namespace Core

def stalls (c : Core) : Bool := loadUseHazard c.idEx c.ifId

/-- The fetch of this cycle; a waiting front end fetches nothing. -/
def fetch? (c : Core) : Except Fault (Option Fetched) :=
  if c.stalls then .ok none else (c.program.fetch c.pc).map some

def retirement? (c : Core) : Option Retirement := c.memWb.retire?

def decoded (c : Core) : IdEx :=
  if c.stalls then {} else c.ifId.decode c.registers (c.retirement?.bind (·.write))

def forwarding (c : Core) : Forwarding := Forwarding.select c.idEx c.exMem c.memWb

def executed (c : Core) : ExMem := c.idEx.execute c.forwarding c.exMem c.memWb

/-- Runs every stage.  A fault of fetch comes before one of memory access. -/
def evaluate (c : Core) : Except Fault Cycle :=
  match c.fetch? with
  | .error fault => .error fault
  | .ok fetched =>
      match c.exMem.access c.memory with
      | .error fault => .error fault
      | .ok access =>
          .ok
            { stall := c.stalls
              fetched
              retirement := c.retirement?
              decoded := c.decoded
              forwarding := c.forwarding
              executed := c.executed
              access }

/-- How many instructions a transfer of control throws away: those that execute, decode and fetch
have worked on. -/
def squashCount (c : Core) (cycle : Cycle) : Nat :=
  let front :=
    match cycle.fetched with
    | some fetched => fetched.latch.valid
    | none => c.ifId.valid
  (!cycle.executed.isEmpty).toNat + (!cycle.decoded.isEmpty).toNat + front.toNat

def countCycle (c : Core) (cycle : Cycle) : Statistics :=
  let s := { c.stats with cycles := c.stats.cycles + 1 }
  let s :=
    match cycle.access.redirect with
    | some _ =>
        { s with flushes := s.flushes + 1, squashed := s.squashed + c.squashCount cycle }
    | none => s
  (((s.countStall cycle.stall).countForward cycle.forwarding.first).countForward
    cycle.forwarding.second).countRetirement cycle.retirement

def advance (c : Core) (cycle : Cycle) (memory : DataMemory) : Core :=
  let next : Core :=
    { c with
      clock := c.clock + 1
      registers := c.registers.apply cycle.retiring
      memory
      memWb := cycle.access.latch
      stalled := cycle.stall
      stats := c.countCycle cycle }
  match cycle.access.redirect with
  | some target => { next with pc := target, ifId := {}, idEx := {}, exMem := {} }
  | none =>
      let next := { next with idEx := cycle.decoded, exMem := cycle.executed }
      match cycle.fetched with
      | some fetched => { next with pc := fetched.nextPc, ifId := fetched.latch }
      | none => next

def commit (c : Core) (cycle : Cycle) : Except Fault Core :=
  (c.memory.apply cycle.access.store).map (c.advance cycle)

/-- Stops on a fault.  Of the cycle only its count remains. -/
def halt (c : Core) (fault : Fault) : Core :=
  { c with
    clock := c.clock + 1
    stalled := false
    fault := some fault
    stats := { c.stats with cycles := c.stats.cycles + 1 } }

def atEnd (c : Core) : Bool := c.pc == c.endPc && c.isDrained

def tick (c : Core) : Outcome × Core :=
  match c.fault with
  | some fault => (.halted fault, c)
  | none =>
      if c.complete then (.complete, c)
      else
        match c.evaluate.bind c.commit with
        | .error fault => (.halted fault, c.halt fault)
        | .ok next =>
            if next.atEnd then (.complete, { next with complete := true }) else (.running, next)

def ticks : Nat → Core → Core
  | 0, c => c
  | n + 1, c => ticks n c.tick.2

theorem tick_of_fault {c : Core} {fault : Fault} (h : c.fault = some fault) :
    c.tick = (.halted fault, c) := by
  simp [tick, h]

theorem tick_of_complete {c : Core} (h : c.fault = none) (done : c.complete = true) :
    c.tick = (.complete, c) := by
  simp [tick, h, done]

theorem ticks_add (m n : Nat) (c : Core) : ticks (m + n) c = ticks n (ticks m c) := by
  induction m generalizing c with
  | zero => simp [ticks]
  | succ m ih =>
      rw [Nat.succ_add]
      exact ih c.tick.2

end Core

end FiveStage
