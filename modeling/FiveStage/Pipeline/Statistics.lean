import FiveStage.Pipeline.Stage

/-!
# Performance counters

The core only counts.  Rates and the printed report are made from the counters afterwards.
-/

namespace FiveStage

structure Statistics where
  cycles : Nat := 0
  retired : Nat := 0
  loads : Nat := 0
  stores : Nat := 0
  transfers : Nat := 0
  calculations : Nat := 0
  loadUseStalls : Nat := 0
  forwardsExMem : Nat := 0
  forwardsMemWb : Nat := 0
  flushes : Nat := 0
  squashed : Nat := 0
  deriving DecidableEq, Repr

namespace Statistics

def bubbles (s : Statistics) : Nat := s.loadUseStalls + s.squashed

def countStall (s : Statistics) (stall : Bool) : Statistics :=
  if stall then { s with loadUseStalls := s.loadUseStalls + 1 } else s

def countForward (s : Statistics) : ForwardSource → Statistics
  | .staged => s
  | .exMem => { s with forwardsExMem := s.forwardsExMem + 1 }
  | .memWb => { s with forwardsMemWb := s.forwardsMemWb + 1 }

/-- A retired instruction belongs to the first kind that its signals show. -/
def countRetirement (s : Statistics) : Option Retirement → Statistics
  | none => s
  | some r =>
      let s := { s with retired := s.retired + 1 }
      if r.control.memRead then { s with loads := s.loads + 1 }
      else if r.control.memWrite then { s with stores := s.stores + 1 }
      else if r.control.isControlFlow then { s with transfers := s.transfers + 1 }
      else { s with calculations := s.calculations + 1 }

end Statistics

end FiveStage
