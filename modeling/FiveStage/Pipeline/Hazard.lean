import FiveStage.Pipeline.Latch

/-!
# Data hazards

An instruction may need the result of an older one that has not reached the register file.  A
calculated result is forwarded to it from a later latch.  A loaded result comes a cycle too late
for that, so the instruction behind a load waits for one cycle.
-/

namespace FiveStage

/-- Whether the instruction in decode has to wait for the load in execute.  Both register fields
of the word are compared whatever its format, which at worst costs a cycle. -/
def loadUseHazard (idEx : IdEx) (ifId : IfId) : Bool :=
  ifId.valid && idEx.control.memRead && idEx.rd != 0 &&
    (idEx.rd == ifId.word.rs1 || idEx.rd == ifId.word.rs2)

inductive ForwardSource where
  | staged
  | exMem
  | memWb
  deriving DecidableEq, Repr

namespace ForwardSource

/-- The source for one register.  The younger result wins, and register 0 is never forwarded. -/
def select (index : Nat) (exMem : ExMem) (memWb : MemWb) : ForwardSource :=
  if index = 0 then staged
  else if exMem.control.regWrite ∧ exMem.rd = index then .exMem
  else if memWb.control.regWrite ∧ memWb.rd = index then .memWb
  else staged

def value (source : ForwardSource) (stagedValue : Doubleword) (exMem : ExMem) (memWb : MemWb) :
    Doubleword :=
  match source with
  | staged => stagedValue
  | .exMem => exMem.alu
  | .memWb => memWb.result

end ForwardSource

structure Forwarding where
  first : ForwardSource := .staged
  second : ForwardSource := .staged
  deriving DecidableEq, Repr

/-- An empty slot forwards nothing. -/
def Forwarding.select (idEx : IdEx) (exMem : ExMem) (memWb : MemWb) : Forwarding :=
  if idEx.isEmpty then {}
  else ⟨ForwardSource.select idEx.rs1 exMem memWb, ForwardSource.select idEx.rs2 exMem memWb⟩

end FiveStage
