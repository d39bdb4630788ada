import FiveStage.Log.Event

/-!
# What a run reports

The events of loading a program, of setting a simulator up, of one clock cycle, and of one turn of
the driving loop, in the order in which they happen.  They are functions of the state before, and
stand beside the functions that move it on.
-/

namespace FiveStage.Log

open Event

def ofLoading (path : String) (program : Program) : List Event :=
  programLoaded path program.size :: program.records.map listing

def ofSetup (program : Program) (config : Config) : List Event :=
  [initialised program.size config.dataSize config.registerPreloads.length
    config.memoryPreloads.length]

def ofFetch (clock : Nat) (result : Fetched) : List Event :=
  if result.latch.valid then [fetched result.latch.pc result.latch.word clock]
  else [fetchAtEnd result.nextPc clock]

def ofWriteback (clock : Nat) : Option Retirement → List Event
  | some r => [retired r.pc r.write clock]
  | none => []

def ofDecode (clock : Nat) (latch : IfId) : List Event :=
  if latch.valid then
    (if Control.isKnown latch.word.opcode then [] else [unknownOpcode latch.pc latch.word]) ++
      [decoded latch.pc latch.word clock]
  else []

def ofExecute (c : Core) (clock : Nat) : List Event :=
  let latch := c.idEx
  if latch.isEmpty then []
  else
    let operands := c.forwarding.operands latch c.exMem c.memWb
    (if latch.aluOp?.isSome then [] else [noOperation latch.pc latch.funct3 latch.funct7]) ++
      [executed latch.pc (latch.firstInput operands) (latch.secondInput operands)
        (latch.outcome operands) c.forwarding clock]

/-- A load that faults reports nothing here, and keeps the store from being looked at. -/
def ofAccess (latch : ExMem) (memory : DataMemory) (clock : Nat) : List Event :=
  let load :=
    if latch.control.memRead then
      match Access.load? latch.funct3, latch.load memory with
      | none, _ => [unassignedLoad latch.pc latch.funct3]
      | some _, .ok value => [loaded latch.pc latch.alu value clock]
      | some _, .error _ => []
    else []
  let store :=
    if latch.control.memWrite then
      match Access.store? latch.funct3, latch.load memory, latch.stage memory with
      | none, .ok _, _ => [unassignedStore latch.pc latch.funct3]
      | some _, .ok _, .ok _ => [stored latch.pc latch.alu latch.storeData clock]
      | _, _, _ => []
    else []
  if latch.isEmpty then [] else load ++ store

def ofStages (c : Core) (clock : Nat) (result : Option Fetched) : List Event :=
  (match result with
    | some result => ofFetch clock result
    | none => []) ++
    ofWriteback clock c.retirement? ++
    (if c.stalls then [loadUse c.idEx.rd c.idEx.pc c.ifId.pc clock] else ofDecode clock c.ifId) ++
    ofExecute c clock ++
    ofAccess c.exMem c.memory clock

def ofTick (c : Core) : List Event :=
  if c.isFinished then []
  else
    let clock := c.clock + 1
    match c.fetch? with
    | .error fault => [halted fault clock c.pc]
    | .ok result =>
        ofStages c clock result ++
          match c.exMem.access c.memory with
          | .error fault => [halted fault clock c.pc]
          | .ok access =>
              (match access.redirect with
                | some target => [transferred access.latch.pc target clock]
                | none => []) ++
                (if c.tick.2.complete then [programComplete clock] else [])

def ofAdvance (s : Simulator) : List Event :=
  if s.atLimit then [limitReached s.core.clock]
  else
    ofTick s.core ++
      match s.tick with
      | (.running, _) => []
      | (.complete, next) => [runComplete next.core.clock]
      | (.halted fault, next) => [runHalted fault next.core.clock]

end FiveStage.Log
