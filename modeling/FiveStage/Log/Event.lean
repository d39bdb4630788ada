import FiveStage.Assembly.Source
import FiveStage.Log.Level
import FiveStage.Simulator

/-!
# Log events

Everything that a run reports on the way.  An event is data; its level, its scope and its text
are functions of it.  The scope is the name by which a log filter can select events.
-/

namespace FiveStage.Log

inductive Event where
  | programLoaded (path : String) (instructions : Nat)
  | listing (record : InstructionRecord)
  | initialised (instructions dataSize registerPreloads memoryPreloads : Nat)
  | fetchAtEnd (pc : Doubleword) (clock : Nat)
  | fetched (pc : Doubleword) (word : Word) (clock : Nat)
  | retired (pc : Doubleword) (write : Option RegisterWrite) (clock : Nat)
  | loadUse (rd : Nat) (loadPc userPc : Doubleword) (clock : Nat)
  | unknownOpcode (pc : Doubleword) (word : Word)
  | decoded (pc : Doubleword) (word : Word) (clock : Nat)
  | noOperation (pc : Doubleword) (funct3 funct7 : Nat)
  | executed (pc a b result : Doubleword) (forwarding : Forwarding) (clock : Nat)
  | loaded (pc addr value : Doubleword) (clock : Nat)
  | unassignedLoad (pc : Doubleword) (funct3 : Nat)
  | stored (pc addr value : Doubleword) (clock : Nat)
  | unassignedStore (pc : Doubleword) (funct3 : Nat)
  | transferred (pc target : Doubleword) (clock : Nat)
  | programComplete (clock : Nat)
  | halted (fault : Fault) (clock : Nat) (pc : Doubleword)
  | limitReached (cycles : Nat)
  | runHalted (fault : Fault) (cycles : Nat)
  | runComplete (cycles : Nat)
  deriving DecidableEq, Repr

inductive Scope where
  | loader
  | simulator
  | engine
  | fetch
  | decode
  | execute
  | memory
  | writeback
  deriving DecidableEq, Repr

def Scope.name : Scope → String
  | loader => "rv5sim_core::sim::loader"
  | simulator => "rv5sim_core::sim::simulator"
  | engine => "rv5sim_core::core::pipeline::engine"
  | fetch => "rv5sim_core::core::pipeline::stages::fetch"
  | decode => "rv5sim_core::core::pipeline::stages::decode"
  | execute => "rv5sim_core::core::pipeline::stages::execute"
  | memory => "rv5sim_core::core::pipeline::stages::memory"
  | writeback => "rv5sim_core::core::pipeline::stages::writeback"

structure Field where
  name : String
  value : String
  deriving DecidableEq, Repr

def Field.nat (name : String) (value : Nat) : Field := ⟨name, toString value⟩

def Field.clock (value : Nat) : Field := Field.nat "clock" value

def Field.pc (value : Doubleword) : Field := Field.nat "pc" value.toNat

def Field.render (f : Field) : String := s!" {f.name}={f.value}"

def address (x : Doubleword) : String := Text.hex x.toNat

def sourceLabel : ForwardSource → String
  | .staged => "None"
  | .exMem => "ExMem"
  | .memWb => "MemWb"

namespace Event

def level : Event → Level
  | unknownOpcode .. | noOperation .. | unassignedLoad .. | unassignedStore .. => .warn
  | limitReached .. => .warn
  | programLoaded .. | runHalted .. | runComplete .. => .info
  | listing .. | initialised .. | loadUse .. | transferred .. | programComplete .. => .debug
  | halted .. => .debug
  | fetchAtEnd .. | fetched .. | retired .. | decoded .. | executed .. | loaded .. => .trace
  | stored .. => .trace

def scope : Event → Scope
  | programLoaded .. | listing .. => .loader
  | initialised .. | limitReached .. | runHalted .. | runComplete .. => .simulator
  | loadUse .. | transferred .. | programComplete .. | halted .. => .engine
  | fetchAtEnd .. | fetched .. => .fetch
  | unknownOpcode .. | decoded .. => .decode
  | noOperation .. | executed .. => .execute
  | loaded .. | unassignedLoad .. | stored .. | unassignedStore .. => .memory
  | retired .. => .writeback

def message : Event → String
  | programLoaded .. => "loaded trace"
  | listing record =>
      s!"{Text.hex32 record.addr.toNat}: {Text.hex32 record.word.toNat}  {record.word.disassemble}"
  | initialised .. => "simulator initialised"
  | fetchAtEnd pc _ => s!"IF  pc={address pc} end of program"
  | fetched pc word _ => s!"IF  pc={address pc} inst={Text.hex32 word.toNat}"
  | retired pc write _ =>
      match write with
      | some w => s!"WB  pc={address pc} x{w.rd} <- {w.value.toInt}"
      | none => s!"WB  pc={address pc}"
  | loadUse rd loadPc userPc _ =>
      s!"load-use hazard: x{rd} loaded at pc={address loadPc} needed by pc={address userPc}, " ++
        "inserting bubble"
  | unknownOpcode _ word =>
      s!"unknown opcode {Text.binary 7 word.opcode} in {Text.hex32 word.toNat}, " ++
        "executing as a no-op"
  | decoded pc word _ => s!"ID  pc={address pc} {word.disassemble}"
  | noOperation _ funct3 funct7 =>
      s!"no ALU operation for funct3={Text.binary 3 funct3} funct7={Text.binary 7 funct7}, " ++
        "result forced to 0"
  | executed pc a b result forwarding _ =>
      s!"EX  pc={address pc} a={a.toInt} b={b.toInt} alu={result.toInt} " ++
        s!"fwd={sourceLabel forwarding.first}/{sourceLabel forwarding.second}"
  | loaded pc addr value _ => s!"MEM pc={address pc} load [{address addr}] -> {value.toInt}"
  | unassignedLoad _ funct3 => s!"load with unassigned funct3 {funct3}, reading 0"
  | stored pc addr value _ => s!"MEM pc={address pc} store [{address addr}] <- {value.toInt}"
  | unassignedStore _ funct3 => s!"store with unassigned funct3 {funct3}, ignored"
  | transferred pc target _ =>
      s!"control transfer from pc={address pc} to {address target}, " ++
        "flushing younger instructions"
  | programComplete _ => "program complete"
  | halted fault .. => s!"halted: {fault.message}"
  | limitReached _ => "cycle limit reached, stopping"
  | runHalted fault _ => s!"simulation halted: {fault.message}"
  | runComplete _ => "simulation complete"

def fields : Event → List Field
  | programLoaded path instructions => [⟨"path", path⟩, .nat "instructions" instructions]
  | listing _ => []
  | initialised instructions dataSize registerPreloads memoryPreloads =>
      [ .nat "instructions" instructions, .nat "data_size" dataSize
      , .nat "register_preloads" registerPreloads, .nat "memory_preloads" memoryPreloads ]
  | fetchAtEnd _ clock | fetched _ _ clock | retired _ _ clock | loadUse _ _ _ clock =>
      [.clock clock]
  | decoded _ _ clock | executed _ _ _ _ _ clock | loaded _ _ _ clock | stored _ _ _ clock =>
      [.clock clock]
  | transferred _ _ clock | programComplete clock => [.clock clock]
  | unknownOpcode pc _ | noOperation pc _ _ | unassignedLoad pc _ | unassignedStore pc _ =>
      [.pc pc]
  | halted _ clock pc => [.clock clock, .pc pc]
  | limitReached cycles | runHalted _ cycles | runComplete cycles => [.nat "cycles" cycles]

/-- The line of an event: its level in a column of five, its message, and its fields. -/
def line (e : Event) : String :=
  Text.alignRight 5 e.level.label ++ " " ++ e.message ++ String.join (e.fields.map Field.render)

end Event

end FiveStage.Log
