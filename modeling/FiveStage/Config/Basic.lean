import FiveStage.Isa.Register
import FiveStage.Isa.Word

/-!
# Configuration

What can be set for a run: the size of data memory, what is put into memory and registers before
the first cycle, a limit on cycles, and whether every instruction is logged.
-/

namespace FiveStage

structure MemoryPreload where
  addr : Doubleword
  value : Doubleword
  width : Nat := 4
  deriving DecidableEq, Repr

structure RegisterPreload where
  index : Nat
  value : Doubleword
  deriving DecidableEq, Repr

structure Config where
  traceInstructions : Bool := false
  maxCycles : Option Nat := none
  dataSize : Nat := 1024
  memoryPreloads : List MemoryPreload := []
  registerPreloads : List RegisterPreload := []
  deriving DecidableEq, Repr

/-- Values that can be written down but not run with. -/
inductive InvalidSetting where
  | noMemory
  | preloadWidth (width : Nat)
  | preloadOutOfRange (width : Nat) (addr : Doubleword) (dataSize : Nat)
  | noSuchRegister (index : Nat)
  | noCycles
  deriving DecidableEq, Repr

namespace InvalidSetting

def field : InvalidSetting → String
  | noMemory => "memory.data_size"
  | preloadWidth _ => "memory.preload.width"
  | preloadOutOfRange .. => "memory.preload.addr"
  | noSuchRegister _ => "registers.preload.index"
  | noCycles => "general.max_cycles"

def reason : InvalidSetting → String
  | noMemory => "must be greater than 0"
  | preloadWidth width => s!"{width} is not one of 1, 2, 4, 8"
  | preloadOutOfRange width addr dataSize =>
      s!"{width} bytes at {Text.hex addr.toNat} exceed data memory of {dataSize} bytes"
  | noSuchRegister index => s!"x{index} does not exist"
  | noCycles => "must be greater than 0 when set"

def message (s : InvalidSetting) : String := s!"invalid config value for {s.field}: {s.reason}"

end InvalidSetting

def preloadWidths : List Nat := [1, 2, 4, 8]

def MemoryPreload.problem? (p : MemoryPreload) (dataSize : Nat) : Option InvalidSetting :=
  if p.width ∉ preloadWidths then some (.preloadWidth p.width)
  else if dataSize < p.addr.toNat + p.width then
    some (.preloadOutOfRange p.width p.addr dataSize)
  else none

def RegisterPreload.problem? (p : RegisterPreload) : Option InvalidSetting :=
  if p.index < registerCount then none else some (.noSuchRegister p.index)

namespace Config

def problem? (c : Config) : Option InvalidSetting :=
  if c.dataSize = 0 then some .noMemory
  else
    (c.memoryPreloads.findSome? (·.problem? c.dataSize)).or
      ((c.registerPreloads.findSome? RegisterPreload.problem?).or
        (if c.maxCycles = some 0 then some .noCycles else none))

def validate (c : Config) : Except InvalidSetting Unit :=
  match c.problem? with
  | some problem => .error problem
  | none => .ok ()

end Config

end FiveStage
