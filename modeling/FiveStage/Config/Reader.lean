import FiveStage.Config.Basic
import FiveStage.Json.Field
import FiveStage.Text.Document

/-!
# Reading a configuration

A configuration is written in JSON, in three sections.  Whatever is left out keeps its default,
so the empty object is a configuration.
-/

namespace FiveStage

inductive ConfigError where
  | unreadable (path : String) (failure : Text.ReadFailure)
  | malformed
  | invalid (setting : InvalidSetting)
  deriving DecidableEq, Repr

def ConfigError.message : ConfigError → String
  | unreadable path failure => s!"failed to read config {path}: {failure.message}"
  | malformed => "invalid config"
  | invalid setting => setting.message

def MemoryPreload.ofJson? (v : Json.Value) : Option MemoryPreload :=
  match Json.fields? ["addr", "value", "width"] v with
  | some [addr, value, width] => do
      let addr ← Json.required Json.readCount addr
      let value ← Json.required Json.readInteger value
      let width ← Json.optional Json.readCount 4 width
      return ⟨BitVec.ofNat 64 addr, BitVec.ofInt 64 value, width⟩
  | _ => none

def RegisterPreload.ofJson? (v : Json.Value) : Option RegisterPreload :=
  match Json.fields? ["index", "value"] v with
  | some [index, value] => do
      let index ← Json.required Json.readCount index
      let value ← Json.required Json.readInteger value
      return ⟨index, BitVec.ofInt 64 value⟩
  | _ => none

namespace Config

def withGeneral (c : Config) (v : Json.Value) : Option Config :=
  match Json.fields? ["trace_instructions", "max_cycles"] v with
  | some [trace, cap] => do
      let traceInstructions ← Json.optional Json.readBool c.traceInstructions trace
      let maxCycles ← Json.optional (Json.readNullable Json.readCount) c.maxCycles cap
      return { c with traceInstructions, maxCycles }
  | _ => none

def withMemory (c : Config) (v : Json.Value) : Option Config :=
  match Json.fields? ["data_size", "preload"] v with
  | some [size, preloads] => do
      let dataSize ← Json.optional Json.readCount c.dataSize size
      let memoryPreloads ←
        Json.optional (Json.readList MemoryPreload.ofJson?) c.memoryPreloads preloads
      return { c with dataSize, memoryPreloads }
  | _ => none

def withRegisters (c : Config) (v : Json.Value) : Option Config :=
  match Json.fields? ["preload"] v with
  | some [preloads] => do
      let registerPreloads ←
        Json.optional (Json.readList RegisterPreload.ofJson?) c.registerPreloads preloads
      return { c with registerPreloads }
  | _ => none

def ofJson? (v : Json.Value) : Option Config :=
  match Json.fields? ["general", "memory", "registers"] v with
  | some [general, memory, registers] => do
      let c : Config := {}
      let c ← Json.optional c.withGeneral c general
      let c ← Json.optional c.withMemory c memory
      Json.optional c.withRegisters c registers
  | _ => none

/-- A configuration as it is written, whether or not it can be run with. -/
def parse? (text : String) : Option Config := (Json.parse? text.toList).bind ofJson?

def ofText (text : String) : Except ConfigError Config :=
  match parse? text with
  | none => .error .malformed
  | some config =>
      match config.validate with
      | .error setting => .error (.invalid setting)
      | .ok () => .ok config

def ofFile (path : String) (contents : Except Text.ReadFailure ByteArray) :
    Except ConfigError Config :=
  match Text.readDocument contents with
  | .error failure => .error (.unreadable path failure)
  | .ok text => ofText text

end Config

end FiveStage
