import FiveStage.CommandLine.Argument
import FiveStage.Config.Reader
import FiveStage.Log.Filter
import FiveStage.Log.Trace
import FiveStage.Report

/-!
# A session on the command line

A session reads the configuration, loads the program, sets the simulator up, drives it to its
end, and prints the final state.  Files and the log setting come from outside.
-/

namespace FiveStage.CommandLine

structure Surroundings where
  read : String → Except Text.ReadFailure ByteArray
  logSetting : Option String

structure Answer where
  exitCode : Nat
  output : String
  log : List String
  deriving DecidableEq, Repr, Inhabited

def versionText : String := "rv5sim 0.3.0\n"

def helpText : String :=
  "Cycle-accurate five-stage RISC-V pipeline simulator\n\n" ++
  "Usage: rv5sim [OPTIONS] <TRACE>\n\n" ++
  "Arguments:\n" ++
  "  <TRACE>  Instruction trace to run (one instruction per line)\n\n" ++
  "Options:\n" ++
  "  -c, --config <CONFIG>          JSON configuration file (memory size, preloads, cycle cap)\n" ++
  "      --trace                    Log every instruction as it moves through the pipeline\n" ++
  "      --max-cycles <MAX_CYCLES>  Stop after this many cycles; overrides the config file\n" ++
  "      --mem-start <MEM_START>    First data memory byte to print [default: 0]\n" ++
  "      --mem-end <MEM_END>        One past the last data memory byte to print [default: 32]\n" ++
  "      --stats                    Print pipeline statistics after the run\n" ++
  "  -h, --help                     Print help\n" ++
  "  -V, --version                  Print version\n"

/-- A failure before the run: nothing is printed, and the log ends in the reason. -/
def Answer.failure (log : List String) (reason : String) : Answer :=
  { exitCode := 1, output := "", log := log ++ [s!"error: {reason}"] }

def Answer.crash (log : List String) (reason : String) : Answer :=
  { exitCode := 101, output := "", log := log ++ [reason] }

structure Session where
  options : Options
  filter : Log.Filter
  simulator : Simulator
  log : List String

/-- The configuration of a run.  The command line comes before the file. -/
def configOf (options : Options) (surroundings : Surroundings) : Except ConfigError Config := do
  let config ←
    match options.configPath with
    | some path => Config.ofFile path (surroundings.read path)
    | none => .ok {}
  return { config with
    traceInstructions := config.traceInstructions || options.traceInstructions
    maxCycles := options.maxCycles.or config.maxCycles }

/-- A setting that cannot be read counts as none. -/
def filterOf (setting : Option String) (config : Config) : Log.Filter :=
  (setting.bind Log.Filter.parse?).getD
    (Log.Filter.ofLevel (if config.traceInstructions then .trace else .info))

namespace Session

def start (options : Options) (surroundings : Surroundings) : Except Answer Session :=
  match configOf options surroundings with
  | .error error => .error (.failure [] error.message)
  | .ok config =>
      let filter := filterOf surroundings.logSetting config
      let path := options.tracePath
      match Program.ofFile path (surroundings.read path) with
      | .error error => .error (.failure [] error.message)
      | .ok program =>
          let loading := filter.lines (Log.ofLoading path program)
          match Simulator.create program config with
          | .error .capacity => .error (.crash loading SetupError.capacity.message)
          | .error error => .error (.failure loading error.message)
          | .ok simulator =>
              .ok
                { options
                  filter
                  simulator
                  log := loading ++ filter.lines (Log.ofSetup program config) }

def turnLog (s : Session) : List String := s.filter.lines (Log.ofAdvance s.simulator)

def verdict (outcome : Outcome) (cycles : Nat) : String :=
  match outcome with
  | .complete => s!"Simulation complete after {cycles} cycles."
  | .halted fault => s!"Simulation halted after {cycles} cycles: {fault.message}"
  | .running => s!"Simulation stopped at the cycle limit ({cycles} cycles)."

def registerLine (rf : RegisterFile) (index : Nat) : String :=
  let name := Text.alignRight 4 (Register.nameOf index)
  s!"x{Text.alignLeft 2 (toString index)} ({name}): {(rf.read index).toInt}"

def byteLine (addr : Nat) (byte : Byte) : String :=
  s!"{Text.alignRight 5 (toString addr)}: {Text.hexByte byte.toNat}"

/-- The bytes in a range of addresses; a range without bytes is invalid. -/
def memoryLines (memory : DataMemory) (start stop : Nat) : List String :=
  match memory.slice? start stop with
  | some [] | none => [s!"Address range [{start}, {stop}) is invalid"]
  | some bytes =>
      s!"Data memory: bytes (hex) in [{start}, {stop})" ::
        bytes.mapIdx fun index byte => byteLine (start + index) byte

def outputLines (options : Options) (outcome : Outcome) (core : Core) : List String :=
  [verdict outcome core.clock, "", "Register file"] ++
    (List.range registerCount).map (registerLine core.registers) ++
    [""] ++
    memoryLines core.memory options.memStart options.memEnd ++
    if options.stats then ["", core.stats.report] else []

def finish (s : Session) (outcome : Outcome) (final : Simulator) (log : List String) : Answer :=
  { exitCode := if outcome = .complete then 0 else 1
    output := String.join ((outputLines s.options outcome final.core).map (· ++ "\n"))
    log }

end Session

end FiveStage.CommandLine
