import FiveStage.CommandLine.Session

/-!
# The program

Reads files and the environment, and prints what a session answers.
-/

namespace FiveStage.Main

open CommandLine

/-- Why a file cannot be read.  A folder can be opened like a file, but not read. -/
def failureOf (error : IO.Error) : Text.ReadFailure :=
  match error with
  | .permissionDenied .. => .denied
  | .inappropriateType _ 21 _ => .directory
  | .inappropriateType .. => .notDirectory
  | .invalidArgument .. => .nameTooLong
  | _ => .missing

def readFile (path : String) : IO (Except Text.ReadFailure ByteArray) := do
  try
    return .ok (← IO.FS.readBinFile path)
  catch error =>
    return .error (failureOf error)

partial def drive (s : Session) : IO Answer := do
  for line in s.turnLog do
    IO.eprintln line
  match s.simulator.advance with
  | .moving next => drive { s with simulator := next }
  | .stopped outcome final => return s.finish outcome final []

def answer (options : Options) : IO Answer := do
  let trace ← readFile options.tracePath
  let config ← match options.configPath with
    | some path => readFile path
    | none => pure (.error .missing)
  let read := fun path =>
    if path = options.tracePath then trace
    else if some path = options.configPath then config
    else .error .missing
  match Session.start options { read, logSetting := ← IO.getEnv "RUST_LOG" } with
  | .error failure => return failure
  | .ok session =>
      for line in session.log do
        IO.eprintln line
      drive session

end FiveStage.Main

open FiveStage CommandLine in
def main (arguments : List String) : IO UInt32 := do
  match request? arguments with
  | none =>
      IO.eprintln "error: the arguments cannot be understood; see --help"
      return 2
  | some .version =>
      IO.print versionText
      return 0
  | some .help =>
      IO.print helpText
      return 0
  | some (.run options) =>
      let answer ← FiveStage.Main.answer options
      for line in answer.log do
        IO.eprintln line
      IO.print answer.output
      return UInt32.ofNat answer.exitCode
