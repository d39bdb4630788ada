import FiveStage.Text.Numeral

/-!
# Command-line arguments

One file to run, and options around it.  Arguments are read from left to right: the first mistake
rejects the command line, unless help or the version has been asked for before it.
-/

namespace FiveStage.CommandLine

structure Options where
  tracePath : String
  configPath : Option String := none
  traceInstructions : Bool := false
  maxCycles : Option Nat := none
  memStart : Nat := 0
  memEnd : Nat := 32
  stats : Bool := false
  deriving DecidableEq, Repr

inductive Request where
  | run (options : Options)
  | version
  | help
  deriving DecidableEq, Repr

inductive Valued where
  | config
  | maxCycles
  | memStart
  | memEnd
  deriving DecidableEq, Repr

structure Given where
  tracePath : Option String := none
  configPath : Option String := none
  traceInstructions : Bool := false
  maxCycles : Option Nat := none
  memStart : Option Nat := none
  memEnd : Option Nat := none
  stats : Bool := false
  deriving DecidableEq, Repr

namespace Given

def path? (text : List Char) : Option String :=
  if text = [] then none else some (String.ofList text)

/-- Sets what can be set once only. -/
def once {α : Type} (old : Option α) (value : Option α) : Option α :=
  match old with
  | none => value
  | some _ => none

def setValue? (g : Given) (option : Valued) (text : List Char) : Option Given :=
  match option with
  | .config => (once g.configPath (path? text)).map fun p => { g with configPath := some p }
  | .maxCycles => (once g.maxCycles (Text.count? text)).map fun n => { g with maxCycles := some n }
  | .memStart => (once g.memStart (Text.count? text)).map fun n => { g with memStart := some n }
  | .memEnd => (once g.memEnd (Text.count? text)).map fun n => { g with memEnd := some n }

def setTracePath? (g : Given) (text : List Char) : Option Given :=
  (once g.tracePath (path? text)).map fun p => { g with tracePath := some p }

def setTrace? (g : Given) : Option Given :=
  if g.traceInstructions then none else some { g with traceInstructions := true }

def setStats? (g : Given) : Option Given :=
  if g.stats then none else some { g with stats := true }

def request? (g : Given) : Option Request :=
  g.tracePath.map fun tracePath =>
    .run
      { tracePath
        configPath := g.configPath
        traceInstructions := g.traceInstructions
        maxCycles := g.maxCycles
        memStart := g.memStart.getD 0
        memEnd := g.memEnd.getD 32
        stats := g.stats }

end Given

inductive Argument where
  | positional (text : List Char)
  | endOfOptions
  | valued (option : Valued) (value : Option (List Char))
  | trace
  | stats
  | help
  | version
  | unknown
  deriving DecidableEq, Repr

namespace Argument

def valuedOf? (name : String) : Option Valued :=
  match name with
  | "config" => some .config
  | "max-cycles" => some .maxCycles
  | "mem-start" => some .memStart
  | "mem-end" => some .memEnd
  | _ => none

def ofLong (name : String) (value : Option (List Char)) : Argument :=
  match valuedOf? name, value with
  | some option, value => .valued option value
  | none, some _ => .unknown
  | none, none =>
      match name with
      | "trace" => .trace
      | "stats" => .stats
      | "help" => .help
      | "version" => .version
      | _ => .unknown

/-- A value may follow a letter at once, or after an equals sign. -/
def ofShort (letter : Char) (rest : List Char) : Argument :=
  match letter, rest with
  | 'c', [] => .valued .config none
  | 'c', '=' :: value => .valued .config (some value)
  | 'c', value => .valued .config (some value)
  | 'h', _ => .help
  | 'V', _ => .version
  | _, _ => .unknown

def ofText (text : List Char) : Argument :=
  match text with
  | ['-', '-'] => .endOfOptions
  | '-' :: '-' :: rest =>
      let name := String.ofList (rest.takeWhile (· ≠ '='))
      match rest.dropWhile (· ≠ '=') with
      | _ :: value => ofLong name (some value)
      | [] => ofLong name none
  | '-' :: letter :: rest => ofShort letter rest
  | _ => .positional text

end Argument

def readPositional (g : Given) : List (List Char) → Option Request
  | [] => g.request?
  | text :: rest => (g.setTracePath? text).bind fun g => readPositional g rest

/-- Reads arguments from left to right.  A value that stands on its own must not look like an
option. -/
def readArguments (g : Given) : List (List Char) → Option Request
  | [] => g.request?
  | text :: rest =>
      match Argument.ofText text with
      | .positional path => (g.setTracePath? path).bind fun g => readArguments g rest
      | .endOfOptions => readPositional g rest
      | .valued option (some value) =>
          (g.setValue? option value).bind fun g => readArguments g rest
      | .valued option none =>
          match rest with
          | [] => none
          | next :: rest =>
              match Argument.ofText next with
              | .positional value =>
                  (g.setValue? option value).bind fun g => readArguments g rest
              | _ => none
      | .trace => g.setTrace?.bind fun g => readArguments g rest
      | .stats => g.setStats?.bind fun g => readArguments g rest
      | .help => some .help
      | .version => some .version
      | .unknown => none

def request? (arguments : List String) : Option Request :=
  readArguments {} (arguments.map String.toList)

end FiveStage.CommandLine
