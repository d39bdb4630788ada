import FiveStage.Assembly.Assembler
import FiveStage.Text.Document

/-!
# Programs from source text

Assembles a source text, or the contents of a source file, into a program.
-/

namespace FiveStage

inductive LoadError where
  | program (error : ProgramError)
  | assembly (error : Assembly.Error)
  | unreadable (path : String) (failure : Text.ReadFailure)
  deriving DecidableEq, Repr

def LoadError.message : LoadError → String
  | program error => error.message
  | assembly error => error.message
  | unreadable path failure => s!"failed to read {path}: {failure.message}"

namespace Program

def ofSource (source : String) : Except LoadError Program :=
  match Assembly.assemble source.toList with
  | .error error => .error (.assembly error)
  | .ok records =>
      match ofRecords records with
      | .error error => .error (.program error)
      | .ok program => .ok program

def ofFile (path : String) (contents : Except Text.ReadFailure ByteArray) :
    Except LoadError Program :=
  match Text.readDocument contents with
  | .error failure => .error (.unreadable path failure)
  | .ok source => ofSource source

end Program

end FiveStage
