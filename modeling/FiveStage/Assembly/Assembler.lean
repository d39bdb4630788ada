import FiveStage.Assembly.Mnemonic
import FiveStage.Machine.Program

/-!
# The assembler

All labels are placed before any instruction is read, so a line may refer to a label further
down.  Instructions follow each other without gaps from address 0 on.
-/

namespace FiveStage.Assembly

def instructionOf (context : Context) (text : List Char) : Except Problem Instruction :=
  match Statement.parse? text with
  | none => .error (.unparsable (String.ofList text))
  | some statement =>
      match Mnemonic.ofString? statement.mnemonic with
      | none => .error (.unknownInstruction statement.mnemonic)
      | some mnemonic => statement.toInstruction context mnemonic

/-- The instructions of the lines, the first of which comes after `index` others. -/
def instructionsFrom (labels : LabelTable) (index : Nat) :
    List SourceLine → Except Error (List Instruction)
  | [] => .ok []
  | line :: rest =>
      match instructionOf ⟨labels, index⟩ line.body with
      | .error problem => .error ⟨line.number, problem⟩
      | .ok instruction =>
          match instructionsFrom labels (index + 1) rest with
          | .error error => .error error
          | .ok instructions => .ok (instruction :: instructions)

def instructions (source : List Char) : Except Error (List Instruction) :=
  let lines := sourceLines source
  match LabelTable.ofLines lines with
  | .error error => .error error
  | .ok labels => instructionsFrom labels 0 (lines.filter SourceLine.hasInstruction)

def assemble (source : List Char) : Except Error (List InstructionRecord) :=
  (instructions source).map fun instructions =>
    instructions.mapIdx fun index instruction =>
      { addr := Program.addressOf index, word := instruction.encode }

end FiveStage.Assembly
