import FiveStage.Isa.Word

/-!
# Branch resolution

Whether a conditional branch is taken, and where transfers of control lead.
-/

namespace FiveStage

/-- Function codes of no branch are never taken. -/
def branchTaken (funct3 : Nat) (a b : Doubleword) : Bool :=
  match funct3 with
  | 0 => a == b
  | 1 => a != b
  | 4 => a.slt b
  | 5 => !a.slt b
  | 6 => a.ult b
  | 7 => !a.ult b
  | _ => false

def relativeTarget (pc offset : Doubleword) : Doubleword := pc + offset

/-- Register targets are made even. -/
def registerTarget (sum : Doubleword) : Doubleword := sum &&& ~~~1

end FiveStage
