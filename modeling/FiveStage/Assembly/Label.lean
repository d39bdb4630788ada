import FiveStage.Assembly.Error
import FiveStage.Assembly.Line

/-!
# Labels

A label stands for the address of the next instruction line, which is given here as the number
of instruction lines before it.  No label may be defined twice.
-/

namespace FiveStage.Assembly

structure LabelTable where
  entries : List (List Char × Nat)
  deriving DecidableEq, Repr

namespace LabelTable

def empty : LabelTable := ⟨[]⟩

def find? (table : LabelTable) (label : List Char) : Option Nat :=
  (table.entries.find? (·.1 = label)).map (·.2)

def define (table : LabelTable) (label : List Char) (index : Nat) : Except Problem LabelTable :=
  match table.find? label with
  | some _ => .error (.duplicateLabel (String.ofList label))
  | none => .ok ⟨(label, index) :: table.entries⟩

def defineAll (table : LabelTable) (labels : List (List Char)) (index : Nat) :
    Except Problem LabelTable :=
  labels.foldlM (fun table label => table.define label index) table

def place (table : LabelTable) (index : Nat) : List SourceLine → Except Error LabelTable
  | [] => .ok table
  | line :: rest =>
      match table.defineAll line.labels index with
      | .error problem => .error ⟨line.number, problem⟩
      | .ok table => table.place (if line.hasInstruction then index + 1 else index) rest

def ofLines (lines : List SourceLine) : Except Error LabelTable := empty.place 0 lines

theorem find?_empty (label : List Char) : empty.find? label = none := rfl

theorem find?_of_define {table next : LabelTable} {label : List Char} {index : Nat}
    (h : table.define label index = .ok next) : next.find? label = some index := by
  unfold define at h
  split at h
  · cases h
  · cases h
    simp [find?]

theorem find?_of_define_ne {table next : LabelTable} {label other : List Char} {index : Nat}
    (h : table.define label index = .ok next) (ne : label ≠ other) :
    next.find? other = table.find? other := by
  unfold define at h
  split at h
  · cases h
  · cases h
    simp [find?, ne]

end LabelTable

end FiveStage.Assembly
