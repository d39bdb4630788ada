import FiveStage.Text.Blank
import FiveStage.Text.Document
import FiveStage.Text.WordChar

/-!
# Source lines

A line of assembler text is any number of labels, then at most one instruction, then at most one
comment.  A comment starts at `#` or `;`, and a label ends in a colon.
-/

namespace FiveStage.Assembly

open Text

def startsComment (c : Char) : Bool := c == '#' || c == ';'

def stripComment (line : List Char) : List Char := line.takeWhile fun c => !startsComment c

def startsLabel (c : Char) : Bool := c.isAlpha || c == '_' || c == '.'

def continuesLabel (c : Char) : Bool := isWordChar c || c == '.'

/-- Takes one label off the front of a text.  Blanks may stand before the colon. -/
def splitLabel? : List Char → Option (List Char × List Char)
  | [] => none
  | c :: rest =>
      if startsLabel c then
        match trimLeft (rest.dropWhile continuesLabel) with
        | ':' :: after => some (c :: rest.takeWhile continuesLabel, trim after)
        | _ => none
      else none

theorem length_dropWhile_le (p : Char → Bool) (text : List Char) :
    (text.dropWhile p).length ≤ text.length :=
  (List.dropWhile_sublist p).length_le

theorem length_trim_le (text : List Char) : (trim text).length ≤ text.length := by
  have right : (trimRight (trimLeft text)).length ≤ (trimLeft text).length := by
    simpa [trimRight] using length_dropWhile_le isBlank (trimLeft text).reverse
  exact Nat.le_trans right (length_dropWhile_le isBlank text)

theorem length_of_splitLabel? {text label rest : List Char}
    (h : splitLabel? text = some (label, rest)) : rest.length < text.length := by
  unfold splitLabel? at h
  split at h
  · cases h
  next c tail =>
    split at h
    · split at h
      next after colon =>
        cases h
        have step := congrArg List.length colon
        have drop := length_dropWhile_le continuesLabel tail
        have blank := length_dropWhile_le isBlank (tail.dropWhile continuesLabel)
        have ends := length_trim_le after
        simp only [trimLeft, List.length_cons] at step ⊢
        omega
      · cases h
    · cases h

def splitLabels (text : List Char) : List (List Char) × List Char :=
  match _h : splitLabel? text with
  | none => ([], text)
  | some (label, rest) =>
      let (labels, body) := splitLabels rest
      (label :: labels, body)
termination_by text.length
decreasing_by exact length_of_splitLabel? _h

structure SourceLine where
  number : Nat
  labels : List (List Char)
  body : List Char
  deriving DecidableEq, Repr

def SourceLine.ofText (number : Nat) (text : List Char) : SourceLine :=
  let (labels, body) := splitLabels (trim (stripComment text))
  { number, labels, body }

def SourceLine.hasInstruction (line : SourceLine) : Bool := !line.body.isEmpty

def sourceLines (source : List Char) : List SourceLine :=
  (lines source).mapIdx fun index text => SourceLine.ofText (index + 1) text

end FiveStage.Assembly
