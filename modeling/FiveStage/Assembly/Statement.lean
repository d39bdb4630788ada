import FiveStage.Assembly.Label
import FiveStage.Isa.Register

/-!
# Statements

The instruction of a line is a mnemonic and a list of operands, which are still text.  An operand
is read as a register, an integer, a target or an address.
-/

namespace FiveStage.Assembly

open Text

structure Statement where
  mnemonic : String
  operands : List (List Char)
  deriving DecidableEq, Repr

def operandsOf (text : List Char) : List (List Char) :=
  let text := trim text
  if text = [] then [] else (text.splitOn ',').map trim

/-- A mnemonic is a letter, then letters and dots.  It stands alone or before a blank, and is
kept in lower case. -/
def Statement.parse? (text : List Char) : Option Statement :=
  match text with
  | [] => none
  | c :: rest =>
      if c.isAlpha then
        let continues := fun c : Char => c.isAlpha || c == '.'
        let statement : Statement :=
          { mnemonic := String.ofList (lowerCase (c :: rest.takeWhile continues))
            operands := operandsOf (rest.dropWhile continues) }
        match rest.dropWhile continues with
        | [] => some statement
        | blank :: _ => if isBlank blank then some statement else none
      else none

/-- Decimal digits, or hexadecimal digits after `0x`; the value has to fit in 63 bits. -/
def magnitude? (text : List Char) : Option Nat :=
  let value :=
    match text with
    | '0' :: 'x' :: digits => natural? 16 digits
    | '0' :: 'X' :: digits => natural? 16 digits
    | digits => natural? 10 digits
  value.filter (· < signedLimit)

def integer? (text : List Char) : Option Int :=
  match trim text with
  | '-' :: digits => (magnitude? digits).map fun n => -(n : Int)
  | '+' :: digits => (magnitude? digits).map fun n => (n : Int)
  | digits => (magnitude? digits).map fun n => (n : Int)

def isParenthesis (c : Char) : Bool := c == '(' || c == ')'

/-- Splits `offset(base)` into its two parts.  The offset may be left out. -/
def splitAddress? (text : List Char) : Option (List Char × List Char) :=
  let inBase := fun c : Char => !isParenthesis c && !isBlank c
  match text.dropWhile fun c => !isParenthesis c with
  | '(' :: inner =>
      let inner := trimLeft inner
      let base := inner.takeWhile inBase
      if base = [] then none
      else
        match trimLeft (inner.dropWhile inBase) with
        | [')'] => some (trim (text.takeWhile fun c => !isParenthesis c), base)
        | _ => none
  | _ => none

def immediateRange : Range := ⟨-2048, 2047⟩

def branchRange : Range := ⟨-4096, 4095⟩

def jumpRange : Range := ⟨-1048576, 1048575⟩

/-- An upper immediate may be written with or without its sign. -/
def upperRange : Range := ⟨-524288, 1048575⟩

def shiftRange : Range := ⟨0, 63⟩

structure Context where
  labels : LabelTable
  index : Nat
  deriving DecidableEq, Repr

namespace Statement

def requireOperands (s : Statement) (expected : Nat) : Except Problem Unit :=
  if s.operands.length = expected then .ok ()
  else .error (.operandCount s.mnemonic expected s.operands.length)

/-- The operand at a position counted from 0; an empty one counts as missing. -/
def operand (s : Statement) (position : Nat) : Except Problem (List Char) :=
  match s.operands[position]? with
  | some (c :: rest) => .ok (c :: rest)
  | _ => .error (.missingOperand (position + 1))

def registerOf (operand : List Char) : Except Problem Register :=
  match Register.parse? operand with
  | some r => .ok r
  | none => .error (.notRegister (String.ofList operand))

def register (s : Statement) (position : Nat) : Except Problem Register := do
  registerOf (← s.operand position)

def immediate (s : Statement) (position : Nat) (range : Range) : Except Problem Int := do
  let operand ← s.operand position
  match integer? operand with
  | none => .error (.notInteger (String.ofList operand))
  | some value =>
      if range.contains value then .ok value else .error (.immediateOutOfRange value range)

def offsetTo (s : Statement) (context : Context) (position : Nat) (range : Range) :
    Except Problem Int := do
  let operand ← s.operand position
  match context.labels.find? operand with
  | some index => .ok (4 * (index : Int) - 4 * (context.index : Int))
  | none =>
      if (integer? operand).isSome then s.immediate position range
      else .error (.undefinedLabel (String.ofList operand))

def target (s : Statement) (context : Context) (position : Nat) (range : Range) :
    Except Problem Int := do
  let operand ← s.operand position
  let offset ← s.offsetTo context position range
  if !range.contains offset then .error (.targetOutOfRange (String.ofList operand))
  else if offset % 2 ≠ 0 then .error (.oddTarget offset)
  else .ok offset

def offsetOf (text : List Char) : Except Problem Int :=
  if text = [] then .ok 0
  else
    match (integer? text).filter immediateRange.contains with
    | some value => .ok value
    | none => .error (.badOffset (String.ofList text))

/-- An offset and a base register.  The register is looked at first. -/
def address (s : Statement) (position : Nat) : Except Problem (Int × Register) := do
  let operand ← s.operand position
  match splitAddress? operand with
  | none => .error (.notAddress (String.ofList operand))
  | some (offset, base) =>
      let base ← registerOf base
      let offset ← offsetOf offset
      return (offset, base)

end Statement

end FiveStage.Assembly
