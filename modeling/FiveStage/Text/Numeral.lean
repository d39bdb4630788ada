/-!
# Numerals

Natural numbers in a positional base: written with at least a given number of digits, and read
back from digits alone.  Hexadecimal and binary numerals carry their usual `0x` and `0b` marks.
-/

namespace FiveStage.Text

def paddedDigits (base places n : Nat) : List Char :=
  (Nat.toDigits base n).leftpad places '0'

def hex (n : Nat) : String := String.ofList ('0' :: 'x' :: paddedDigits 16 1 n)

def hex32 (n : Nat) : String := String.ofList ('0' :: 'x' :: paddedDigits 16 8 n)

def hexByte (n : Nat) : String := String.ofList (paddedDigits 16 2 n)

def binary (places n : Nat) : String := String.ofList ('0' :: 'b' :: paddedDigits 2 places n)

def alignRight (width : Nat) (text : String) : String :=
  String.ofList (text.toList.leftpad width ' ')

def alignLeft (width : Nat) (text : String) : String :=
  String.ofList (text.toList.rightpad width ' ')

def digitValue? (c : Char) : Option Nat :=
  if '0' ≤ c ∧ c ≤ '9' then some (c.toNat - '0'.toNat)
  else if 'a' ≤ c ∧ c ≤ 'f' then some (c.toNat - 'a'.toNat + 10)
  else if 'A' ≤ c ∧ c ≤ 'F' then some (c.toNat - 'A'.toNat + 10)
  else none

def appendDigit? (base : Nat) (value : Nat) (c : Char) : Option Nat :=
  match digitValue? c with
  | some d => if d < base then some (base * value + d) else none
  | none => none

def natural? (base : Nat) : List Char → Option Nat
  | [] => none
  | c :: cs => (c :: cs).foldlM (appendDigit? base) 0

def unsignedLimit : Nat := 0x10000000000000000

def signedLimit : Nat := 0x8000000000000000

/-- A count that fits in 64 bits: decimal digits, with one plus sign allowed in front. -/
def count? (text : List Char) : Option Nat :=
  let magnitude := match text with
    | '+' :: digits => natural? 10 digits
    | digits => natural? 10 digits
  magnitude.filter (· < unsignedLimit)

end FiveStage.Text
