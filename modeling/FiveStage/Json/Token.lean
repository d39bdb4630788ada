import FiveStage.Text.Numeral

/-!
# JSON tokens

Text is cut into tokens by a machine that takes one character at a time.  A string is kept as
text where it is text: an escape can name one half of a surrogate pair without the other, and a
string with such a half in it stands for no text.
-/

namespace FiveStage.Json

inductive Token where
  | openBracket
  | closeBracket
  | openBrace
  | closeBrace
  | comma
  | colon
  | string (text : Option String)
  | word (text : List Char)
  deriving DecidableEq, Repr

def isBlank (c : Char) : Bool := c == ' ' || c == '\t' || c == '\n' || c == '\r'

def punctuation? (c : Char) : Option Token :=
  match c with
  | '[' => some .openBracket
  | ']' => some .closeBracket
  | '\x7b' => some .openBrace
  | '\x7d' => some .closeBrace
  | ',' => some .comma
  | ':' => some .colon
  | _ => none

def simpleEscape? (c : Char) : Option Nat :=
  match c with
  | '"' | '\\' | '/' => some c.toNat
  | 'b' => some 8
  | 'f' => some 12
  | 'n' => some 10
  | 'r' => some 13
  | 't' => some 9
  | _ => none

def isHighHalf (unit : Nat) : Bool := 0xD800 ≤ unit && unit ≤ 0xDBFF

def isLowHalf (unit : Nat) : Bool := 0xDC00 ≤ unit && unit ≤ 0xDFFF

/-- Characters from code points and surrogate halves, which have to come in pairs. -/
def joinHalves : List Nat → Option (List Char)
  | [] => some []
  | [unit] => if isHighHalf unit || isLowHalf unit then none else some [Char.ofNat unit]
  | unit :: next :: rest =>
      if isHighHalf unit then
        if isLowHalf next then
          (joinHalves rest).map
            (Char.ofNat (0x10000 + (unit - 0xD800) * 0x400 + (next - 0xDC00)) :: ·)
        else none
      else if isLowHalf unit then none
      else (joinHalves (next :: rest)).map (Char.ofNat unit :: ·)

/-- What the machine is in the middle of.  Collected parts are in reverse order. -/
inductive Mode where
  | between
  | word (text : List Char)
  | string (units : List Nat)
  | escape (units : List Nat)
  | hexEscape (units : List Nat) (left value : Nat)
  deriving DecidableEq, Repr

structure Tokenizer where
  mode : Mode := .between
  tokens : List Token := []
  deriving DecidableEq, Repr

namespace Tokenizer

def finishWord (t : Tokenizer) : List Token :=
  match t.mode with
  | .word text => .word text.reverse :: t.tokens
  | _ => t.tokens

def stepBetween (t : Tokenizer) (c : Char) : Tokenizer :=
  if isBlank c then ⟨.between, t.finishWord⟩
  else if c = '"' then ⟨.string [], t.finishWord⟩
  else
    match punctuation? c with
    | some token => ⟨.between, token :: t.finishWord⟩
    | none =>
        match t.mode with
        | .word text => { t with mode := .word (c :: text) }
        | _ => { t with mode := .word [c] }

/-- A character inside a string; control characters have to be escaped. -/
def stepString (t : Tokenizer) (units : List Nat) (c : Char) : Option Tokenizer :=
  if c = '"' then
    some ⟨.between, .string ((joinHalves units.reverse).map String.ofList) :: t.tokens⟩
  else if c = '\\' then some { t with mode := .escape units }
  else if c.toNat < 0x20 then none
  else some { t with mode := .string (c.toNat :: units) }

def step (t : Tokenizer) (c : Char) : Option Tokenizer :=
  match t.mode with
  | .between | .word _ => some (t.stepBetween c)
  | .string units => t.stepString units c
  | .escape units =>
      if c = 'u' then some { t with mode := .hexEscape units 4 0 }
      else (simpleEscape? c).map fun unit => { t with mode := .string (unit :: units) }
  | .hexEscape units left value =>
      (Text.appendDigit? 16 value c).map fun value =>
        if left ≤ 1 then { t with mode := .string (value :: units) }
        else { t with mode := .hexEscape units (left - 1) value }

def finish (t : Tokenizer) : Option (List Token) :=
  match t.mode with
  | .between | .word _ => some t.finishWord.reverse
  | _ => none

end Tokenizer

def tokenize (text : List Char) : Option (List Token) :=
  (text.foldlM Tokenizer.step {}).bind Tokenizer.finish

end FiveStage.Json
