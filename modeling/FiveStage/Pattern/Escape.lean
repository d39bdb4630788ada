import FiveStage.Pattern.Basic
import FiveStage.Text.Numeral

/-!
# Escapes in patterns

What a backslash and the characters after it stand for.
-/

namespace FiveStage.Pattern

inductive Item where
  | character (code : Nat)
  | oneOf
  | place
  deriving DecidableEq, Repr

def hexCharacter? (m : Mode) : Nat → Nat → List Char → Option (Nat × List Char)
  | 0, code, text => if code.isValidChar then some (code, m.skip text) else none
  | left + 1, code, text =>
      match m.skip text with
      | c :: rest =>
          (Text.appendDigit? 16 code c).bind fun code => hexCharacter? m left code rest
      | [] => none

/-- The letters of the general categories of characters: other, letter, mark, number,
punctuation, symbol and separator. -/
def isCategory (c : Char) : Bool := ['c', 'l', 'm', 'n', 'p', 's', 'z'].contains c.toLower

def controlCharacter? (c : Char) : Option Nat :=
  match c with
  | 'a' => some 7
  | 't' => some 9
  | 'n' => some 10
  | 'v' => some 11
  | 'f' => some 12
  | 'r' => some 13
  | _ => none

def isEscapable (c : Char) : Bool := c.toNat < 128 && !c.isAlphanum && c != '<' && c != '>'

/-- A class that ranges beyond ASCII, and so needs characters instead of bytes. -/
def wideClass? (m : Mode) (rest : List Char) : Option (Item × List Char) :=
  if m.unicode then some (.oneOf, rest) else none

/-- What comes after a backslash.  Boundaries of words are known for bytes only. -/
def escape? (m : Mode) (text : List Char) : Option (Item × List Char) :=
  match text with
  | [] => none
  | c :: rest =>
      let character := fun read : Option (Nat × List Char) =>
        read.map fun (code, rest) => (Item.character code, rest)
      match c with
      | 'x' =>
          character ((hexCharacter? m 2 0 rest).filter fun (code, _) => m.unicode || code < 128)
      | 'u' => character (hexCharacter? m 4 0 rest)
      | 'U' => character (hexCharacter? m 8 0 rest)
      | 'd' | 's' | 'w' => some (.oneOf, rest)
      | 'D' | 'S' | 'W' => wideClass? m rest
      | 'p' | 'P' =>
          match m.skip rest with
          | category :: rest => if isCategory category then wideClass? m (m.skip rest) else none
          | [] => none
      | 'A' | 'z' => some (.place, rest)
      | 'b' | 'B' | '<' | '>' => if m.unicode then none else some (.place, rest)
      | _ =>
          if isEscapable c then some (.character c.toNat, rest)
          else (controlCharacter? c).map fun code => (.character code, rest)

end FiveStage.Pattern
