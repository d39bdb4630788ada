import FiveStage.Text.Blank

/-!
# Patterns

A pattern is a regular expression.  Here it only matters whether a pattern is well formed, not
what it matches.  How its characters are read depends on flags, which a pattern sets for the rest
of a group, and how deep its parts are nested has a limit.
-/

namespace FiveStage.Pattern

structure Mode where
  unicode : Bool := true
  /-- Blanks and comments do not count. -/
  spaced : Bool := false
  deriving DecidableEq, Repr

/-- Text without the blanks and comments in front.  A comment reaches from a number sign to the
end of its line; `inComment` tells whether one has begun already. -/
def dropBlanks : (inComment : Bool) → List Char → List Char
  | _, [] => []
  | true, c :: rest => dropBlanks (c != '\n') rest
  | false, c :: rest =>
      if Text.isBlank c then dropBlanks false rest
      else if c = '#' then dropBlanks true rest
      else c :: rest

namespace Mode

def skip (m : Mode) (text : List Char) : List Char :=
  if m.spaced then dropBlanks false text else text

/-- The next character that counts, looked up and not taken.  One number sign counts as a blank,
and where nothing but blanks is left the next character is a blank. -/
def ahead? (m : Mode) (text : List Char) : Option Char :=
  if m.spaced then
    let found := match text.dropWhile Text.isBlank with
      | '#' :: rest => rest.dropWhile Text.isBlank
      | rest => rest
    found.head?.or text.head?
  else text.head?

/-- The mode under flags as they are written: those before a hyphen are set, those after it
unset. -/
def withFlags (m : Mode) (flags : List Char) : Mode :=
  let on := flags.takeWhile (· ≠ '-')
  let off := flags.dropWhile (· ≠ '-')
  { unicode := on.contains 'u' || (m.unicode && !off.contains 'u')
    spaced := on.contains 'x' || (m.spaced && !off.contains 'x') }

end Mode

def nesting (depths : List Nat) : Nat :=
  match depths with
  | [] => 0
  | [depth] => depth
  | _ => depths.foldl max 0 + 1

def nestingLimit : Nat := 250

end FiveStage.Pattern
