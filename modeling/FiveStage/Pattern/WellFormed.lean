import FiveStage.Pattern.Bracket
import FiveStage.Text.Alphanumeric

/-!
# Well-formed patterns

A pattern is a sequence of items in branches, with groups that hold patterns again.  The reader
keeps the groups that are open and what has been read in each of them.
-/

namespace FiveStage.Pattern

inductive Part where
  | flags
  | item (depth : Nat)
  deriving DecidableEq, Repr

def Part.depth : Part → Nat
  | .flags => 0
  | .item depth => depth

structure Group where
  outside : Mode := {}
  branches : List Nat := []
  parts : List Part := []
  deriving DecidableEq, Repr

namespace Group

def add (g : Group) (part : Part) : Group := { g with parts := part :: g.parts }

def branchDepth (g : Group) : Nat := nesting (g.parts.map Part.depth)

def newBranch (g : Group) : Group := { g with branches := g.branchDepth :: g.branches, parts := [] }

def depth (g : Group) : Nat := nesting (g.branchDepth :: g.branches)

def repeat? (g : Group) : Option Group :=
  match g.parts with
  | .item depth :: parts => some { g with parts := .item (depth + 1) :: parts }
  | _ => none

end Group

structure Reader where
  mode : Mode := {}
  names : List (List Char) := []
  group : Group := {}
  outer : List Group := []
  deriving DecidableEq, Repr

namespace Reader

def add (r : Reader) (part : Part) : Reader := { r with group := r.group.add part }

def openGroup (r : Reader) (inside : Mode) : Reader :=
  { r with mode := inside, group := { outside := r.mode }, outer := r.group :: r.outer }

def closeGroup? (r : Reader) : Option Reader :=
  match r.outer with
  | [] => none
  | enclosing :: outer =>
      some
        { r with
          mode := r.group.outside
          group := enclosing.add (.item (r.group.depth + 1))
          outer }

def startsName (c : Char) : Bool := c == '_' || Text.isAlphabetic c

def continuesName (c : Char) : Bool :=
  c == '_' || c == '.' || c == '[' || c == ']' || Text.isAlphanumeric c

/-- A group with a name, up to the closing angle bracket.  No two groups have one name. -/
def named? (r : Reader) (text : List Char) : Option (Reader × List Char) :=
  let name := text.takeWhile (· ≠ '>')
  let valid := name.head?.any startsName && name.tail.all continuesName
  match text.dropWhile (· ≠ '>') with
  | _ :: rest =>
      if valid && !r.names.contains name then
        some ({ r with names := name :: r.names }.openGroup r.mode, rest)
      else none
  | [] => none

def areFlags (flags : List Char) : Bool :=
  flags.all ['i', 'm', 's', 'U', 'u', 'R', 'x', '-'].contains && decide flags.Nodup &&
    flags.getLast? != some '-'

/-- Flags: for a group of their own after a colon, else for the rest of the present one. -/
def flagged? (r : Reader) (text : List Char) : Option (Reader × List Char) :=
  let inFlags := fun c : Char => c ≠ ':' && c ≠ ')'
  let flags := text.takeWhile inFlags
  if areFlags flags then
    match text.dropWhile inFlags with
    | ':' :: rest => some (r.openGroup (r.mode.withFlags flags), rest)
    | _ :: rest =>
        if flags = [] then none
        else some ({ r with mode := r.mode.withFlags flags }.add .flags, rest)
    | [] => none
  else none

def parenthesis? (r : Reader) (text : List Char) : Option (Reader × List Char) :=
  match r.mode.skip text with
  | '?' :: 'P' :: '<' :: rest => r.named? rest
  | '?' :: '<' :: rest => r.named? rest
  | '?' :: rest => r.flagged? rest
  | rest => some (r.openGroup r.mode, rest)

/-- Repetition of the last part.  A question mark right after it makes it reluctant. -/
def repeated? (r : Reader) (text : List Char) : Option (Reader × List Char) :=
  r.group.repeat?.map fun group =>
    ({ r with group }, if text.head? = some '?' then text.tail else text)

/-- One step for the character `c` and maybe some of those after it.  A brace would start a
repetition with bounds, and these never occur. -/
def step? (r : Reader) (c : Char) (rest : List Char) : Option (Reader × List Char) :=
  match c with
  | '(' => r.parenthesis? rest
  | ')' => r.closeGroup?.map (·, rest)
  | '|' => some ({ r with group := r.group.newBranch }, rest)
  | '[' => (bracket? r.mode rest).map fun (depth, rest) => (r.add (.item depth), rest)
  | '?' | '*' | '+' => r.repeated? rest
  | '\x7b' => none
  | '\\' => (escape? r.mode rest).map fun (_, rest) => (r.add (.item 0), rest)
  | '.' => if r.mode.unicode then some (r.add (.item 0), rest) else none
  | _ => some (r.add (.item 0), rest)

def isComplete (r : Reader) : Bool := r.outer.isEmpty && r.group.depth ≤ nestingLimit

/-- Reads to the end.  Each step takes at least one character. -/
def finishes : Nat → Reader → List Char → Bool
  | 0, _, _ => false
  | fuel + 1, r, text =>
      match r.mode.skip text with
      | [] => r.isComplete
      | c :: rest =>
          match r.step? c rest with
          | some (r, rest) => finishes fuel r rest
          | none => false

end Reader

def isWellFormed (text : List Char) : Bool := Reader.finishes (text.length + 1) {} text

end FiveStage.Pattern
