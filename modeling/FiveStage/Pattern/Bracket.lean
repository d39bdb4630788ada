import FiveStage.Pattern.Escape

/-!
# Brackets in patterns

A bracket lists characters, ranges of them and named classes, and may hold other brackets.  What
it lists is combined by the operations `&&`, `--` and `~~`, from left to right.
-/

namespace FiveStage.Pattern

def classNames : List String :=
  ["alnum", "alpha", "ascii", "blank", "cntrl", "digit", "graph", "lower", "print", "punct",
    "space", "upper", "word", "xdigit"]

def namedClass? (text : List Char) : Option (Bool × List Char) :=
  match text with
  | ':' :: text =>
      let negated := text.head? == some '^'
      let text := if negated then text.tail else text
      let name := String.ofList (text.takeWhile (· ≠ ':'))
      match text.dropWhile (· ≠ ':') with
      | ':' :: ']' :: rest => if classNames.contains name then some (negated, rest) else none
      | _ => none
  | _ => none

/-- One character of a bracket or an escape.  Where a pattern is about bytes it can only list
ASCII, and places cannot be listed at all. -/
def bracketItem? (m : Mode) (text : List Char) : Option (Item × List Char) :=
  let item := match text with
    | [] => none
    | '\\' :: rest => escape? m rest
    | c :: rest => some (.character c.toNat, rest)
  item.filter fun (item, _) =>
    match item with
    | .character code => m.unicode || code < 128
    | .oneOf => true
    | .place => false

/-- An item, or a range between two characters in ascending order.  A hyphen before another
hyphen or the closing bracket makes no range. -/
def bracketRange? (m : Mode) (text : List Char) : Option (List Char) := do
  let (first, rest) ← bracketItem? m text
  match m.skip rest with
  | '-' :: after =>
      let next := m.ahead? after
      if next = some ']' ∨ next = some '-' then some ('-' :: after)
      else
        let (last, rest) ← bracketItem? m (m.skip after)
        match first, last with
        | .character low, .character high => if low ≤ high then some rest else none
        | _, _ => none
  | rest => some rest

structure Bracket where
  atStart : Bool := true
  left : Option Nat := none
  items : List Nat := []
  deriving DecidableEq, Repr

namespace Bracket

def add (b : Bracket) (depth : Nat) : Bracket :=
  { b with atStart := false, items := depth :: b.items }

def addHyphen (b : Bracket) : Bracket := { b with items := 0 :: b.items }

def contentDepth (b : Bracket) : Nat :=
  match b.left with
  | some left => max left (nesting b.items) + 1
  | none => nesting b.items

def depth (b : Bracket) : Nat := b.contentDepth + 1

def operation (b : Bracket) : Bracket := { atStart := false, left := some b.contentDepth }

end Bracket

/-- What comes after an opening bracket, without a mark for negation.  Negation lists characters
beyond ASCII. -/
def negation? (m : Mode) (text : List Char) : Option (List Char) :=
  match m.skip text with
  | '^' :: rest => if m.unicode then some rest else none
  | rest => some rest

/-- Reads on in the bracket `b`, which stands inside the brackets `outer`.  The outermost bracket
gives its depth and the text after it.  Each turn takes at least one character. -/
def bracketFrom? (m : Mode) : Nat → Bracket → List Bracket → List Char → Option (Nat × List Char)
  | 0, _, _, _ => none
  | fuel + 1, b, outer, text =>
      match m.skip text with
      | '[' :: rest =>
          match namedClass? rest with
          | some (negated, rest) =>
              if negated && !m.unicode then none else bracketFrom? m fuel (b.add 0) outer rest
          | none =>
              (negation? m rest).bind fun rest => bracketFrom? m fuel {} (b :: outer) rest
      | ']' :: rest =>
          if b.atStart && b.items.isEmpty then bracketFrom? m fuel (b.add 0) outer rest
          else
            match outer with
            | [] => some (b.depth, rest)
            | enclosing :: outer => bracketFrom? m fuel (enclosing.add b.depth) outer rest
      | '-' :: rest =>
          if b.atStart then bracketFrom? m fuel b.addHyphen outer rest
          else
            match rest with
            | '-' :: rest => bracketFrom? m fuel b.operation outer rest
            | _ =>
                (bracketRange? m ('-' :: rest)).bind fun rest =>
                  bracketFrom? m fuel (b.add 0) outer rest
      | '&' :: '&' :: rest => bracketFrom? m fuel b.operation outer rest
      | '~' :: '~' :: rest => bracketFrom? m fuel b.operation outer rest
      | text =>
          (bracketRange? m text).bind fun rest => bracketFrom? m fuel (b.add 0) outer rest

def bracket? (m : Mode) (text : List Char) : Option (Nat × List Char) :=
  (negation? m text).bind fun inside => bracketFrom? m (inside.length + 1) {} [] inside

end FiveStage.Pattern
