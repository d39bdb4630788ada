import FiveStage.Log.Event
import FiveStage.Pattern.WellFormed
import FiveStage.Text.Alphanumeric
import FiveStage.Text.Bytes
import FiveStage.Text.Decimal

/-!
# Directives of log filters

A directive gives a threshold to the scopes whose name starts with its target, and may ask in
brackets for a span around an event or for a field that it carries.
-/

namespace FiveStage.Log

/-- The least important level that is shown; `none` shows nothing. -/
abbrev Threshold := Option Level

structure Directive where
  target : Option String := none
  span : Option String := none
  field : Option String := none
  value : Option String := none
  threshold : Threshold := some .trace
  deriving DecidableEq, Repr

/-- A threshold by its name, in any case, or by its number. -/
def threshold? (text : List Char) : Option Threshold :=
  match Text.count? text with
  | some 0 => some none
  | some 1 => some (some .error)
  | some 2 => some (some .warn)
  | some 3 => some (some .info)
  | some 4 => some (some .debug)
  | some 5 => some (some .trace)
  | some _ => none
  | none =>
      match String.ofList (Text.lowerCase text) with
      | "off" => some none
      | "error" => some (some .error)
      | "warn" => some (some .warn)
      | "info" => some (some .info)
      | "debug" => some (some .debug)
      | "trace" => some (some .trace)
      | _ => none

namespace Directive

def withTarget (d : Directive) (text : List Char) : Directive :=
  { d with target := some (String.ofList text) }

def withSpan (d : Directive) (text : List Char) : Directive :=
  { d with span := some (String.ofList text) }

/-- The value of a field is asked for by a number or by a pattern. -/
def isValue (text : List Char) : Bool := Text.isDecimal text || Pattern.isWellFormed text

/-- The part between braces: the name of a field, and its value between two equals signs or after
the only one. -/
def withField? (d : Directive) (text : List Char) : Option Directive :=
  if text = [] then none
  else
    match text.splitOn '=' with
    | name :: value :: _ =>
        if isValue value then
          some { d with field := some (String.ofList name), value := some (String.ofList value) }
        else none
    | _ => some { d with field := some (String.ofList text) }

/-- Sets the threshold that follows an equals sign; nothing after it stands for everything. -/
def withThreshold? (d : Directive) (text : List Char) : Option Directive :=
  if text = [] then some { d with threshold := some .trace }
  else (threshold? text).map fun threshold => { d with threshold }

/-- A directive without marks is a threshold if it reads as one, else a target. -/
def ofName (text : List Char) : Directive :=
  match threshold? text with
  | some threshold => { threshold }
  | none => ({} : Directive).withTarget text

def startsName (c : Char) : Bool :=
  c == '_' || c == '-' || c == ':' || Text.isAlphanumeric c

inductive Mode where
  | start
  | name
  | span (start : Nat)
  | field (start : Nat)
  | afterField
  | afterBracket
  | level (start : Nat)
  deriving DecidableEq, Repr

structure Reader where
  mode : Mode := .start
  directive : Directive := {}
  place : Nat := 0
  deriving DecidableEq, Repr

namespace Reader

def turn? (text : List Char) (r : Reader) (c : Char) (next : Nat) : Option (Mode × Directive) :=
  let d := r.directive
  match r.mode with
  | .start =>
      if c = '[' then some (.span next, d) else if startsName c then some (.name, d) else none
  | .name =>
      if c = '=' then some (.level next, d.withTarget (Text.takeBytes r.place text))
      else if c = '[' then some (.span next, d.withTarget (Text.takeBytes r.place text))
      else some (.name, d)
  | .span start =>
      if c = ']' then some (.afterBracket, d.withSpan (Text.cutBytes start r.place text))
      else if c = '\x7b' then
        some
          (.field next,
            if r.place = start then d else d.withSpan (Text.cutBytes start r.place text))
      else some (.span start, d)
  | .field start =>
      if c = '\x7d' then
        (d.withField? (Text.cutBytes start r.place text)).map fun d => (.afterField, d)
      else some (.field start, d)
  | .afterField => if c = ']' then some (.afterBracket, d) else none
  | .afterBracket => if c = '=' then some (.level next, d) else none
  | .level start => some (.level start, d)

def step? (text : List Char) (r : Reader) (c : Char) : Option Reader :=
  let next := r.place + c.utf8Size
  (r.turn? text c next).map fun (mode, directive) => { mode, directive, place := next }

def finish? (text : List Char) (r : Reader) : Option Directive :=
  match r.mode with
  | .name => some (ofName text)
  | .level start => r.directive.withThreshold? (Text.dropBytes start text)
  | .afterBracket => some r.directive
  | _ => none

end Reader

/-- The directive in a text.  The text is read without the blanks at its ends, but places found
there are those where the whole text is cut.  So a blank at an end belongs to what stands there,
and a blank in front moves every cut. -/
def parse? (text : List Char) : Option Directive :=
  ((Text.trim text).foldlM (Reader.step? text) {}).bind (Reader.finish? text)

/-- Whether a directive asks for a span.  Values are those that fields have when a span is
entered, so to ask for one is to ask for a span too. -/
def needsSpan (d : Directive) : Bool := d.span.isSome || d.value.isSome

def applies (d : Directive) (e : Event) : Bool :=
  !d.needsSpan &&
    (match d.target with
      | some target => target.toList.isPrefixOf e.scope.name.toList
      | none => true) &&
    match d.field with
    | some field => field == "message" || e.fields.any (·.name == field)
    | none => true

/-- Whether `d` decides in place of `other`, which comes before it. -/
def overrules (d other : Directive) : Bool :=
  let length := fun d : Directive => (d.target.map fun t => t.utf8ByteSize + 1).getD 0
  if length d ≠ length other then length other < length d
  else
    match d.field, other.field with
    | _, none => true
    | none, some _ => false
    | some f, some g => decide (g ≤ f)

end Directive

end FiveStage.Log
