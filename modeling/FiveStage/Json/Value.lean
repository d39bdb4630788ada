import FiveStage.Json.Token

/-!
# JSON values

A value is read from its tokens by a machine with a stack of the arrays and objects that are
still open, so nesting may go to any depth.  Members of an object are kept as they are written,
in order and with repetitions.
-/

namespace FiveStage.Json

inductive Value where
  | null
  | bool (value : Bool)
  | integer (negative : Bool) (magnitude : Nat)
  /-- Any other number. -/
  | fraction
  | string (text : Option String)
  | array (items : List Value)
  | object (members : List (Option String × Value))

/-- Digits, but nothing after a leading zero. -/
def isWhole (digits : List Char) : Bool :=
  match digits with
  | [] => false
  | ['0'] => true
  | c :: rest => '1' ≤ c && c ≤ '9' && rest.all Char.isDigit

def isDigits (text : List Char) : Bool := !text.isEmpty && text.all Char.isDigit

def isExponent (text : List Char) : Bool :=
  match text with
  | [] => true
  | e :: rest =>
      (e == 'e' || e == 'E') &&
        match rest with
        | '+' :: digits | '-' :: digits => isDigits digits
        | digits => isDigits digits

def isFraction (text : List Char) : Bool :=
  match text with
  | '.' :: rest =>
      isDigits (rest.takeWhile Char.isDigit) && isExponent (rest.dropWhile Char.isDigit)
  | rest => isExponent rest

def unsigned? (negative : Bool) (text : List Char) : Option Value :=
  let whole := text.takeWhile Char.isDigit
  let rest := text.dropWhile Char.isDigit
  if isWhole whole then
    if rest = [] then (Text.natural? 10 whole).map (.integer negative)
    else if isFraction rest then some .fraction
    else none
  else none

def number? (text : List Char) : Option Value :=
  match text with
  | '-' :: rest => unsigned? true rest
  | _ => unsigned? false text

def scalar? (word : List Char) : Option Value :=
  if word = "null".toList then some .null
  else if word = "true".toList then some (.bool true)
  else if word = "false".toList then some (.bool false)
  else number? word

/-- A container that is still open, with its parts in reverse order. -/
inductive Frame where
  | array (items : List Value)
  | object (members : List (Option String × Value)) (key : Option String)

inductive Reader where
  /-- A value.  The array that has just been opened may also be closed. -/
  | value (stack : List Frame) (closable : Bool)
  | key (stack : List Frame) (members : List (Option String × Value)) (closable : Bool)
  | colon (stack : List Frame) (members : List (Option String × Value)) (key : Option String)
  | afterItem (stack : List Frame) (items : List Value)
  | afterMember (stack : List Frame) (members : List (Option String × Value))
  | done (value : Value)

namespace Reader

/-- Puts a finished value where the innermost open container wants it. -/
def supply (v : Value) : List Frame → Reader
  | [] => .done v
  | .array items :: rest => .afterItem rest (v :: items)
  | .object members name :: rest => .afterMember rest ((name, v) :: members)

def stepValue (stack : List Frame) (closable : Bool) : Token → Option Reader
  | .openBracket => some (.value (.array [] :: stack) true)
  | .openBrace => some (.key stack [] true)
  | .closeBracket =>
      if closable then
        match stack with
        | .array items :: rest => some (supply (.array items.reverse) rest)
        | _ => none
      else none
  | .string text => some (supply (.string text) stack)
  | .word text => (scalar? text).map (supply · stack)
  | _ => none

def step (r : Reader) (token : Token) : Option Reader :=
  match r with
  | .value stack closable => stepValue stack closable token
  | .key stack members closable =>
      match token with
      | .string name => some (.colon stack members name)
      | .closeBrace => if closable then some (supply (.object members.reverse) stack) else none
      | _ => none
  | .colon stack members name =>
      if token = .colon then some (.value (.object members name :: stack) false) else none
  | .afterItem stack items =>
      match token with
      | .comma => some (.value (.array items :: stack) false)
      | .closeBracket => some (supply (.array items.reverse) stack)
      | _ => none
  | .afterMember stack members =>
      match token with
      | .comma => some (.key stack members false)
      | .closeBrace => some (supply (.object members.reverse) stack)
      | _ => none
  | .done _ => none

end Reader

def parse? (text : List Char) : Option Value :=
  match (tokenize text).bind fun tokens => tokens.foldlM Reader.step (.value [] false) with
  | some (.done value) => some value
  | _ => none

end FiveStage.Json
