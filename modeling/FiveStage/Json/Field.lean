import FiveStage.Json.Value

/-!
# Fields of a record

A record with named fields is written as an object, or as an array of its fields in order.  In an
object unknown keys are passed over, and no known key may come twice.  In an array fields may be
missing at the end only.
-/

namespace FiveStage.Json

/-- The value of one field, `none` if it is missing.  A field that comes twice fails. -/
def field? (members : List (Option String × Value)) (name : String) : Option (Option Value) :=
  match members.filter (·.1 = some name) with
  | [] => some none
  | [(_, value)] => some (some value)
  | _ => none

def fields? (names : List String) : Value → Option (List (Option Value))
  | .object members =>
      if members.all (·.1.isSome) then names.mapM (field? members) else none
  | .array items =>
      if items.length ≤ names.length then
        some (items.map some ++ List.replicate (names.length - items.length) none)
      else none
  | _ => none

def optional {α : Type} (read : Value → Option α) (default : α) : Option Value → Option α
  | some value => read value
  | none => some default

def required {α : Type} (read : Value → Option α) : Option Value → Option α
  | some value => read value
  | none => none

def readBool : Value → Option Bool
  | .bool value => some value
  | _ => none

/-- A count that fits in 64 bits.  A zero with a minus sign is none. -/
def readCount : Value → Option Nat
  | .integer false magnitude => if magnitude < Text.unsignedLimit then some magnitude else none
  | _ => none

def readInteger : Value → Option Int
  | .integer false magnitude => if magnitude < Text.signedLimit then some magnitude else none
  | .integer true magnitude =>
      if 0 < magnitude ∧ magnitude ≤ Text.signedLimit then some (-(magnitude : Int)) else none
  | _ => none

def readNullable {α : Type} (read : Value → Option α) : Value → Option (Option α)
  | .null => some none
  | value => (read value).map some

def readList {α : Type} (read : Value → Option α) : Value → Option (List α)
  | .array items => items.mapM read
  | _ => none

end FiveStage.Json
