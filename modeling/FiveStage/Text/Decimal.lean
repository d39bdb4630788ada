import FiveStage.Text.Blank

/-!
# Decimal numbers

Numbers with a sign, a fraction and an exponent, of which each may be missing.
-/

namespace FiveStage.Text

def dropSign (text : List Char) : List Char :=
  match text with
  | '+' :: rest => rest
  | '-' :: rest => rest
  | _ => text

def isExponent (text : List Char) : Bool :=
  let digits := dropSign text
  !digits.isEmpty && digits.all Char.isDigit

/-- Digits with one point anywhere among them, and maybe an exponent. -/
def isUnsignedDecimal (text : List Char) : Bool :=
  let whole := text.takeWhile Char.isDigit
  let (fraction, rest) :=
    match text.dropWhile Char.isDigit with
    | '.' :: rest => (rest.takeWhile Char.isDigit, rest.dropWhile Char.isDigit)
    | rest => ([], rest)
  (!whole.isEmpty || !fraction.isEmpty) &&
    match rest with
    | [] => true
    | mark :: exponent => mark.toLower == 'e' && isExponent exponent

/-- A number, or one of the names for what is not a finite number, in any case. -/
def isDecimal (text : List Char) : Bool :=
  let magnitude := dropSign text
  isUnsignedDecimal magnitude ||
    ["inf", "infinity", "nan"].contains (String.ofList (lowerCase magnitude))

end FiveStage.Text
