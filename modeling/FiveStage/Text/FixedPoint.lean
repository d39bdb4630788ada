import FiveStage.Text.Numeral

/-!
# Numbers with fixed places

A floating-point number is a whole number times a power of two, so its decimal digits are exact.
Printing it with a fixed number of places rounds that exact value once, to the nearest neighbour,
and a tie to the even one.
-/

namespace FiveStage.Text

/-- The whole number nearest to `num / den`; of two equally near ones the even one. -/
def roundDiv (num den : Nat) : Nat :=
  let quotient := num / den
  let rest := 2 * (num % den)
  if rest < den ∨ (rest = den ∧ quotient % 2 = 0) then quotient else quotient + 1

/-- The number `mantissa * 2 ^ exponent`. -/
structure Dyadic where
  mantissa : Nat
  exponent : Int
  deriving DecidableEq, Repr

def Dyadic.ofFloat (x : Float) : Dyadic :=
  let bits := x.toBits.toNat
  let leading := 1 <<< 52
  let fraction := bits % leading
  let exponent : Nat := bits / leading % 2048
  if exponent = 0 then ⟨fraction, -1074⟩ else ⟨leading + fraction, (exponent : Int) - 1075⟩

def Dyadic.scaled (d : Dyadic) (places : Nat) : Nat :=
  roundDiv ((d.mantissa <<< d.exponent.toNat) * Nat.pow 10 places) (1 <<< (-d.exponent).toNat)

def fixedPlaces (places : Nat) (x : Float) : String :=
  let units := (Dyadic.ofFloat x).scaled places
  let unit := Nat.pow 10 places
  let whole := toString (units / unit)
  if places = 0 then whole
  else whole ++ "." ++ String.ofList (paddedDigits 10 places (units % unit))

end FiveStage.Text
