import FiveStage.Text.Blank
import FiveStage.Text.Numeral

/-!
# Registers

The thirty-two integer registers and the names of the calling convention.  Text may name a
register by number (`x10`) or by convention (`a0`); printing uses the convention.
-/

namespace FiveStage

abbrev registerCount : Nat := 32

abbrev Register := Fin registerCount

namespace Register

def zero : Register := 0

def ra : Register := 1

def names : List String :=
  ["zero", "ra", "sp", "gp", "tp", "t0", "t1", "t2", "s0", "s1", "a0", "a1", "a2", "a3", "a4",
    "a5", "a6", "a7", "s2", "s3", "s4", "s5", "s6", "s7", "s8", "s9", "s10", "s11", "t3", "t4",
    "t5", "t6"]

def nameOf (index : Nat) : String := (names[index]?).getD "x??"

def name (r : Register) : String := nameOf r.val

def ofIndex? (index : Nat) : Option Register :=
  if h : index < registerCount then some ⟨index, h⟩ else none

/-- The register that a conventional name stands for; `fp` is another name of `s0`. -/
def ofName? (name : List Char) : Option Register :=
  if name = ['f', 'p'] then some 8
  else (names.findIdx? (·.toList = name)).bind ofIndex?

/-- Reads either spelling, in any case and with blanks around it. -/
def parse? (text : List Char) : Option Register :=
  let name := Text.lowerCase (Text.trim text)
  match name with
  | 'x' :: number =>
      match Text.count? number with
      | some index => ofIndex? index
      | none => ofName? name
  | _ => ofName? name

theorem ofIndex?_val (r : Register) : ofIndex? r.val = some r := by simp [ofIndex?]

end Register

end FiveStage
