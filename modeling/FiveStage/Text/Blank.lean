/-!
# Blank characters

The characters with the Unicode property `White_Space`, and text without them at its ends.
-/

namespace FiveStage.Text

def isBlank (c : Char) : Bool :=
  let n := c.toNat
  (9 ≤ n && n ≤ 13) || n == 0x20 || n == 0x85 || n == 0xA0 || n == 0x1680 ||
    (0x2000 ≤ n && n ≤ 0x200A) || n == 0x2028 || n == 0x2029 || n == 0x202F || n == 0x205F ||
    n == 0x3000

def trimLeft (text : List Char) : List Char := text.dropWhile isBlank

def trimRight (text : List Char) : List Char := (text.reverse.dropWhile isBlank).reverse

def trim (text : List Char) : List Char := trimRight (trimLeft text)

def lowerCase (text : List Char) : List Char := text.map Char.toLower

theorem trimLeft_of_blank {text : List Char} (h : ∀ c ∈ text, isBlank c = true) :
    trimLeft text = [] := by
  induction text with
  | nil => rfl
  | cons c cs ih =>
      have rest := ih fun d hd => h d (List.mem_cons_of_mem c hd)
      simpa [trimLeft, h c (List.mem_cons_self ..)] using rest

theorem trim_of_blank {text : List Char} (h : ∀ c ∈ text, isBlank c = true) : trim text = [] := by
  simp [trim, trimLeft_of_blank h, trimRight]

theorem trim_eq_self {text : List Char} (first : ∀ c ∈ text.head?, isBlank c = false)
    (last : ∀ c ∈ text.getLast?, isBlank c = false) : trim text = text := by
  have left : trimLeft text = text := by
    cases text with
    | nil => rfl
    | cons c cs => simp [trimLeft, first c (by simp)]
  rw [trim, left, trimRight]
  rcases List.eq_nil_or_concat text with rfl | ⟨front, c, rfl⟩
  · rfl
  · simp [last c (by simp)]

end FiveStage.Text
