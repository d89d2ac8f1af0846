/-!
Decimal numerals. Writing uses `Nat.repr`; reading accepts ASCII digits after an optional plus
sign, up to a stated limit, and reads back what is written.
-/
namespace LeasePool.Text

/-- The largest value of a 64-bit word. -/
def wordMax : Nat := Nat.pow 2 64 - 1

/-- The digits of a numeral, less one leading plus sign. -/
def unsigned : List Char → List Char
  | '+' :: digits => digits
  | digits => digits

/-- The value of a numeral without limit. -/
def natural? (s : List Char) : Option Nat :=
  let digits := unsigned s
  if digits ≠ [] ∧ digits.all Char.isDigit = true then some (Nat.ofDigitChars 10 digits 0)
  else none

/-- The value of a numeral that fits in a 64-bit word. -/
def word? (s : List Char) : Option Nat :=
  match natural? s with
  | some n => if n ≤ wordMax then some n else none
  | none => none

theorem unsigned_of_all_isDigit {s : List Char} (h : s.all Char.isDigit = true) :
    unsigned s = s := by
  unfold unsigned
  split
  · simp at h
  · rfl

/-- Reading gives back a written number. -/
theorem natural?_repr (n : Nat) : natural? n.repr.toList = some n := by
  have digits : n.repr.toList = Nat.toDigits 10 n := Nat.toList_repr
  have all : (Nat.toDigits 10 n).all Char.isDigit = true := by
    simp only [List.all_eq_true]
    exact fun c hc => Nat.isDigit_of_mem_toDigits (b := 10) (by decide) (by decide) hc
  have nonempty : Nat.toDigits 10 n ≠ [] := Nat.toDigits_ne_nil
  simp [natural?, digits, unsigned_of_all_isDigit all, nonempty, all, Nat.ofDigitChars_toDigits]

theorem word?_repr {n : Nat} (h : n ≤ wordMax) : word? n.repr.toList = some n := by
  rw [word?, natural?_repr]
  simp [h]

end LeasePool.Text
