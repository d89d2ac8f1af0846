import LeasePool.Json.Tree
import LeasePool.Text.Numeral

/-!
The value of a tree. Integers that fit in 64 bits are exact and every other number is a binary64
number; of members with equal keys the last one counts; containers nest only so deep.
-/
namespace LeasePool.Json

open Text

/-- How deep containers may nest. -/
def nestingLimit : Nat := 127

/-- Appends digits to a significand for as long as it fits in a word; returns the significand and
the digits left over. -/
def absorb (significand : Nat) : List Char → Nat × List Char
  | [] => (significand, [])
  | c :: rest =>
    let next := significand * 10 + (c.toNat - '0'.toNat)
    if next ≤ wordMax then absorb next rest else (significand, c :: rest)

/-- `x · 10 ^ e`, in steps of at most 308 powers of ten; none beyond the largest number. -/
def scaleByTen (fuel : Nat) (x : Binary64) (e : Int) : Option Binary64 :=
  match fuel with
  | 0 => some x
  | fuel + 1 =>
    match Binary64.ofRatio? false (Nat.pow 10 (min e.natAbs 308)) 1 with
    | none => none
    | some pow =>
      if e.natAbs ≤ 308 then if 0 ≤ e then x.times? pow else x.over? pow
      else if x.isZero then some x
      else if 0 ≤ e then none
      else match x.over? pow with
        | some y => scaleByTen fuel y (e + 308)
        | none => none

/-- `± significand · 10 ^ e`, rounded first to the significand and then once per scaling step. -/
def ofParts? (negative : Bool) (significand : Nat) (e : Int) : Option Json :=
  match Binary64.ofRatio? negative significand 1 with
  | none => none
  | some x => (scaleByTen 8 x e).map .float

namespace Numeral

/-- The value as an unsigned word. -/
def word? (n : Numeral) : Option Nat :=
  if n.negative ∨ n.fraction.isSome ∨ n.exponent.isSome then none else Text.word? n.whole

/-- The largest exponent that is read as a number. -/
def exponentMax : Nat := Nat.pow 2 31 - 1

/-- The value of a number with a fraction, an exponent or too many digits. -/
def binary? (n : Numeral) : Option Json :=
  let (significand, left) := absorb 0 n.whole
  let fraction := n.fraction.getD []
  let (significand, ignored) := absorb significand fraction
  let e : Int := (left.length : Int) - ((fraction.length - ignored.length : Nat) : Int)
  match n.exponent with
  | none => ofParts? n.negative significand e
  | some (down, digits) =>
    let size := Nat.ofDigitChars 10 digits 0
    if exponentMax < size then
      if significand ≠ 0 ∧ !down then none else some (.float (.zero n.negative))
    else
      let e := if down then e - size else e + size
      ofParts? n.negative significand (max (-exponentMax - 1) (min exponentMax e))

/-- An integer of at most 64 bits is exact; minus zero is not an integer. -/
def value? (n : Numeral) : Option Json :=
  if n.fraction.isSome ∨ n.exponent.isSome then n.binary?
  else match Text.word? n.whole with
    | none => n.binary?
    | some m =>
      if !n.negative then some (.int m)
      else if m = 0 ∨ Nat.pow 2 63 < m then n.binary?
      else some (.int (-m))

/-- The value as a signed number within bounds. -/
def int? (low high : Int) (n : Numeral) : Option Int :=
  if n.fraction.isSome ∨ n.exponent.isSome then none
  else match n.value? with
    | some (.int k) => if low ≤ k ∧ k ≤ high then some k else none
    | _ => none

end Numeral

namespace Tree

mutual
/-- The value of a tree whose containers nest at most `room` deep. -/
def value? (room : Nat) : Tree → Option Json
  | .null => some .null
  | .bool b => some (.bool b)
  | .number n => n.value?
  | .string text => text.map .string
  | .array items =>
    if room = 0 then none else (itemValues? (room - 1) items).map .array
  | .object members =>
    if room = 0 then none else (memberValues? (room - 1) members).map .ofMembers
def itemValues? (room : Nat) : List Tree → Option (List Json)
  | [] => some []
  | t :: rest =>
    match value? room t, itemValues? room rest with
    | some v, some vs => some (v :: vs)
    | _, _ => none
def memberValues? (room : Nat) : List (Option String × Tree) → Option (List (String × Json))
  | [] => some []
  | (key, t) :: rest =>
    match key, value? room t, memberValues? room rest with
    | some k, some v, some ms => some ((k, v) :: ms)
    | _, _, _ => none
end

end Tree

/-- The value of a JSON text. -/
def parse? (s : String) : Option Json :=
  match Tree.parse s.toList with
  | some t => t.value? nestingLimit
  | none => none

end LeasePool.Json
