/-!
Finite binary64 numbers in exact arithmetic: rounding a ratio to the nearest number, ties to the
even significand, and the shortest decimal that rounds back.
-/
namespace LeasePool

/-- The number `± significand · 2 ^ power`. In a canonical number the significand has 53 bits,
or the power is the least one. -/
structure Binary64 where
  negative : Bool
  significand : Nat
  power : Int
deriving DecidableEq, Repr

namespace Binary64

def leastPower : Int := -1074

def greatestPower : Int := 971

def zero (negative : Bool) : Binary64 := ⟨negative, 0, leastPower⟩

def isZero (x : Binary64) : Bool := x.significand == 0

/-- `n · 2 ^ p` as a ratio of natural numbers. -/
def scaled (n : Nat) (p : Int) : Nat × Nat :=
  if 0 ≤ p then (n * Nat.pow 2 p.toNat, 1) else (n, Nat.pow 2 (-p).toNat)

/-- The integer nearest to a ratio, ties to even. -/
def roundRatio (num den : Nat) : Nat :=
  let q := num / den
  let r := num % den
  if 2 * r < den then q
  else if den < 2 * r then q + 1
  else if q % 2 = 0 then q else q + 1

/-- The number nearest to a ratio; none when it lies beyond the largest one. -/
def ofRatio? (negative : Bool) (num den : Nat) : Option Binary64 :=
  if num = 0 then some (zero negative)
  else
    let guess : Int := (num.log2 : Int) - (den.log2 : Int) - 52
    let atPower (p : Int) : Nat × Nat :=
      if 0 ≤ p then (num, den * Nat.pow 2 p.toNat) else (num * Nat.pow 2 (-p).toNat, den)
    let small : Bool := (atPower guess).1 < Nat.pow 2 52 * (atPower guess).2
    let p := max leastPower (if small then guess - 1 else guess)
    let m := roundRatio (atPower p).1 (atPower p).2
    let (m, p) := if m = Nat.pow 2 53 then (Nat.pow 2 52, p + 1) else (m, p)
    if p ≤ greatestPower then some ⟨negative, m, p⟩ else none

/-- The exact magnitude as a ratio. -/
def ratio (x : Binary64) : Nat × Nat := scaled x.significand x.power

def times? (x y : Binary64) : Option Binary64 :=
  ofRatio? x.negative (x.ratio.1 * y.ratio.1) (x.ratio.2 * y.ratio.2)

def over? (x y : Binary64) : Option Binary64 :=
  ofRatio? x.negative (x.ratio.1 * y.ratio.2) (x.ratio.2 * y.ratio.1)

/-! ### Shortest decimal -/

/-- A decimal `digits · 10 ^ exponent`. -/
structure Decimal where
  digits : Nat
  exponent : Int
deriving DecidableEq, Repr

/-- `num / den · 10 ^ -e` as a ratio. -/
def onGrid (num den : Nat) (e : Int) : Nat × Nat :=
  if 0 ≤ e then (num, den * Nat.pow 10 e.toNat) else (num * Nat.pow 10 (-e).toNat, den)

/-- The number of decimal places before the first digit of a ratio below 1, at most `fuel`. -/
def leadingPlaces (fuel num den : Nat) : Nat :=
  match fuel with
  | 0 => 0
  | fuel + 1 => if den ≤ num then 0 else leadingPlaces fuel (10 * num) den + 1

/-- The `e` with `10 ^ (e - 1) ≤ num / den < 10 ^ e`. -/
def magnitude (num den : Nat) : Int :=
  if den ≤ num then ((num / den).repr.length : Int)
  else 1 - (leadingPlaces 400 num den : Int)

/-- The interval of reals that round to `x`, as numerators over one denominator, and whether it
includes its ends. -/
def interval (x : Binary64) : Nat × Nat × Nat × Bool :=
  let quarter := scaled 1 (x.power - 2)
  let m := x.significand
  let low := if m = Nat.pow 2 52 ∧ leastPower < x.power then 4 * m - 1 else 4 * m - 2
  (low * quarter.1, (4 * m + 2) * quarter.1, quarter.2, m % 2 == 0)

/-- The nearer of the neighbours of `x` on the grid of multiples of `10 ^ e` that rounds to `x`, of
two equally near ones the even one. -/
def onGrid? (x : Binary64) (e : Int) : Option Decimal :=
  let (num, den) := x.ratio
  let (low, high, unit, closed) := x.interval
  let (gn, gd) := onGrid num den e
  let below := gn / gd
  let inside (k : Nat) : Bool :=
    let (l, ld) := onGrid low unit e
    let (h, hd) := onGrid high unit e
    if closed then l ≤ k * ld && k * hd ≤ h else l < k * ld && k * hd < h
  let nearerBelow : Bool := 2 * (gn % gd) < gd || (2 * (gn % gd) == gd && below % 2 == 0)
  if inside below && (nearerBelow || !inside (below + 1)) then some ⟨below, e⟩
  else if inside (below + 1) then some ⟨below + 1, e⟩
  else none

/-- The decimal with the fewest digits that rounds to `x`, and of those the nearest. -/
def shortest (x : Binary64) : Decimal :=
  let (num, den) := x.ratio
  let top := magnitude num den
  let hit := (List.range 17).findSome? fun n : Nat => x.onGrid? (top - 1 - (n : Int))
  hit.getD ⟨0, 0⟩

/-- Zeros at the end of the digits go into the exponent. -/
def Decimal.normal (fuel : Nat) (d : Decimal) : Decimal :=
  match fuel with
  | 0 => d
  | fuel + 1 =>
    if d.digits ≠ 0 ∧ d.digits % 10 = 0 then normal fuel ⟨d.digits / 10, d.exponent + 1⟩ else d

/-- Positional between `1e-5` and `1e16`, with `.0` after an integer; an exponent elsewhere. -/
def text (x : Binary64) : String :=
  let sign := if x.negative then "-" else ""
  if x.isZero then sign ++ "0.0"
  else
    let d := x.shortest.normal 20
    let digits := d.digits.repr.toList
    let point : Int := digits.length + d.exponent
    let zeros (n : Nat) : List Char := List.replicate n '0'
    let body : List Char :=
      if 0 ≤ d.exponent ∧ point ≤ 16 then digits ++ zeros d.exponent.toNat ++ ['.', '0']
      else if 0 < point ∧ point ≤ 16 then
        digits.take point.toNat ++ '.' :: digits.drop point.toNat
      else if -5 < point ∧ point ≤ 0 then '0' :: '.' :: zeros (-point).toNat ++ digits
      else
        let fraction := digits.drop 1
        digits.take 1 ++ (if fraction.isEmpty then [] else '.' :: fraction)
          ++ 'e' :: (toString (point - 1)).toList
    sign ++ String.ofList body

end Binary64

end LeasePool
