import LeasePool.Text.Blank
import LeasePool.Text.Lowercase
import LeasePool.Text.Numeral

/-!
Spans of time and their written form: a number with one of the units ms, s, m and h. Reading takes
any letter case and surrounding blanks, and a bare number as seconds; writing uses the largest unit
that divides the span, after rounding it up to whole milliseconds.
-/
namespace LeasePool

open Text

/-- A span of up to 2⁶⁴ seconds, in nanoseconds. -/
structure Duration where
  nanos : Nat
  nanos_lt : nanos < Nat.pow 2 64 * Nat.pow 10 9
deriving DecidableEq, Repr

namespace Duration

def zero : Duration := ⟨0, by decide⟩

instance : Inhabited Duration := ⟨zero⟩

def isZero (d : Duration) : Bool := d.nanos == 0

/-- Whole milliseconds, rounded down. -/
def millis (d : Duration) : Nat := d.nanos / 1000000

/-- Whole milliseconds, rounded up, so that only the zero span gives 0. -/
def millisUp (d : Duration) : Nat := (d.nanos + 999999) / 1000000

def ofMillis (n : Nat) (h : n ≤ wordMax) : Duration :=
  ⟨n * 1000000, by simp only [wordMax, Nat.pow_eq] at h ⊢; omega⟩

/-- The span of so many nanoseconds, when it can be represented. -/
def ofNanos? (n : Nat) : Option Duration :=
  if h : n < Nat.pow 2 64 * Nat.pow 10 9 then some ⟨n, h⟩ else none

/-- The span from one clock reading to a later one. -/
def between (earlier later : Nat) : Duration := (ofNanos? (later - earlier)).getD zero

@[simp] theorem millis_ofMillis (n : Nat) (h : n ≤ wordMax) : (ofMillis n h).millis = n := by
  simp [millis, ofMillis]

@[simp] theorem millisUp_ofMillis (n : Nat) (h : n ≤ wordMax) : (ofMillis n h).millisUp = n := by
  simp only [millisUp, ofMillis]
  omega

theorem millisUp_eq_zero_iff (d : Duration) : d.millisUp = 0 ↔ d.nanos = 0 := by
  simp only [millisUp]
  omega

/-! ### Written form -/

/-- The units of the written form. -/
inductive Measure where
  | millisecond | second | minute | hour
deriving DecidableEq, Repr

namespace Measure

def millis : Measure → Nat
  | millisecond => 1
  | second => 1000
  | minute => 60000
  | hour => 3600000

def symbol : Measure → String
  | millisecond => "ms"
  | second => "s"
  | minute => "m"
  | hour => "h"

end Measure

/-- The text before a given ending. -/
def before? (ending s : List Char) : Option (List Char) :=
  if ending.isSuffixOf s then some (s.take (s.length - ending.length)) else none

/-- Splits a lower-case text into its number and its unit. Milliseconds come first, since their
symbol ends like that of seconds; without a unit the number counts seconds. -/
def splitMeasure (s : List Char) : List Char × Measure :=
  match before? ['m', 's'] s with
  | some number => (number, .millisecond)
  | none =>
    match before? ['s'] s with
    | some number => (number, .second)
    | none =>
      match before? ['m'] s with
      | some number => (number, .minute)
      | none =>
        match before? ['h'] s with
        | some number => (number, .hour)
        | none => (s, .second)

/-- A text that denotes no span. -/
structure ParseError where
  input : String
deriving DecidableEq, Repr

def ParseError.message (e : ParseError) : String :=
  s!"Invalid duration '{e.input}' - expected format like '250ms', '30s', '5m', or '1h'"

/-- The span of so many units, when its milliseconds fit in a 64-bit word. -/
def ofUnits? (n : Nat) (unit : Measure) : Option Duration :=
  if h : n * unit.millis ≤ wordMax then some (ofMillis (n * unit.millis) h) else none

def parse? (s : List Char) : Option Duration :=
  let (number, unit) := splitMeasure (lower (trim s))
  match word? (trim number) with
  | some n => ofUnits? n unit
  | none => none

def parse (s : String) : Except ParseError Duration :=
  match parse? s.toList with
  | some d => .ok d
  | none => .error ⟨s⟩

/-- The largest unit that divides so many milliseconds. -/
def largestMeasure (ms : Nat) : Measure :=
  if ms % 3600000 = 0 then .hour
  else if ms % 60000 = 0 then .minute
  else if ms % 1000 = 0 then .second
  else .millisecond

def format (d : Duration) : String :=
  let ms := d.millisUp
  if ms = 0 then "0"
  else
    let unit := largestMeasure ms
    (ms / unit.millis).repr ++ unit.symbol

/-! ### Diagnostic form -/

/-- `whole` and `part` of `scale` as a decimal fraction without trailing zeros. -/
def decimalText (whole part scale : Nat) : String :=
  let places := (scale + part).repr.toList.drop 1
  let kept := (places.reverse.dropWhile (· == '0')).reverse
  if kept.isEmpty then whole.repr else whole.repr ++ "." ++ String.ofList kept

/-- The span in the largest of s, ms, µs and ns that it reaches, exactly. -/
def describe (d : Duration) : String :=
  let inUnit (places : Nat) (symbol : String) : String :=
    let scale := Nat.pow 10 places
    decimalText (d.nanos / scale) (d.nanos % scale) scale ++ symbol
  if Nat.pow 10 9 ≤ d.nanos then inUnit 9 "s"
  else if Nat.pow 10 6 ≤ d.nanos then inUnit 6 "ms"
  else if Nat.pow 10 3 ≤ d.nanos then inUnit 3 "µs"
  else d.nanos.repr ++ "ns"

end Duration

end LeasePool
