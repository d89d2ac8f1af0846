import LeasePool.Text.Blank
import LeasePool.Text.Numeral

/-!
Instants and their RFC 3339 text. Writing is in UTC with the fewest of 0, 3, 6 or 9 fractional
digits that are exact. Reading also takes other offsets, blanks between the parts, and numbers with
fewer digits.
-/
namespace LeasePool

open Text

/-- A day of the proleptic Gregorian calendar. -/
structure Date where
  year : Int
  month : Nat
  day : Nat
deriving DecidableEq, Repr

namespace Date

def isLeap (year : Int) : Bool := year % 4 == 0 && (year % 100 != 0 || year % 400 == 0)

def daysInMonth (year : Int) (month : Nat) : Nat :=
  match month with
  | 2 => if isLeap year then 29 else 28
  | 4 | 6 | 9 | 11 => 30
  | _ => 31

def Valid (d : Date) : Prop :=
  1 ≤ d.month ∧ d.month ≤ 12 ∧ 1 ≤ d.day ∧ d.day ≤ daysInMonth d.year d.month

instance (d : Date) : Decidable d.Valid :=
  inferInstanceAs (Decidable (_ ∧ _ ∧ _ ∧ _))

/-- Days since 1970-01-01. Years run from March, so that a leap day ends one. -/
def toDays (d : Date) : Int :=
  let y := if d.month ≤ 2 then d.year - 1 else d.year
  let m : Int := ((d.month + 9) % 12 : Nat)
  let dayOfYear := (153 * m + 2) / 5 + d.day - 1
  365 * y + y / 4 - y / 100 + y / 400 + dayOfYear - 719468

/-- The date so many days after 1970-01-01, found in its 400-year era. -/
def ofDays (days : Int) : Date :=
  let z := days + 719468
  let era := z / 146097
  let doe := z % 146097
  let yoe := (doe - doe / 1460 + doe / 36524 - doe / 146096) / 365
  let doy := doe - (365 * yoe + yoe / 4 - yoe / 100)
  let mp := (5 * doy + 2) / 153
  let day := doy - (153 * mp + 2) / 5 + 1
  let month := if mp < 10 then mp + 3 else mp - 9
  let year := yoe + era * 400 + (if month ≤ 2 then 1 else 0)
  ⟨year, month.toNat, day.toNat⟩

/-- The years that a date may have. -/
def yearInRange (year : Int) : Bool := decide (-262143 ≤ year) && decide (year ≤ 262142)

end Date

/-- An instant: seconds since 1970-01-01T00:00:00Z, and nanoseconds, which reach past a full second
in a leap second. -/
structure Timestamp where
  seconds : Int
  nanos : Nat
deriving DecidableEq, Repr, Inhabited

namespace Timestamp

/-! ### Writing -/

/-- A number with leading zeros up to a width. -/
def padded (width n : Nat) : String :=
  let digits := n.repr
  String.ofList (List.replicate (width - digits.length) '0') ++ digits

/-- Four digits for the years 0 to 9999, a sign before any other. -/
def yearText (year : Int) : String :=
  if 0 ≤ year ∧ year ≤ 9999 then padded 4 year.toNat
  else (if year < 0 then "-" else "+") ++ padded 4 year.natAbs

def fractionText (nanos : Nat) : String :=
  if nanos = 0 then ""
  else if nanos % 1000000 = 0 then "." ++ padded 3 (nanos / 1000000)
  else if nanos % 1000 = 0 then "." ++ padded 6 (nanos / 1000)
  else "." ++ padded 9 nanos

/-- Date and time of day in UTC, followed by the text for the zone. -/
def textWith (zone : String) (t : Timestamp) : String :=
  let date := Date.ofDays (t.seconds / 86400)
  let time := (t.seconds % 86400).toNat
  let second := time % 60 + t.nanos / 1000000000
  yearText date.year ++ "-" ++ padded 2 date.month ++ "-" ++ padded 2 date.day ++ "T"
    ++ padded 2 (time / 3600) ++ ":" ++ padded 2 (time / 60 % 60) ++ ":" ++ padded 2 second
    ++ fractionText (t.nanos % 1000000000) ++ zone

/-- The form with the letter Z, as in messages. -/
def text (t : Timestamp) : String := t.textWith "Z"

/-- The form with a numeric offset, as in metadata. -/
def offsetText (t : Timestamp) : String := t.textWith "+00:00"

/-! ### Reading -/

/-- One to `most` digits, and the text after them. -/
def readDigits (most : Nat) (s : List Char) : Option (List Char × List Char) :=
  let digits := (s.take most).takeWhile Char.isDigit
  if digits.isEmpty then none else some (digits, s.drop digits.length)

def readNat (most : Nat) (s : List Char) : Option (Nat × List Char) :=
  (readDigits most s).map fun (digits, rest) => (Nat.ofDigitChars 10 digits 0, rest)

/-- A number of at most two digits after blanks. -/
def readField (s : List Char) : Option (Nat × List Char) := readNat 2 (trimStart s)

/-- A year: at most four digits, or any number of them after a sign. -/
def readYear (s : List Char) : Option (Int × List Char) :=
  match trimStart s with
  | '-' :: rest => (readNat rest.length rest).map fun (n, rest) => (-(n : Int), rest)
  | '+' :: rest => (readNat rest.length rest).map fun (n, rest) => ((n : Int), rest)
  | rest => (readNat 4 rest).map fun (n, rest) => ((n : Int), rest)

/-- A separator after blanks. -/
def readMark (mark : Char) (s : List Char) : Option (List Char) :=
  match trimStart s with
  | c :: rest => if c = mark then some rest else none
  | [] => none

def readDate (s : List Char) : Option (Date × List Char) := do
  let (year, s) ← readYear s
  let s ← readMark '-' s
  let (month, s) ← readField s
  let s ← readMark '-' s
  let (day, s) ← readField s
  let date : Date := ⟨year, month, day⟩
  if date.Valid ∧ Date.yearInRange year = true then some (date, s) else none

/-- Fractional digits as nanoseconds; digits after the ninth are dropped. -/
def readFraction (s : List Char) : Option (Nat × List Char) :=
  match s with
  | '.' :: rest =>
    (readDigits 9 rest).map fun (digits, after) =>
      (Nat.ofDigitChars 10 digits 0 * Nat.pow 10 (9 - digits.length), after.dropWhile Char.isDigit)
  | _ => some (0, s)

/-- A time of day as seconds and nanoseconds. Second 60 is a leap second. -/
def readTime (s : List Char) : Option (Nat × Nat × List Char) := do
  let (hour, s) ← readField s
  let s ← readMark ':' s
  let (minute, s) ← readField s
  let s ← readMark ':' s
  let (second, s) ← readField s
  let (nanos, s) ← readFraction s
  if 23 < hour ∨ 59 < minute ∨ 60 < second then none
  else if second = 60 then some (hour * 3600 + minute * 60 + 59, nanos + 1000000000, s)
  else some (hour * 3600 + minute * 60 + second, nanos, s)

def digitPair? (a b : Char) : Option Nat :=
  if a.isDigit ∧ b.isDigit then some (Nat.ofDigitChars 10 [a, b] 0) else none

/-- Hours and minutes of an offset, with colons and blanks between them, in seconds. -/
def readOffsetSize (s : List Char) : Option (Nat × List Char) :=
  match s with
  | a :: b :: rest =>
    match digitPair? a b, rest.dropWhile fun c => c = ':' || isBlank c with
    | some hours, c :: d :: rest =>
      match digitPair? c d with
      | some minutes =>
        if 59 < minutes ∨ 23 < hours then none else some (hours * 3600 + minutes * 60, rest)
      | none => none
    | _, _ => none
  | _ => none

/-- An offset from UTC in seconds: a letter Z, the name UTC, or a sign and a size. -/
def readOffset (s : List Char) : Option (Int × List Char) :=
  if (s.take 3).map Char.toUpper = ['U', 'T', 'C'] then some (0, s.drop 3)
  else match s with
    | 'Z' :: rest => some (0, rest)
    | 'z' :: rest => some (0, rest)
    | '+' :: rest => (readOffsetSize rest).map fun (n, rest) => ((n : Int), rest)
    | '-' :: rest => (readOffsetSize rest).map fun (n, rest) => (-(n : Int), rest)
    | '\u2212' :: rest => (readOffsetSize rest).map fun (n, rest) => (-(n : Int), rest)
    | _ => none

/-- The instant that a text denotes. -/
def parse? (s : String) : Option Timestamp := do
  let (date, rest) ← readDate s.toList
  let rest ← match rest with
    | 'T' :: rest => some rest
    | 't' :: rest => some rest
    | ' ' :: rest => some rest
    | _ => none
  let (time, nanos, rest) ← readTime rest
  let (offset, rest) ← readOffset (trimStart rest)
  let seconds := date.toDays * 86400 + time - offset
  if (trimStart rest).isEmpty ∧ Date.yearInRange (Date.ofDays (seconds / 86400)).year = true then
    some ⟨seconds, nanos⟩
  else none

end Timestamp

end LeasePool
