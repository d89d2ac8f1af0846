import LeasePool.Json.Value

/-!
JSON text as written. A tree keeps what a value loses: the digits of a number, the order and the
repetitions of keys, and strings whose escapes name no character. Reading is strict about the
grammar and says nothing yet about what the text means.
-/
namespace LeasePool

/-- A number as written: sign, digits before and after the point, and the exponent with its own
sign. -/
structure Json.Numeral where
  negative : Bool
  whole : List Char
  fraction : Option (List Char)
  exponent : Option (Bool × List Char)
deriving DecidableEq, Repr, Inhabited

/-- A value as written. A string is `none` when it holds half of a surrogate pair. -/
inductive Json.Tree where
  | null
  | bool (b : Bool)
  | number (n : Json.Numeral)
  | string (text : Option String)
  | array (items : List Json.Tree)
  | object (members : List (Option String × Json.Tree))
deriving Repr, Inhabited

namespace Json.Tree

def isSpace (c : Char) : Bool := c = ' ' || c = '\n' || c = '\t' || c = '\r'

def skipSpace (s : List Char) : List Char := s.dropWhile isSpace

/-! ### Strings -/

/-- A piece of a string: a character, or a 16-bit unit written by its number. -/
inductive Piece where
  | char (c : Char)
  | unit (n : Nat)
deriving DecidableEq, Repr

def hexValue? (c : Char) : Option Nat :=
  if c.isDigit then some (c.toNat - '0'.toNat)
  else if 'a' ≤ c ∧ c ≤ 'f' then some (c.toNat - 'a'.toNat + 10)
  else if 'A' ≤ c ∧ c ≤ 'F' then some (c.toNat - 'A'.toNat + 10)
  else none

/-- The unit named by four hexadecimal digits. -/
def unit? (a b c d : Char) : Option Nat :=
  match hexValue? a, hexValue? b, hexValue? c, hexValue? d with
  | some a, some b, some c, some d => some (((a * 16 + b) * 16 + c) * 16 + d)
  | _, _, _, _ => none

/-- The character that a backslash and a letter stand for. -/
def letterEscape? : Char → Option Char
  | '"' => some '"'
  | '\\' => some '\\'
  | '/' => some '/'
  | 'b' => some '\x08'
  | 'f' => some '\x0c'
  | 'n' => some '\n'
  | 'r' => some '\r'
  | 't' => some '\t'
  | _ => none

/-- The pieces up to the closing quote, and the text after it. -/
def readPieces : List Char → Option (List Piece × List Char)
  | [] => none
  | '"' :: rest => some ([], rest)
  | '\\' :: 'u' :: a :: b :: c :: d :: rest =>
    match unit? a b c d, readPieces rest with
    | some n, some (pieces, rest) => some (.unit n :: pieces, rest)
    | _, _ => none
  | '\\' :: e :: rest =>
    match letterEscape? e, readPieces rest with
    | some c, some (pieces, rest) => some (.char c :: pieces, rest)
    | _, _ => none
  | c :: rest =>
    if c = '\\' ∨ c.toNat < 32 then none
    else match readPieces rest with
      | some (pieces, rest) => some (.char c :: pieces, rest)
      | none => none

def isHighUnit (n : Nat) : Bool := decide (0xd800 ≤ n) && decide (n < 0xdc00)

def isLowUnit (n : Nat) : Bool := decide (0xdc00 ≤ n) && decide (n < 0xe000)

/-- The characters of a string; a high unit needs a low unit right after it. -/
def joinPieces : List Piece → Option (List Char)
  | [] => some []
  | .char c :: rest => (joinPieces rest).map (c :: ·)
  | .unit h :: .unit l :: rest =>
    if isHighUnit h then
      if isLowUnit l then
        (joinPieces rest).map
          (Char.ofNat (0x10000 + (h - 0xd800) * 0x400 + (l - 0xdc00)) :: ·)
      else none
    else if isLowUnit h then none
    else (joinPieces (.unit l :: rest)).map (Char.ofNat h :: ·)
  | .unit h :: rest =>
    if isHighUnit h || isLowUnit h then none else (joinPieces rest).map (Char.ofNat h :: ·)

/-- A string after its opening quote. -/
def readString (s : List Char) : Option (Option String × List Char) :=
  match readPieces s with
  | some (pieces, rest) => some ((joinPieces pieces).map String.ofList, rest)
  | none => none

/-! ### Numbers -/

def digitsOf (s : List Char) : List Char := s.takeWhile Char.isDigit

def afterDigits (s : List Char) : List Char := s.dropWhile Char.isDigit

/-- The digits before the point: a lone zero, or no leading zero. -/
def readWhole (s : List Char) : Option (List Char × List Char) :=
  match s with
  | '0' :: rest => if (digitsOf rest).isEmpty then some (['0'], rest) else none
  | _ => if (digitsOf s).isEmpty then none else some (digitsOf s, afterDigits s)

def readFraction (s : List Char) : Option (Option (List Char) × List Char) :=
  match s with
  | '.' :: rest =>
    if (digitsOf rest).isEmpty then none else some (some (digitsOf rest), afterDigits rest)
  | _ => some (none, s)

/-- An exponent's sign, true for minus, and what follows it. -/
def readSign (s : List Char) : Bool × List Char :=
  match s with
  | '-' :: rest => (true, rest)
  | '+' :: rest => (false, rest)
  | _ => (false, s)

def readExponent (s : List Char) : Option (Option (Bool × List Char) × List Char) :=
  match s with
  | c :: rest =>
    if c = 'e' ∨ c = 'E' then
      let (negative, rest) := readSign rest
      if (digitsOf rest).isEmpty then none
      else some (some (negative, digitsOf rest), afterDigits rest)
    else some (none, s)
  | [] => some (none, s)

def readUnsigned (negative : Bool) (s : List Char) : Option (Json.Numeral × List Char) := do
  let (whole, s) ← readWhole s
  let (fraction, s) ← readFraction s
  let (exponent, s) ← readExponent s
  some (⟨negative, whole, fraction, exponent⟩, s)

def readNumber (s : List Char) : Option (Json.Numeral × List Char) :=
  match s with
  | '-' :: rest => readUnsigned true rest
  | _ => readUnsigned false s

/-! ### Values -/

mutual
/-- A value and the text after it, within a bound on the number of steps. -/
def readValue : Nat → List Char → Option (Json.Tree × List Char)
  | 0, _ => none
  | fuel + 1, s =>
    match skipSpace s with
    | 'n' :: 'u' :: 'l' :: 'l' :: rest => some (.null, rest)
    | 't' :: 'r' :: 'u' :: 'e' :: rest => some (.bool true, rest)
    | 'f' :: 'a' :: 'l' :: 's' :: 'e' :: rest => some (.bool false, rest)
    | '"' :: rest =>
      match readString rest with
      | some (text, rest) => some (.string text, rest)
      | none => none
    | '[' :: rest =>
      match skipSpace rest with
      | ']' :: rest => some (.array [], rest)
      | rest =>
        match readValue fuel rest with
        | none => none
        | some (item, rest) =>
          match readItems fuel rest with
          | none => none
          | some (items, rest) => some (.array (item :: items), rest)
    | '{' :: rest =>
      match skipSpace rest with
      | '}' :: rest => some (.object [], rest)
      | rest =>
        match readMember fuel rest with
        | none => none
        | some (first, rest) =>
          match readMembers fuel rest with
          | none => none
          | some (members, rest) => some (.object (first :: members), rest)
    | rest =>
      match readNumber rest with
      | some (n, rest) => some (.number n, rest)
      | none => none
/-- The items after the first, up to the closing bracket. -/
def readItems : Nat → List Char → Option (List Json.Tree × List Char)
  | 0, _ => none
  | fuel + 1, s =>
    match skipSpace s with
    | ']' :: rest => some ([], rest)
    | ',' :: rest =>
      match readValue fuel rest with
      | none => none
      | some (item, rest) =>
        match readItems fuel rest with
        | none => none
        | some (items, rest) => some (item :: items, rest)
    | _ => none
/-- A key, a colon and a value. -/
def readMember : Nat → List Char → Option ((Option String × Json.Tree) × List Char)
  | 0, _ => none
  | fuel + 1, s =>
    match skipSpace s with
    | '"' :: rest =>
      match readString rest with
      | none => none
      | some (key, rest) =>
        match skipSpace rest with
        | ':' :: rest =>
          match readValue fuel rest with
          | none => none
          | some (value, rest) => some ((key, value), rest)
        | _ => none
    | _ => none
/-- The members after the first, up to the closing brace. -/
def readMembers : Nat → List Char → Option (List (Option String × Json.Tree) × List Char)
  | 0, _ => none
  | fuel + 1, s =>
    match skipSpace s with
    | '}' :: rest => some ([], rest)
    | ',' :: rest =>
      match readMember fuel rest with
      | none => none
      | some (member, rest) =>
        match readMembers fuel rest with
        | none => none
        | some (members, rest) => some (member :: members, rest)
    | _ => none
end

/-- The one value of a text, with white space around it. -/
def parse (s : List Char) : Option Json.Tree :=
  match readValue (2 * s.length + 2) s with
  | some (t, rest) => if (skipSpace rest).isEmpty then some t else none
  | none => none

end Json.Tree

end LeasePool
