import LeasePool.Text.Blank
import LeasePool.Text.Quoted

/-!
A place in the text of a configuration file, and reading up to an end mark with backslash escapes.
Lines and columns belong to the character at hand; a line end is column 0 of its own line.
-/
namespace LeasePool.Config

open Text

/-- The text from the character at hand on, and that character's line and column. -/
structure Cursor where
  text : List Char
  line : Nat
  column : Nat
deriving DecidableEq, Repr

namespace Cursor

/-- The cursor on the first character of a text that follows a place. At the end of the text the
place stays. -/
def onto (text : List Char) (line column : Nat) : Cursor :=
  match text with
  | [] => ⟨[], line, column⟩
  | c :: _ => if c = '\n' then ⟨text, line + 1, 0⟩ else ⟨text, line, column + 1⟩

def start (text : List Char) : Cursor := onto text 0 0

def here? (c : Cursor) : Option Char := c.text.head?

/-- The cursor on the next character. -/
def next (c : Cursor) : Cursor := onto c.text.tail c.line c.column

/-- Skips the characters that satisfy `p`, at most so many. -/
def skipUpTo (p : Char → Bool) : Nat → Cursor → Cursor
  | 0, c => c
  | n + 1, c =>
    match c.text with
    | [] => c
    | a :: _ => if p a then skipUpTo p n c.next else c

def skip (p : Char → Bool) (c : Cursor) : Cursor := skipUpTo p c.text.length c

end Cursor

/-- What a piece of text may end with. -/
inductive Ending where
  | separator
  | bracket
  | doubleQuote
  | singleQuote
  | line
deriving DecidableEq, Repr

namespace Ending

/-- The marks, where none stands for the end of the text. -/
def marks : Ending → List (Option Char)
  | separator => [some '=', some ':']
  | bracket => [some ']']
  | doubleQuote => [some '"']
  | singleQuote => [some '\'']
  | line => [some '\n', some '\r', none]

end Ending

/-- The diagnostic form of a mark. -/
def describeMark : Option Char → String
  | some c => "Some(" ++ quotedChar c ++ ")"
  | none => "None"

/-- What is wrong with a text. -/
inductive Fault where
  | endOfText (wanted : Ending)
  | lineEndWanted (found : Option Char)
  | unknownCharacter
  | inlineComment
  | missingKey
deriving DecidableEq, Repr

def Fault.message : Fault → String
  | endOfText wanted =>
    "expecting \"[" ++ ", ".intercalate (wanted.marks.map describeMark) ++ "]\" but found EOF."
  | lineEndWanted found =>
    "expecting \"\\\\n\" but found \"" ++ describeMark found ++ "\"."
  | unknownCharacter => "unknown character in \\xHH form"
  | inlineComment => "doesn't support inline comment"
  | missingKey => "missing key"

/-- A fault and where it was met. -/
structure Failure where
  at_ : Cursor
  fault : Fault
deriving DecidableEq, Repr

/-- Lines and columns count from 1 for readers, one further than the cursor's own. -/
def Failure.message (f : Failure) : String :=
  s!"{f.at_.line + 1}:{f.at_.column + 1} {f.fault.message}"

/-! ### Escapes -/

/-- The character that a backslash and a letter stand for. -/
def letterEscape (c : Char) : Char :=
  if c = '0' then '\x00'
  else if c = 'a' then '\x07'
  else if c = 'b' then '\x08'
  else if c = 't' then '\t'
  else if c = 'r' then '\r'
  else if c = 'n' then '\n'
  else c

def hexDigit? (c : Char) : Option Nat :=
  if c.isDigit then some (c.toNat - '0'.toNat)
  else if 'a' ≤ c ∧ c ≤ 'f' then some (c.toNat - 'a'.toNat + 10)
  else if 'A' ≤ c ∧ c ≤ 'F' then some (c.toNat - 'A'.toNat + 10)
  else none

/-- A hexadecimal number, with an optional plus sign. -/
def hexNumber? (code : List Char) : Option Nat :=
  let digits := match code with
    | '+' :: rest => rest
    | _ => code
  if digits.isEmpty then none
  else digits.foldlM (fun n c => (hexDigit? c).map (16 * n + ·)) 0

/-- The character with the code point written in hexadecimal. -/
def codeChar? (code : List Char) : Option Char :=
  match hexNumber? code with
  | some n => if h : n.isValidChar then some (Char.ofNatAux n h) else none
  | none => none

/-- Reads so many characters of a code, each after a step. A backslash must stand before a line
end. -/
def readCode (wanted : Ending) : Nat → Cursor → Except Failure (List Char × Cursor)
  | 0, c => .ok ([], c)
  | n + 1, c =>
    let c := c.next
    match c.here? with
    | none => .error ⟨c, .endOfText wanted⟩
    | some a =>
      let after := if a = '\\' then c.next else c
      if a = '\\' ∧ after.here? ≠ some '\n' then .error ⟨after, .lineEndWanted after.here?⟩
      else match readCode wanted n after with
        | .ok (code, c) => .ok (a :: code, c)
        | .error f => .error f

/-- Reads what follows a backslash; the cursor stays on its last character. -/
def readEscape (wanted : Ending) (c : Cursor) (a : Char) : Except Failure (List Char × Cursor) :=
  if a = '\n' then .ok ([], c)
  else if a = 'x' then
    match readCode wanted 4 c with
    | .error f => .error f
    | .ok (code, c) =>
      match codeChar? code with
      | some a => .ok ([a], c)
      | none => .error ⟨c, .unknownCharacter⟩
  else .ok ([letterEscape a], c)

/-- Reads up to an end mark, in at most so many steps. A backslash at the end of the text stands
for itself. -/
def readUntilWithin (wanted : Ending) : Nat → Cursor → Except Failure (List Char × Cursor)
  | 0, c => .error ⟨c, .endOfText wanted⟩
  | n + 1, c =>
    if c.here? ∈ wanted.marks then .ok ([], c)
    else match c.here? with
      | none => .error ⟨c, .endOfText wanted⟩
      | some '\\' =>
        match c.next.here? with
        | none => (readUntilWithin wanted n c.next).map fun (s, c) => ('\\' :: s, c)
        | some a =>
          match readEscape wanted c.next a with
          | .error f => .error f
          | .ok (s, c) => (readUntilWithin wanted n c.next).map fun (more, c) => (s ++ more, c)
      | some a => (readUntilWithin wanted n c.next).map fun (s, c) => (a :: s, c)

/-- Reads up to an end mark. Every step but the last moves on, and one more is taken at the end. -/
def readUntil (wanted : Ending) (c : Cursor) : Except Failure (List Char × Cursor) :=
  readUntilWithin wanted (c.text.length + 2) c

end LeasePool.Config
