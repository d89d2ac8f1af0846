import LeasePool.Config.Cursor

/-!
Configuration files as section headings and entries in the order of the text. The first section of
a name counts, and in it the first entry of a key.
-/
namespace LeasePool.Config

open Text

inductive Item where
  | heading (name : String)
  | entry (key value : String)
deriving DecidableEq, Repr

abbrev Document := List Item

namespace Document

/-- The entries of the first section with a name. -/
def section? (name : String) : Document → Option (List (String × String))
  | [] => none
  | .heading n :: rest => if n = name then some (entries rest) else section? name rest
  | .entry _ _ :: rest => section? name rest
where
  /-- The entries up to the next heading. -/
  entries : Document → List (String × String)
    | .entry key value :: rest => (key, value) :: entries rest
    | _ => []

/-- The value of a key in a section. -/
def value? (doc : Document) (name key : String) : Option String :=
  match doc.section? name with
  | some entries => (entries.find? fun e => e.1 == key).map Prod.snd
  | none => none

/-! ### Scanning -/

def isGap (c : Char) : Bool := c = ' ' || c = '\t'

def isLineEnd (c : Char) : Bool := c = '\n' || c = '\r'

/-- Skips white space after a key, a value or a heading, but stops at a line that begins with
some. -/
def skipLayoutWithin : Nat → Cursor → Cursor
  | 0, c => c
  | n + 1, c =>
    match c.text with
    | [] => c
    | a :: _ =>
      if isLineEnd a then
        if c.next.here?.any isGap then c.next else skipLayoutWithin n c.next
      else if isBlank a then skipLayoutWithin n c.next
      else c

def skipLayout (c : Cursor) : Cursor := skipLayoutWithin c.text.length c

/-- Skips a comment with its line end. -/
def skipComment (c : Cursor) : Cursor := (c.skip (· ≠ '\n')).next

/-- Reads a heading from its opening bracket to past the closing one. -/
def readHeading (c : Cursor) : Except Failure (String × Cursor) :=
  match readUntil .bracket c.next with
  | .ok (name, c) => .ok (String.ofList (trim name), c.next)
  | .error f => .error f

/-- Reads the parts of a value: quoted ones, and a last one up to the line end, trimmed on the left
only when it comes first. -/
def readParts : Nat → Bool → Cursor → Except Failure (List Char × Cursor)
  | 0, _, c => .ok ([], c)
  | n + 1, first, c =>
    let quoted (kind : Ending) : Except Failure (List Char × Cursor) :=
      match readUntil kind c.next with
      | .error f => .error f
      | .ok (part, c) =>
        match readParts n false c.next with
        | .error f => .error f
        | .ok (more, c) => .ok (part ++ more, c)
    match c.here? with
    | none => .ok ([], c)
    | some '"' => quoted .doubleQuote
    | some '\'' => quoted .singleQuote
    | some _ =>
      match readUntil .line c with
      | .error f => .error f
      | .ok (part, c) => .ok (if first then trim part else trimEnd part, c)

/-- Reads a value from its separator on. -/
def readValue (c : Cursor) : Except Failure (String × Cursor) :=
  let c := c.next.skip fun a => isBlank a && !isLineEnd a
  match readParts (c.text.length + 1) true c with
  | .ok (value, c) => .ok (String.ofList value, c)
  | .error f => .error f

/-- Reads a key up to its separator. -/
def readKey (c : Cursor) : Except Failure (String × Cursor) :=
  match readUntil .separator c with
  | .ok (key, c) => .ok (String.ofList (trim key), c)
  | .error f => .error f

/-- What one round of scanning found: the items to add, the key that waits for its value, and where
to go on. -/
structure Round where
  items : List Item
  key : String
  cursor : Cursor

/-- A round on a heading. -/
def headingRound (key : String) (c : Cursor) : Except Failure Round :=
  match readHeading c with
  | .ok (name, c) => .ok ⟨[.heading name], key, skipLayout c⟩
  | .error f => .error f

/-- One round on a character: a comment, a heading, a value for the waiting key, a line end, or a
key. A key in an indented line that has no separator is dropped. -/
def round (key : String) (c : Cursor) (a : Char) : Except Failure Round :=
  if a = ';' ∨ a = '#' then
    if 1 < c.column then .error ⟨c, .inlineComment⟩
    else .ok ⟨[], key, skipLayout (skipComment c)⟩
  else if a = '[' then headingRound key c
  else if a = '=' ∨ a = ':' then
    if key = "" then .error ⟨c, .missingKey⟩
    else match readValue c with
      | .ok (value, c) => .ok ⟨[.entry key value], "", skipLayout c⟩
      | .error f => .error f
  else if isGap a then
    let c := c.skip isGap
    match c.here? with
    | some '[' => headingRound key c
    | some '\n' => .ok ⟨[], key, c.next⟩
    | some '\r' => .ok ⟨[], key, c.next⟩
    | _ =>
      match readKey c with
      | .ok (key, c) => .ok ⟨[], key, skipLayout c⟩
      | .error f => .ok ⟨[], key, skipLayout f.at_⟩
  else if isLineEnd a then .ok ⟨[], key, skipLayout c.next⟩
  else match readKey c with
    | .ok (key, c) => .ok ⟨[], key, skipLayout c⟩
    | .error f => .error f

/-- Rounds to the end of the text, at most so many. -/
def rounds : Nat → String → Cursor → Except Failure Document
  | 0, _, _ => .ok []
  | n + 1, key, c =>
    match c.here? with
    | none => .ok []
    | some a =>
      match round key c a with
      | .error f => .error f
      | .ok r =>
        match rounds n r.key r.cursor with
        | .ok items => .ok (r.items ++ items)
        | .error f => .error f

/-- The document that a text holds. Every round moves on. -/
def scan (text : List Char) : Except Failure Document :=
  rounds (text.length + 1) "" (.start text)

end Document

end LeasePool.Config
