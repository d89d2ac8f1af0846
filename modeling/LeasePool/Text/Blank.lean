import LeasePool.Text.CharSet

/-!
White space and trimming. A character is blank when it has the Unicode property White_Space;
trimming removes the blanks at both ends of a text and nothing else.
-/
namespace LeasePool.Text

/-- The characters with the property White_Space. -/
def blanks : CharSet :=
  ⟨[(0x9, 0xd), (0x20, 0x20), (0x85, 0x85), (0xa0, 0xa0), (0x1680, 0x1680), (0x2000, 0x200a),
    (0x2028, 0x2029), (0x202f, 0x202f), (0x205f, 0x205f), (0x3000, 0x3000)]⟩

def isBlank (c : Char) : Bool := blanks.contains c

def trimStart (s : List Char) : List Char := s.dropWhile isBlank

def trimEnd (s : List Char) : List Char := (s.reverse.dropWhile isBlank).reverse

def trim (s : List Char) : List Char := trimEnd (trimStart s)

/-- The text without its surrounding blanks. -/
def trimmed (s : String) : String := String.ofList (trim s.toList)

@[simp] theorem toList_trimmed (s : String) : (trimmed s).toList = trim s.toList := by
  simp [trimmed]

@[simp] theorem trim_nil : trim [] = [] := rfl

/-- The trimmed text without its blanks, when there is anything left. -/
def nonBlank? (s : String) : Option String :=
  let t := trimmed s
  if t.isEmpty then none else some t

end LeasePool.Text
