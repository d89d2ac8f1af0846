import LeasePool.Json.Value

/-!
Compact JSON text. Strings escape the quote, the backslash and the control characters, by a letter
where there is one, and write every other character as it is.
-/
namespace LeasePool.Json

/-- The hexadecimal digit of a number below 16. -/
def hexDigit (n : Nat) : Char := Nat.digitChar n

/-- One character of a string. -/
def escape (c : Char) : List Char :=
  if c = '"' then ['\\', '"']
  else if c = '\\' then ['\\', '\\']
  else if c = '\n' then ['\\', 'n']
  else if c = '\r' then ['\\', 'r']
  else if c = '\t' then ['\\', 't']
  else if c = '\x08' then ['\\', 'b']
  else if c = '\x0c' then ['\\', 'f']
  else if c.toNat < 32 then
    ['\\', 'u', '0', '0', hexDigit (c.toNat / 16), hexDigit (c.toNat % 16)]
  else [c]

def escapeAll : List Char → List Char
  | [] => []
  | c :: rest => escape c ++ escapeAll rest

def writeString (s : String) : List Char := '"' :: (escapeAll s.toList ++ ['"'])

def writeInt (n : Int) : List Char :=
  if n < 0 then '-' :: n.natAbs.repr.toList else n.natAbs.repr.toList

mutual
/-- The text of a value. -/
def write : Json → List Char
  | .null => ['n', 'u', 'l', 'l']
  | .bool true => ['t', 'r', 'u', 'e']
  | .bool false => ['f', 'a', 'l', 's', 'e']
  | .int n => writeInt n
  | .float x => x.text.toList
  | .string s => writeString s
  | .array [] => ['[', ']']
  | .array (item :: items) => '[' :: (write item ++ writeItems items)
  | .object [] => ['{', '}']
  | .object ((key, value) :: members) =>
    '{' :: (writeString key ++ ':' :: (write value ++ writeMembers members))
/-- The items after the first, and the closing bracket. -/
def writeItems : List Json → List Char
  | [] => [']']
  | item :: items => ',' :: (write item ++ writeItems items)
/-- The members after the first, and the closing brace. -/
def writeMembers : List (String × Json) → List Char
  | [] => ['}']
  | (key, value) :: members =>
    ',' :: (writeString key ++ ':' :: (write value ++ writeMembers members))
end

def render (v : Json) : String := String.ofList (write v)

end LeasePool.Json
