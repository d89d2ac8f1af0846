import LeasePool.Json.Binary64

/-!
JSON values. The members of an object are kept in the order of their keys, each key once, so that
two objects with the same members are equal.
-/
namespace LeasePool

inductive Json where
  | null
  | bool (b : Bool)
  | int (n : Int)
  | float (x : Binary64)
  | string (s : String)
  | array (items : List Json)
  | object (members : List (String × Json))
deriving Repr, Inhabited, BEq

/-- Named values in the order of their names. -/
abbrev Fields := List (String × Json)

namespace Fields

def get? (key : String) : Fields → Option Json
  | [] => none
  | (k, v) :: rest => if k = key then some v else get? key rest

/-- Adds a value under a key, replacing the one that was there. -/
def insert (key : String) (value : Json) : Fields → Fields
  | [] => [(key, value)]
  | (k, v) :: rest =>
    if key = k then (key, value) :: rest
    else if key < k then (key, value) :: (k, v) :: rest
    else (k, v) :: insert key value rest

/-- The fields of `overlay` on top of `base`. -/
def merge (base overlay : Fields) : Fields :=
  overlay.foldl (fun fields m => fields.insert m.1 m.2) base

def ofList (members : List (String × Json)) : Fields := merge [] members

/-- Keys in strictly increasing order. -/
def Sorted (fields : Fields) : Prop := fields.Pairwise fun a b => a.1 < b.1

theorem get?_insert (key other : String) (value : Json) (fields : Fields) :
    get? other (insert key value fields) =
      if key = other then some value else get? other fields := by
  induction fields with
  | nil => simp [insert, get?]
  | cons head rest ih =>
    obtain ⟨k, v⟩ := head
    by_cases hk : key = k
    · subst hk
      by_cases ho : key = other <;> simp [insert, get?, ho]
    · by_cases hlt : key < k
      · simp [insert, get?, hk, hlt]
      · by_cases ho : k = other
        · subst ho
          simp [insert, get?, hk, hlt]
        · simp [insert, get?, hk, hlt, ho, ih]

end Fields

namespace Json

/-- An object from members in any order; of equal keys the last one counts. -/
def ofMembers (members : List (String × Json)) : Json := .object (Fields.ofList members)

def ofNat (n : Nat) : Json := .int n

def ofOption (f : α → Json) : Option α → Json
  | some a => f a
  | none => .null

def get? (key : String) : Json → Option Json
  | .object members => Fields.get? key members
  | _ => none

def asBool? : Json → Option Bool
  | .bool b => some b
  | _ => none

def asString? : Json → Option String
  | .string s => some s
  | _ => none

def asNat? : Json → Option Nat
  | .int n => if 0 ≤ n then some n.toNat else none
  | _ => none

def asInt? : Json → Option Int
  | .int n => some n
  | _ => none

def asArray? : Json → Option (List Json)
  | .array items => some items
  | _ => none

def asObject? : Json → Option Fields
  | .object members => some members
  | _ => none

end Json

end LeasePool
