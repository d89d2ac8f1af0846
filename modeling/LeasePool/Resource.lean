import LeasePool.Json.Value
import LeasePool.Timestamp

/-!
Resources and the slots that hold them. A resource has an id, its position in the pool and free-form
metadata; a slot says whether its resource is available, allocated, or retired, that is out of
service until the pool is idle.
-/
namespace LeasePool

/-! ### Metadata keys -/

namespace MetaKey

def poolIndex : String := "pool_index"

def expanded : String := "expanded"

def expandedAt : String := "expanded_at"

def createdAt : String := "created_at"

def createdBy : String := "created_by"

def purpose : String := "purpose"

end MetaKey

/-- One allocatable unit of a pool. -/
structure Resource where
  id : String
  index : Nat
  metadata : Fields
  acquiredAt : Option Timestamp
deriving Repr, Inhabited

namespace Resource

/-- An unacquired resource that knows its index. -/
def fresh (id : String) (index : Nat) : Resource :=
  ⟨id, index, [(MetaKey.poolIndex, .ofNat index)], none⟩

def withMetadata (r : Resource) (overlay : Fields) : Resource :=
  { r with metadata := r.metadata.merge overlay }

def withField (r : Resource) (key : String) (value : Json) : Resource :=
  { r with metadata := r.metadata.insert key value }

/-- Whether the metadata flag the resource as made by an expansion; only `true` counts. -/
def isExpanded (r : Resource) : Bool :=
  match r.metadata.get? MetaKey.expanded with
  | some (.bool b) => b
  | _ => false

end Resource

inductive SlotStatus where
  | available | allocated | retired
deriving DecidableEq, Repr, Inhabited

namespace SlotStatus

def name : SlotStatus → String
  | available => "available"
  | allocated => "allocated"
  | retired => "retired"

def ofName? : String → Option SlotStatus
  | "available" => some available
  | "allocated" => some allocated
  | "retired" => some retired
  | _ => none

end SlotStatus

/-- A position of a pool. -/
structure Slot where
  resource : Resource
  status : SlotStatus
deriving Repr, Inhabited

namespace Slot

def ofResource (r : Resource) : Slot := ⟨r, .available⟩

def isAvailable (s : Slot) : Bool := s.status == .available

def isRetired (s : Slot) : Bool := s.status == .retired

def withStatus (status : SlotStatus) (s : Slot) : Slot := { s with status }

/-- The slot handed out at an instant. -/
def allocate (now : Timestamp) (s : Slot) : Slot :=
  ⟨{ s.resource with acquiredAt := some now }, .allocated⟩

/-- The slot given back, with the status it goes on with. -/
def giveBack (status : SlotStatus) (s : Slot) : Slot :=
  ⟨{ s.resource with acquiredAt := none }, status⟩

end Slot

/-- The number of available slots. -/
def availableCount (slots : List Slot) : Nat := slots.countP Slot.isAvailable

/-- The number of retired slots. -/
def retiredCount (slots : List Slot) : Nat := slots.countP Slot.isRetired

end LeasePool
