import LeasePool.Json.Text
import LeasePool.Message
import LeasePool.Pool.View

/-!
The JSON form of resources, responses and the two views of a pool. A response is an object with a
`type` among its members; absent options are written as null.
-/
namespace LeasePool

def Timestamp.toJson (t : Timestamp) : Json := .string t.text

def Resource.toJson (r : Resource) : Json :=
  .ofMembers [("id", .string r.id), ("index", .ofNat r.index), ("metadata", .object r.metadata),
    ("acquired_at", .ofOption Timestamp.toJson r.acquiredAt)]

def Response.toJson : Response → Json
  | .acquired channel lease resource =>
    .ofMembers [("type", .string "acquired"), ("release_channel", .string channel),
      ("lease_id", .ofNat lease), ("record", resource.toJson)]
  | .cancelled => .ofMembers [("type", .string "cancelled")]

def PoolStatus.toJson (s : PoolStatus) : Json :=
  .ofMembers [("resource_id", .string s.resource), ("total_resources", .ofNat s.total),
    ("available_count", .ofNat s.available), ("waiting_count", .ofNat s.waiting),
    ("allocated_count", .ofNat s.allocated)]

def SlotView.toJson (s : SlotView) : Json :=
  .ofMembers [("id", .string s.id), ("index", .ofNat s.index), ("available", .bool s.available),
    ("retired", .bool s.retired), ("metadata", .object s.metadata),
    ("assigned_to", .ofOption .string s.assignedTo),
    ("acquired_at", .ofOption Timestamp.toJson s.acquiredAt)]

def WaitingView.toJson (w : WaitingView) : Json :=
  .ofMembers [("requester_id", .string w.requester), ("priority", .int w.priority),
    ("position", .ofNat w.position)]

def Allocation.toJson (a : Allocation) : Json :=
  .ofMembers [("resource_id", .string a.resource), ("slots", .array (a.slots.map SlotView.toJson)),
    ("waiting", .array (a.waiting.map WaitingView.toJson))]

def SlotStatus.toJson (s : SlotStatus) : Json := .string s.name

def ReleaseReason.toJson (r : ReleaseReason) : Json := .string r.name

end LeasePool
