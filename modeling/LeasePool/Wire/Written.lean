import LeasePool.Wire.Encode

/-!
The text that is sent. The members of a structure stand in the order in which it declares them, and
a response begins with its type; metadata stays in the order of its keys.
-/
namespace LeasePool

def Resource.members (r : Resource) : List (String × Json) :=
  [("id", .string r.id), ("index", .ofNat r.index), ("metadata", .object r.metadata),
    ("acquired_at", .ofOption Timestamp.toJson r.acquiredAt)]

def Resource.written (r : Resource) : Json := .object r.members

/-- The members of a response, with a form for its resource. -/
def Response.members (form : Resource → Json) : Response → List (String × Json)
  | .acquired channel lease resource =>
    [("type", .string "acquired"), ("release_channel", .string channel),
      ("lease_id", .ofNat lease), ("record", form resource)]
  | .cancelled => [("type", .string "cancelled")]

def Response.written (r : Response) : Json := .object (r.members Resource.written)

def PoolStatus.members (s : PoolStatus) : List (String × Json) :=
  [("resource_id", .string s.resource), ("total_resources", .ofNat s.total),
    ("available_count", .ofNat s.available), ("waiting_count", .ofNat s.waiting),
    ("allocated_count", .ofNat s.allocated)]

def PoolStatus.written (s : PoolStatus) : Json := .object s.members

def SlotView.members (s : SlotView) : List (String × Json) :=
  [("id", .string s.id), ("index", .ofNat s.index), ("available", .bool s.available),
    ("retired", .bool s.retired), ("metadata", .object s.metadata),
    ("assigned_to", .ofOption .string s.assignedTo),
    ("acquired_at", .ofOption Timestamp.toJson s.acquiredAt)]

def SlotView.written (s : SlotView) : Json := .object s.members

def WaitingView.members (w : WaitingView) : List (String × Json) :=
  [("requester_id", .string w.requester), ("priority", .int w.priority),
    ("position", .ofNat w.position)]

def WaitingView.written (w : WaitingView) : Json := .object w.members

/-- The members of an allocation, with forms for its slots and for the waiting list. -/
def Allocation.members (slotForm : SlotView → Json) (waitingForm : WaitingView → Json)
    (a : Allocation) : List (String × Json) :=
  [("resource_id", .string a.resource), ("slots", .array (a.slots.map slotForm)),
    ("waiting", .array (a.waiting.map waitingForm))]

def Allocation.written (a : Allocation) : Json :=
  .object (a.members SlotView.written WaitingView.written)

end LeasePool
