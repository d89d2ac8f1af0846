import LeasePool.Proofs.Instants
import LeasePool.Proofs.Meaning
import LeasePool.Wire.Written

/-!
What is sent arrives. The text of a resource, a response or a view of a pool is read as the same
value, when its numbers and instants have a form that JSON carries and its metadata does not nest
too deep. Reading looks members up by their names, so neither their order nor the names that
metadata uses matter.
-/
namespace LeasePool

open Json Json.Tree Text

/-! ### What can be sent -/

/-- The metadata nests at most `room` deep and its integers have 64 bits. -/
structure Fields.Sendable (room : Nat) (fields : Fields) : Prop where
  shape : Json.fits room (.object fields) = true
  ordered : Json.isOrdered (.object fields) = true

structure Resource.Sendable (room : Nat) (r : Resource) : Prop where
  index : r.index ≤ wordMax
  metadata : r.metadata.Sendable (room - 1)
  acquiredAt : ∀ t ∈ r.acquiredAt, t.Common

/-- The resource of a response stands one level below it. -/
def Response.Sendable : Response → Prop
  | .acquired _ lease resource => lease ≤ wordMax ∧ resource.Sendable (nestingLimit - 1)
  | .cancelled => True

structure PoolStatus.Sendable (s : PoolStatus) : Prop where
  total : s.total ≤ wordMax
  available : s.available ≤ wordMax
  waiting : s.waiting ≤ wordMax
  allocated : s.allocated ≤ wordMax

structure SlotView.Sendable (room : Nat) (s : SlotView) : Prop where
  index : s.index ≤ wordMax
  metadata : s.metadata.Sendable (room - 1)
  acquiredAt : ∀ t ∈ s.acquiredAt, t.Common

structure WaitingView.Sendable (w : WaitingView) : Prop where
  low : -(Int.pow 2 31) ≤ w.priority
  high : w.priority ≤ Int.pow 2 31 - 1
  position : w.position ≤ wordMax

/-- The slots stand two levels below an allocation. -/
structure Allocation.Sendable (a : Allocation) : Prop where
  slots : ∀ s ∈ a.slots, s.Sendable (nestingLimit - 2)
  waiting : ∀ w ∈ a.waiting, w.Sendable

theorem Resource.Sendable.mono {r : Resource} {room room' : Nat} (h : r.Sendable room)
    (hle : room ≤ room') : r.Sendable room' :=
  ⟨h.index, ⟨fits_mono (by omega) _ h.metadata.shape, h.metadata.ordered⟩, h.acquiredAt⟩

/-! ### Parts of structures -/

namespace Json.Tree

theorem text?_ofJson (s : String) : (ofJson (.string s)).text? = some s := rfl

theorem bool?_ofJson (b : Bool) : (ofJson (.bool b)).bool? = some b := rfl

theorem word?_ofJson {n : Nat} (h : n ≤ wordMax) : (ofJson (.ofNat n)).word? = some n := by
  have hdigits : (Numeral.ofInt n).whole = n.repr.toList := rfl
  have hsign : (Numeral.ofInt n).negative = false := by
    rw [Numeral.ofInt, decide_eq_false_iff_not]
    omega
  show (Numeral.ofInt n).word? = some n
  rw [Numeral.word?, hsign, hdigits, word?_repr h]
  rfl

/-- A priority has 32 bits and so fits in a word. -/
theorem priority_bounds {p : Int} (hlow : -(Int.pow 2 31) ≤ p) (hhigh : p ≤ Int.pow 2 31 - 1) :
    -(Nat.pow 2 63 : Int) ≤ p ∧ p ≤ wordMax := by
  have hpow : Int.pow 2 31 = 2147483648 := rfl
  have hword : Nat.pow 2 63 = 9223372036854775808 := rfl
  have hmax : wordMax = 18446744073709551615 := rfl
  omega

theorem priority?_ofJson {p : Int} (hlow : -(Int.pow 2 31) ≤ p) (hhigh : p ≤ Int.pow 2 31 - 1) :
    (ofJson (.int p)).priority? = some p := by
  obtain ⟨hleast, hmost⟩ := priority_bounds hlow hhigh
  have hvalue : (Numeral.ofInt p).value? = some (.int p) := value?_ofInt hleast hmost
  have hwhole : ¬ ((Numeral.ofInt p).fraction.isSome ∨ (Numeral.ofInt p).exponent.isSome) := by
    simp [Numeral.ofInt]
  show (Numeral.ofInt p).int? (-(Int.pow 2 31)) (Int.pow 2 31 - 1) = some p
  rw [Numeral.int?, if_neg hwhole, hvalue]
  exact if_pos ⟨hlow, hhigh⟩

theorem timestamp?_ofJson {t : Timestamp} (h : t.Common) :
    (ofJson t.toJson).timestamp? = some t := by
  rw [timestamp?, Timestamp.toJson, text?_ofJson, Option.bind_some, Timestamp.parse?_text h]

/-- An option of something that is written as a string. -/
theorem option?_ofJson {read : Tree → Option α} (text : α → String) {x : Option α}
    (h : ∀ a ∈ x, read (ofJson (.string (text a))) = some a) :
    option? read (some (ofJson (.ofOption (fun a => .string (text a)) x))) = some x := by
  cases x with
  | none => rfl
  | some a =>
    show (read (ofJson (.string (text a)))).map some = some (some a)
    rw [h a rfl, Option.map_some]

theorem acquiredAt?_ofJson {x : Option Timestamp} (h : ∀ t ∈ x, t.Common) :
    option? timestamp? (some (ofJson (.ofOption Timestamp.toJson x))) = some x :=
  option?_ofJson Timestamp.text fun t ht => timestamp?_ofJson (h t ht)

theorem assignedTo?_ofJson (x : Option String) :
    option? text? (some (ofJson (.ofOption .string x))) = some x :=
  option?_ofJson (fun text => text) fun text _ => text?_ofJson text

theorem metadata?_ofJson {room : Nat} {fields : Fields} (h : fields.Sendable room) :
    (ofJson (.object fields)).metadata? room = some fields := by
  show ((ofJson (.object fields)).value? room).bind asObject? = some fields
  rw [value?_ofJson room _ h.shape, ordered_eq_self _ h.ordered]
  rfl

theorem list?_ofJson {read : Tree → Option α} {view : α → Json} {xs : List α}
    (h : ∀ x ∈ xs, read (ofJson (view x)) = some x) :
    (ofJson (.array (xs.map view))).list? read = some xs := by
  rw [ofJson, itemTrees_eq_map, list?, List.map_map]
  induction xs with
  | nil => rfl
  | cons x xs ih =>
    have hx : read ((ofJson ∘ view) x) = some x := h x List.mem_cons_self
    rw [List.map_cons, List.mapM_cons, hx, ih fun y hy => h y (List.mem_cons_of_mem x hy)]
    rfl

end Json.Tree

namespace Json

theorem fits_ofNat {room n : Nat} (h : n ≤ wordMax) : fits room (.ofNat n) = true := by
  simp only [ofNat, fits, Bool.and_eq_true, decide_eq_true_eq]
  omega

theorem fits_ofOption {room : Nat} (text : α → String) (x : Option α) :
    fits room (.ofOption (fun a => .string (text a)) x) = true := by
  cases x <;> rfl

/-- The text of a value is read by what its tree is read as. -/
theorem decode?_render {read : Tree → Option α} {v : Json} {a : α}
    (hfits : fits nestingLimit v = true) (hread : read (ofJson v) = some a) :
    decode? read (render v) = some a := by
  rw [decode?, render, String.toList_ofList, parse_write hfits, Option.bind_some, hread]

end Json

/-! ### Structures

Each is read from any object with its members, in whatever order they stand. -/

section Structures

variable {v : Json} {room : Nat}

theorem Fields.Sendable.room_pos {fields : Fields} (h : fields.Sendable room) : 0 < room := by
  have hshape := h.shape
  rw [fits, Bool.and_eq_true, decide_eq_true_eq] at hshape
  exact hshape.1

theorem Resource.fits_of_lists {r : Resource} (hv : v.Lists r.members) (h : r.Sendable room) :
    fits room v = true := by
  have hroom := h.metadata.room_pos
  apply hv.fits_of_members (by omega)
  simp only [members, List.forall_mem_cons]
  exact ⟨rfl, fits_ofNat h.index, h.metadata.shape, fits_ofOption Timestamp.text _, nofun⟩

theorem Resource.resource?_of_lists {r : Resource} (hv : v.Lists r.members)
    (h : r.Sendable room) : (ofJson v).resource? room = some r := by
  have hfields := hv.fields?_eq (by simp [members])
  simp only [members, List.map_cons, List.map_nil] at hfields
  simp only [resource?, hfields, text?_ofJson, word?_ofJson h.index, metadata?_ofJson h.metadata,
    acquiredAt?_ofJson h.acquiredAt, bind, Option.bind]

theorem SlotView.fits_of_lists {s : SlotView} (hv : v.Lists s.members) (h : s.Sendable room) :
    fits room v = true := by
  have hroom := h.metadata.room_pos
  apply hv.fits_of_members (by omega)
  simp only [members, List.forall_mem_cons]
  exact ⟨rfl, fits_ofNat h.index, rfl, rfl, h.metadata.shape, fits_ofOption (fun text => text) _,
    fits_ofOption Timestamp.text _, nofun⟩

theorem SlotView.slot?_of_lists {s : SlotView} (hv : v.Lists s.members) (h : s.Sendable room) :
    (ofJson v).slot? room = some s := by
  have hfields := hv.fields?_eq (by simp [members])
  simp only [members, List.map_cons, List.map_nil] at hfields
  simp only [slot?, hfields, text?_ofJson, word?_ofJson h.index, bool?_ofJson,
    metadata?_ofJson h.metadata, assignedTo?_ofJson, acquiredAt?_ofJson h.acquiredAt, bind,
    Option.bind]

theorem PoolStatus.fits_of_lists {s : PoolStatus} (hv : v.Lists s.members) (h : s.Sendable)
    (hroom : 0 < room) : fits room v = true := by
  apply hv.fits_of_members hroom
  simp only [members, List.forall_mem_cons]
  exact ⟨rfl, fits_ofNat h.total, fits_ofNat h.available, fits_ofNat h.waiting,
    fits_ofNat h.allocated, nofun⟩

theorem PoolStatus.status?_of_lists {s : PoolStatus} (hv : v.Lists s.members) (h : s.Sendable) :
    (ofJson v).status? = some s := by
  have hfields := hv.fields?_eq (by simp [members])
  simp only [members, List.map_cons, List.map_nil] at hfields
  simp only [status?, hfields, text?_ofJson, word?_ofJson, h.total, h.available, h.waiting,
    h.allocated, bind, Option.bind]

theorem WaitingView.fits_of_lists {w : WaitingView} (hv : v.Lists w.members) (h : w.Sendable)
    (hroom : 0 < room) : fits room v = true := by
  have hpriority : fits (room - 1) (.int w.priority) = true := by
    simp only [fits, Bool.and_eq_true, decide_eq_true_eq]
    exact priority_bounds h.low h.high
  apply hv.fits_of_members hroom
  simp only [members, List.forall_mem_cons]
  exact ⟨rfl, hpriority, fits_ofNat h.position, nofun⟩

theorem WaitingView.waiting?_of_lists {w : WaitingView} (hv : v.Lists w.members)
    (h : w.Sendable) : (ofJson v).waiting? = some w := by
  have hfields := hv.fields?_eq (by simp [members])
  simp only [members, List.map_cons, List.map_nil] at hfields
  simp only [waiting?, hfields, text?_ofJson, priority?_ofJson h.low h.high,
    word?_ofJson h.position, bind, Option.bind]

end Structures

/-! ### Structures of structures -/

section Nested

variable {v : Json} {slotForm : SlotView → Json} {waitingForm : WaitingView → Json}
  {form : Resource → Json}

theorem Allocation.fits_of_lists {a : Allocation} (hslot : ∀ s, (slotForm s).Lists s.members)
    (hwaiting : ∀ w, (waitingForm w).Lists w.members)
    (hv : v.Lists (a.members slotForm waitingForm)) (h : a.Sendable) :
    fits nestingLimit v = true := by
  have hslots : itemsFit (nestingLimit - 2) (a.slots.map slotForm) = true := by
    apply itemsFit_iff.mpr
    rw [List.forall_mem_map]
    intro s hs
    exact SlotView.fits_of_lists (hslot s) (h.slots s hs)
  have hlist : itemsFit (nestingLimit - 2) (a.waiting.map waitingForm) = true := by
    apply itemsFit_iff.mpr
    rw [List.forall_mem_map]
    intro w hw
    exact WaitingView.fits_of_lists (hwaiting w) (h.waiting w hw) (by decide)
  apply hv.fits_of_members (by decide)
  simp only [members, List.forall_mem_cons]
  exact ⟨rfl, hslots, hlist, nofun⟩

theorem Allocation.allocation?_of_lists {a : Allocation}
    (hslot : ∀ s, (slotForm s).Lists s.members) (hwaiting : ∀ w, (waitingForm w).Lists w.members)
    (hv : v.Lists (a.members slotForm waitingForm)) (h : a.Sendable) :
    (ofJson v).allocation? nestingLimit = some a := by
  have hfields := hv.fields?_eq (by simp [members])
  have hslots : (ofJson (.array (a.slots.map slotForm))).list? (slot? (nestingLimit - 2)) =
      some a.slots :=
    list?_ofJson fun s hs => SlotView.slot?_of_lists (hslot s) (h.slots s hs)
  have hlist : (ofJson (.array (a.waiting.map waitingForm))).list? waiting? = some a.waiting :=
    list?_ofJson fun w hw => WaitingView.waiting?_of_lists (hwaiting w) (h.waiting w hw)
  simp only [members, List.map_cons, List.map_nil] at hfields
  simp only [allocation?, hfields, text?_ofJson, hslots, hlist, bind, Option.bind]

theorem Response.fits_of_lists {r : Response} (hform : ∀ r, (form r).Lists r.members)
    (hv : v.Lists (r.members form)) (h : r.Sendable) : fits nestingLimit v = true := by
  apply hv.fits_of_members (by decide)
  cases r with
  | acquired channel lease resource =>
    have hresource := Resource.fits_of_lists (hform resource) h.2
    simp only [members, List.forall_mem_cons]
    exact ⟨rfl, rfl, fits_ofNat h.1, hresource, nofun⟩
  | cancelled =>
    simp only [members, List.forall_mem_cons]
    exact ⟨rfl, nofun⟩

theorem filter_memberTrees (p : Option String → Bool) (ms : List (String × Json)) :
    (memberTrees ms).filter (fun m => p m.1) =
      memberTrees (ms.filter fun m => p (some m.1)) := by
  rw [memberTrees_eq_map, memberTrees_eq_map, List.filter_map]
  rfl

/-- The type of a response is found wherever it stands, and the rest is read without it. -/
theorem Json.Lists.response?_eq {type : String} {rest : List (String × Json)}
    (hv : v.Lists (("type", .string type) :: rest)) (hrest : "type" ∉ rest.map Prod.fst)
    (hfits : fits nestingLimit v = true) :
    ∃ w : Json, w.Lists rest ∧ (ofJson v).response? = typed? type (ofJson w) := by
  obtain ⟨ms, hperm, rfl⟩ := hv
  have hother : ∀ m ∈ rest, m.1 ≠ "type" := by
    rintro m hm heq
    exact hrest (heq ▸ List.mem_map_of_mem hm)
  have hnone : rest.filter (fun m => some m.1 == some "type") = [] := by
    rw [List.filter_eq_nil_iff]
    intro m hm
    simp [hother m hm]
  have hall : rest.filter (fun m => some m.1 != some "type") = rest := by
    rw [List.filter_eq_self]
    intro m hm
    simp [hother m hm]
  have htype := hperm.filter fun m => some m.1 == some "type"
  have hothers := hperm.filter fun m => some m.1 != some "type"
  rw [List.filter_cons_of_pos (by simp), hnone, List.perm_singleton] at htype
  rw [List.filter_cons_of_neg (by simp), hall] at hothers
  refine ⟨.object (ms.filter fun m => some m.1 != some "type"), ⟨_, hothers, rfl⟩, ?_⟩
  have hrestFits : fits nestingLimit (.object (ms.filter fun m => some m.1 != some "type")) =
      true := by
    apply (lists_object _).fits_of_members (by decide)
    intro m hm
    rw [fits, Bool.and_eq_true] at hfits
    exact membersFit_iff.mp hfits.2 m (List.mem_of_mem_filter hm)
  have hvalue := value?_ofJson nestingLimit _ hrestFits
  have htrees : (memberTrees ms).filter (fun m => m.1 == some "type") =
      [(some "type", ofJson (.string type))] := by
    rw [filter_memberTrees (fun key => key == some "type"), htype]
    rfl
  have hrestTrees : Tree.object ((memberTrees ms).filter fun m => m.1 != some "type") =
      ofJson (.object (ms.filter fun m => some m.1 != some "type")) := by
    rw [filter_memberTrees (fun key => key != some "type")]
    rfl
  rw [ofJson]
  simp only [response?, htrees, hrestTrees, hvalue, text?_ofJson, bind, Option.bind]

theorem Response.response?_of_lists {r : Response} (hform : ∀ r, (form r).Lists r.members)
    (hv : v.Lists (r.members form)) (h : r.Sendable) : (ofJson v).response? = some r := by
  have hfits := fits_of_lists hform hv h
  cases r with
  | acquired channel lease resource =>
    obtain ⟨w, hw, hresponse⟩ := hv.response?_eq (by simp) hfits
    have hfields := hw.fields?_eq (by simp)
    have hresource := Resource.resource?_of_lists (hform resource) (h.2.mono (Nat.sub_le _ 1))
    have htyped : typed? "acquired" (ofJson w) = (ofJson w).acquired? := rfl
    simp only [List.map_cons, List.map_nil] at hfields
    rw [hresponse, htyped]
    simp only [acquired?, hfields, text?_ofJson, word?_ofJson h.1, hresource, bind, Option.bind]
  | cancelled =>
    obtain ⟨w, ⟨ms, hperm, rfl⟩, hresponse⟩ := hv.response?_eq (by simp) hfits
    rw [hresponse, List.perm_nil.mp hperm]
    rfl

end Nested

/-! ### Sent texts -/

theorem Resource.lists_written (r : Resource) : r.written.Lists r.members := lists_object _

theorem Resource.lists_toJson (r : Resource) : r.toJson.Lists r.members :=
  lists_ofMembers (by simp)

theorem PoolStatus.lists_toJson (s : PoolStatus) : s.toJson.Lists s.members :=
  lists_ofMembers (by simp)

theorem SlotView.lists_written (s : SlotView) : s.written.Lists s.members := lists_object _

theorem SlotView.lists_toJson (s : SlotView) : s.toJson.Lists s.members :=
  lists_ofMembers (by simp)

theorem WaitingView.lists_written (w : WaitingView) : w.written.Lists w.members := lists_object _

theorem WaitingView.lists_toJson (w : WaitingView) : w.toJson.Lists w.members :=
  lists_ofMembers (by simp)

theorem Response.lists_toJson (r : Response) : r.toJson.Lists (r.members Resource.toJson) := by
  cases r <;> exact lists_ofMembers (by simp)

theorem Allocation.lists_toJson (a : Allocation) :
    a.toJson.Lists (a.members SlotView.toJson WaitingView.toJson) :=
  lists_ofMembers (by simp)

section Texts

variable {v : Json}

theorem Resource.decode?_render {r : Resource} (hv : v.Lists r.members)
    (h : r.Sendable nestingLimit) : Resource.decode? (render v) = some r :=
  Json.decode?_render (fits_of_lists hv h) (resource?_of_lists hv h)

theorem SlotView.decode?_render {s : SlotView} (hv : v.Lists s.members)
    (h : s.Sendable nestingLimit) : SlotView.decode? (render v) = some s :=
  Json.decode?_render (fits_of_lists hv h) (slot?_of_lists hv h)

theorem PoolStatus.decode?_render {s : PoolStatus} (hv : v.Lists s.members) (h : s.Sendable) :
    PoolStatus.decode? (render v) = some s :=
  Json.decode?_render (fits_of_lists hv h (by decide)) (status?_of_lists hv h)

theorem WaitingView.decode?_render {w : WaitingView} (hv : v.Lists w.members) (h : w.Sendable) :
    WaitingView.decode? (render v) = some w :=
  Json.decode?_render (fits_of_lists hv h (by decide)) (waiting?_of_lists hv h)

theorem Response.decode?_render {r : Response} {form : Resource → Json}
    (hform : ∀ r, (form r).Lists r.members) (hv : v.Lists (r.members form)) (h : r.Sendable) :
    Response.decode? (render v) = some r :=
  Json.decode?_render (fits_of_lists hform hv h) (response?_of_lists hform hv h)

theorem Allocation.decode?_render {a : Allocation} {slotForm : SlotView → Json}
    {waitingForm : WaitingView → Json} (hslot : ∀ s, (slotForm s).Lists s.members)
    (hwaiting : ∀ w, (waitingForm w).Lists w.members)
    (hv : v.Lists (a.members slotForm waitingForm)) (h : a.Sendable) :
    Allocation.decode? (render v) = some a :=
  Json.decode?_render (fits_of_lists hslot hwaiting hv h)
    (allocation?_of_lists hslot hwaiting hv h)

end Texts

theorem ReleaseReason.decode?_render (r : ReleaseReason) :
    ReleaseReason.decode? (render r.toJson) = some r := by
  have hname : LeasePool.decode? name? (render r.toJson) = some r.name :=
    Json.decode?_render rfl rfl
  rw [ReleaseReason.decode?, hname]
  cases r <;> rfl

theorem SlotStatus.decode?_render (s : SlotStatus) :
    SlotStatus.decode? (render s.toJson) = some s := by
  have hname : LeasePool.decode? name? (render s.toJson) = some s.name :=
    Json.decode?_render rfl rfl
  rw [SlotStatus.decode?, hname]
  cases s <;> rfl

/-! ### The value that is sent

Read as any JSON, the text of a structure has the value of the structure. -/

namespace Json

/-- The value of a text that was written is the value with its members in order. -/
theorem parse?_render {v : Json} (h : fits nestingLimit v = true) :
    parse? (render v) = some (ordered v) := by
  simp only [parse?, render, String.toList_ofList, parse_write h, value?_ofJson nestingLimit v h]

theorem isOrdered_ofOption (text : α → String) (x : Option α) :
    isOrdered (.ofOption (fun a => .string (text a)) x) = true := by
  cases x <;> rfl

theorem ordered_object {members : List (String × Json)} (h : areMembersOrdered members = true) :
    ordered (.object members) = .ofMembers members := by
  rw [ordered, orderedMembers_eq_self members h]

theorem orderedItems_map {form form' : α → Json} {xs : List α}
    (h : ∀ x ∈ xs, ordered (form x) = form' x) : orderedItems (xs.map form) = xs.map form' := by
  induction xs with
  | nil => rfl
  | cons x xs ih =>
    rw [List.map_cons, orderedItems, h x List.mem_cons_self,
      ih fun y hy => h y (List.mem_cons_of_mem x hy), List.map_cons]

end Json

theorem Resource.ordered_written {r : Resource} {room : Nat} (h : r.Sendable room) :
    ordered r.written = r.toJson := by
  apply ordered_object
  simp only [members, areMembersOrdered, h.metadata.ordered, Bool.and_eq_true]
  exact ⟨rfl, rfl, trivial, isOrdered_ofOption Timestamp.text _, trivial⟩

theorem SlotView.ordered_written {s : SlotView} {room : Nat} (h : s.Sendable room) :
    ordered s.written = s.toJson := by
  apply ordered_object
  simp only [members, areMembersOrdered, h.metadata.ordered, Bool.and_eq_true]
  exact ⟨rfl, rfl, rfl, rfl, trivial, isOrdered_ofOption (fun text => text) _,
    isOrdered_ofOption Timestamp.text _, trivial⟩

theorem Response.ordered_written {r : Response} (h : r.Sendable) :
    ordered r.written = r.toJson := by
  cases r with
  | acquired channel lease resource =>
    have hresource := Resource.ordered_written h.2
    rw [written, ordered, members, toJson]
    simp only [orderedMembers, hresource]
    rfl
  | cancelled => rfl

theorem Allocation.ordered_written {a : Allocation} (h : a.Sendable) :
    ordered a.written = a.toJson := by
  have hslots := orderedItems_map fun s hs => SlotView.ordered_written (h.slots s hs)
  have hlist : orderedItems (a.waiting.map WaitingView.written) =
      a.waiting.map WaitingView.toJson :=
    orderedItems_map fun _ _ => rfl
  rw [written, ordered, members, toJson]
  simp only [orderedMembers, ordered, hslots, hlist]

theorem Resource.parse?_written {r : Resource} (h : r.Sendable nestingLimit) :
    Json.parse? (render r.written) = some r.toJson := by
  rw [Json.parse?_render (fits_of_lists r.lists_written h), ordered_written h]

theorem SlotView.parse?_written {s : SlotView} (h : s.Sendable nestingLimit) :
    Json.parse? (render s.written) = some s.toJson := by
  rw [Json.parse?_render (fits_of_lists s.lists_written h), ordered_written h]

theorem PoolStatus.parse?_written {s : PoolStatus} (h : s.Sendable) :
    Json.parse? (render s.written) = some s.toJson :=
  Json.parse?_render (fits_of_lists (lists_object _) h (by decide))

theorem WaitingView.parse?_written {w : WaitingView} (h : w.Sendable) :
    Json.parse? (render w.written) = some w.toJson :=
  Json.parse?_render (fits_of_lists w.lists_written h (by decide))

theorem Response.parse?_written {r : Response} (h : r.Sendable) :
    Json.parse? (render r.written) = some r.toJson := by
  have hfits : fits nestingLimit r.written = true :=
    fits_of_lists Resource.lists_written (lists_object _) h
  rw [Json.parse?_render hfits, ordered_written h]

theorem Allocation.parse?_written {a : Allocation} (h : a.Sendable) :
    Json.parse? (render a.written) = some a.toJson := by
  have hfits : fits nestingLimit a.written = true :=
    fits_of_lists SlotView.lists_written WaitingView.lists_written (lists_object _) h
  rw [Json.parse?_render hfits, ordered_written h]

/-! ### The round trip -/

/-- The text of something has its JSON value, and is read back as the thing itself, also when all
members stand in the order of their names. -/
structure ReadBack (decode? : String → Option α) (written value : Json) (x : α) : Prop where
  parsed : Json.parse? (render written) = some value
  sent : decode? (render written) = some x
  sorted : decode? (render value) = some x

theorem Resource.readBack {r : Resource} (h : r.Sendable nestingLimit) :
    ReadBack Resource.decode? r.written r.toJson r where
  parsed := parse?_written h
  sent := decode?_render r.lists_written h
  sorted := decode?_render r.lists_toJson h

theorem SlotView.readBack {s : SlotView} (h : s.Sendable nestingLimit) :
    ReadBack SlotView.decode? s.written s.toJson s where
  parsed := parse?_written h
  sent := decode?_render s.lists_written h
  sorted := decode?_render s.lists_toJson h

theorem PoolStatus.readBack {s : PoolStatus} (h : s.Sendable) :
    ReadBack PoolStatus.decode? s.written s.toJson s where
  parsed := parse?_written h
  sent := decode?_render (lists_object _) h
  sorted := decode?_render s.lists_toJson h

theorem WaitingView.readBack {w : WaitingView} (h : w.Sendable) :
    ReadBack WaitingView.decode? w.written w.toJson w where
  parsed := parse?_written h
  sent := decode?_render w.lists_written h
  sorted := decode?_render w.lists_toJson h

theorem Response.readBack {r : Response} (h : r.Sendable) :
    ReadBack Response.decode? r.written r.toJson r where
  parsed := parse?_written h
  sent := decode?_render Resource.lists_written (lists_object _) h
  sorted := decode?_render Resource.lists_toJson r.lists_toJson h

theorem Allocation.readBack {a : Allocation} (h : a.Sendable) :
    ReadBack Allocation.decode? a.written a.toJson a where
  parsed := parse?_written h
  sent := decode?_render SlotView.lists_written WaitingView.lists_written (lists_object _) h
  sorted := decode?_render SlotView.lists_toJson WaitingView.lists_toJson a.lists_toJson h

/-- Whatever can be sent is read back, and so is every reason and every status. -/
theorem sendable_readBack :
    (∀ r : Response, r.Sendable → ReadBack Response.decode? r.written r.toJson r) ∧
    (∀ r : Resource, r.Sendable nestingLimit →
      ReadBack Resource.decode? r.written r.toJson r) ∧
    (∀ s : PoolStatus, s.Sendable → ReadBack PoolStatus.decode? s.written s.toJson s) ∧
    (∀ a : Allocation, a.Sendable → ReadBack Allocation.decode? a.written a.toJson a) ∧
    (∀ s : SlotView, s.Sendable nestingLimit →
      ReadBack SlotView.decode? s.written s.toJson s) ∧
    (∀ w : WaitingView, w.Sendable → ReadBack WaitingView.decode? w.written w.toJson w) ∧
    (∀ r : ReleaseReason, ReleaseReason.decode? (render r.toJson) = some r) ∧
    ∀ s : SlotStatus, SlotStatus.decode? (render s.toJson) = some s :=
  ⟨fun _ => Response.readBack, fun _ => Resource.readBack, fun _ => PoolStatus.readBack,
    fun _ => Allocation.readBack, fun _ => SlotView.readBack, fun _ => WaitingView.readBack,
    ReleaseReason.decode?_render, SlotStatus.decode?_render⟩

/-- Metadata whose keys are those of a response and of its resource. -/
def markedMetadata : Fields :=
  [("acquired_at", .null), ("lease_id", .int (-9223372036854775808)),
    ("record", .object [("type", .array [.int 18446744073709551615, .array [], .object []])]),
    ("type", .string "cancelled \x01\"\\\n")]

/-- The resource was acquired in the first second of the year 0. -/
def markedResource : Resource :=
  ⟨"\t'gpu'-ü", 18446744073709551615, markedMetadata, some ⟨-62167219200, 120000⟩⟩

def markedResponse : Response := .acquired "c\x7f" 0 markedResource

def markedStatus : PoolStatus := ⟨"gpu", 3, 0, 1, 3⟩

def markedSlot : SlotView :=
  ⟨"gpu-0", 0, false, true, markedMetadata, some "a,b]", some ⟨253402300799, 999999999⟩⟩

def markedWaiting : WaitingView := ⟨"c", -2147483648, 0⟩

def markedAllocation : Allocation :=
  ⟨"gpu", [markedSlot, ⟨"", 1, true, false, [], none, none⟩], [markedWaiting]⟩

theorem markedMetadata_sendable {room : Nat} (h : 4 ≤ room) : markedMetadata.Sendable room :=
  ⟨fits_mono h _ (by decide), by decide +kernel⟩

theorem sendable_readBack_marked :
    (markedResponse.Sendable ∧
      Response.decode? (render markedResponse.written) = some markedResponse) ∧
    (markedResource.Sendable nestingLimit ∧
      Resource.decode? (render markedResource.written) = some markedResource) ∧
    (markedStatus.Sendable ∧
      PoolStatus.decode? (render markedStatus.written) = some markedStatus) ∧
    (markedAllocation.Sendable ∧
      Allocation.decode? (render markedAllocation.written) = some markedAllocation) ∧
    (markedSlot.Sendable nestingLimit ∧
      SlotView.decode? (render markedSlot.written) = some markedSlot) ∧
    (markedWaiting.Sendable ∧
      WaitingView.decode? (render markedWaiting.written) = some markedWaiting) := by
  have hresource : ∀ room, 5 ≤ room → markedResource.Sendable room := by
    intro room hroom
    exact ⟨by decide, markedMetadata_sendable (by omega), by rintro t ⟨⟩; decide⟩
  have hslot : ∀ room, 5 ≤ room → markedSlot.Sendable room := by
    intro room hroom
    exact ⟨by decide, markedMetadata_sendable (by omega), by rintro t ⟨⟩; decide⟩
  have hresponse : markedResponse.Sendable := ⟨by decide, hresource _ (by decide)⟩
  have hresource := hresource nestingLimit (by decide)
  have hstatus : markedStatus.Sendable := by
    constructor <;> decide
  have hwaiting : markedWaiting.Sendable := by
    constructor <;> decide
  have hallocation : markedAllocation.Sendable := by
    constructor
    · intro s hs
      rcases List.mem_pair.mp hs with rfl | rfl
      · exact hslot _ (by decide)
      · exact ⟨by decide, ⟨by decide, by decide⟩, nofun⟩
    · intro w hw
      rw [List.mem_singleton.mp hw]
      exact hwaiting
  have hslot := hslot nestingLimit (by decide)
  obtain ⟨response, resource, status, allocation, slot, waiting, -⟩ := sendable_readBack
  exact ⟨⟨hresponse, (response _ hresponse).sent⟩, ⟨hresource, (resource _ hresource).sent⟩,
    ⟨hstatus, (status _ hstatus).sent⟩, ⟨hallocation, (allocation _ hallocation).sent⟩,
    ⟨hslot, (slot _ hslot).sent⟩, ⟨hwaiting, (waiting _ hwaiting).sent⟩⟩

end LeasePool
