import LeasePool.Json.Reading
import LeasePool.Message
import LeasePool.Pool.View

/-!
Reading the JSON form back. A structure is an object or an array of exactly its fields in order;
unknown members are skipped, a repeated known one is an error, and only options may be missing. A
response is recognised by its `type`, wherever that stands.
-/
namespace LeasePool

namespace Json.Tree

/-- The values of the fields with the given names, none for a missing one. -/
def fields? (names : List String) : Tree → Option (List (Option Tree))
  | .array items => if items.length = names.length then some (items.map some) else none
  | .object members =>
    if members.all (fun m => m.1.isSome)
        && names.all (fun name => members.countP (fun m => m.1 == some name) ≤ 1) then
      some (names.map fun name =>
        (members.find? fun m => m.1 == some name).map Prod.snd)
    else none
  | _ => none

def text? : Tree → Option String
  | .string text => text
  | _ => none

def word? : Tree → Option Nat
  | .number n => n.word?
  | _ => none

def priority? : Tree → Option Int
  | .number n => n.int? (-Int.pow 2 31) (Int.pow 2 31 - 1)
  | _ => none

def bool? : Tree → Option Bool
  | .bool b => some b
  | _ => none

/-- An optional value: missing, null, or present. -/
def option? (read : Tree → Option α) : Option Tree → Option (Option α)
  | none => some none
  | some .null => some none
  | some t => (read t).map some

def timestamp? (t : Tree) : Option Timestamp := t.text?.bind Timestamp.parse?

/-- Metadata nested at most `room` deep. -/
def metadata? (room : Nat) (t : Tree) : Option Fields :=
  match t with
  | .object _ => (t.value? room).bind Json.asObject?
  | _ => none

def list? (read : Tree → Option α) : Tree → Option (List α)
  | .array items => items.mapM read
  | _ => none

/-- One of several names: a string, or an object with that one key and null. -/
def name? : Tree → Option String
  | .string text => text
  | .object [(key, .null)] => key
  | _ => none

def resource? (room : Nat) (t : Tree) : Option Resource :=
  match t.fields? ["id", "index", "metadata", "acquired_at"] with
  | some [some id, some index, some metadata, acquiredAt] => do
    some ⟨← id.text?, ← index.word?, ← metadata.metadata? (room - 1),
      ← option? timestamp? acquiredAt⟩
  | _ => none

def status? (t : Tree) : Option PoolStatus :=
  match t.fields? ["resource_id", "total_resources", "available_count", "waiting_count",
      "allocated_count"] with
  | some [some resource, some total, some available, some waiting, some allocated] => do
    some ⟨← resource.text?, ← total.word?, ← available.word?, ← waiting.word?, ← allocated.word?⟩
  | _ => none

def slot? (room : Nat) (t : Tree) : Option SlotView :=
  match t.fields? ["id", "index", "available", "retired", "metadata", "assigned_to",
      "acquired_at"] with
  | some [some id, some index, some available, some retired, some metadata, assignedTo,
      acquiredAt] => do
    some ⟨← id.text?, ← index.word?, ← available.bool?, ← retired.bool?,
      ← metadata.metadata? (room - 1), ← option? text? assignedTo,
      ← option? timestamp? acquiredAt⟩
  | _ => none

def waiting? (t : Tree) : Option WaitingView :=
  match t.fields? ["requester_id", "priority", "position"] with
  | some [some requester, some priority, some position] => do
    some ⟨← requester.text?, ← priority.priority?, ← position.word?⟩
  | _ => none

def allocation? (room : Nat) (t : Tree) : Option Allocation :=
  match t.fields? ["resource_id", "slots", "waiting"] with
  | some [some resource, some slots, some waiting] => do
    some ⟨← resource.text?, ← slots.list? (slot? (room - 2)), ← waiting.list? waiting?⟩
  | _ => none

/-- The fields of an acquired response, less the type. -/
def acquired? (t : Tree) : Option Response :=
  match t.fields? ["release_channel", "lease_id", "record"] with
  | some [some channel, some lease, some resource] => do
    some (.acquired (← channel.text?) (← lease.word?) (← resource.resource? nestingLimit))
  | _ => none

/-- The response with the given type whose remaining parts are `rest`. -/
def typed? (type : String) (rest : Tree) : Option Response :=
  match type with
  | "acquired" => rest.acquired?
  | "cancelled" =>
    match rest with
    | .array (_ :: _) => none
    | _ => some .cancelled
  | _ => none

/-- A response. All of its text must have a value, known or not. -/
def response? (t : Tree) : Option Response :=
  match t with
  | .object members =>
    match members.filter (fun m => m.1 == some "type") with
    | [(_, type)] => do
      let rest : Tree := .object (members.filter fun m => m.1 != some "type")
      let _ ← rest.value? nestingLimit
      typed? (← type.text?) rest
    | _ => none
  | .array (type :: rest) => do
    let _ ← Tree.value? nestingLimit (.array rest)
    typed? (← type.text?) (.array rest)
  | _ => none

end Json.Tree

/-- The value of a whole text in the form that `read` accepts. -/
def decode? (read : Json.Tree → Option α) (text : String) : Option α :=
  (Json.Tree.parse text.toList).bind read

def Resource.decode? : String → Option Resource :=
  LeasePool.decode? (Json.Tree.resource? Json.nestingLimit)

def Response.decode? : String → Option Response := LeasePool.decode? Json.Tree.response?

def PoolStatus.decode? : String → Option PoolStatus := LeasePool.decode? Json.Tree.status?

def SlotView.decode? : String → Option SlotView :=
  LeasePool.decode? (Json.Tree.slot? Json.nestingLimit)

def WaitingView.decode? : String → Option WaitingView := LeasePool.decode? Json.Tree.waiting?

def Allocation.decode? : String → Option Allocation :=
  LeasePool.decode? (Json.Tree.allocation? Json.nestingLimit)

def ReleaseReason.decode? (text : String) : Option ReleaseReason :=
  (LeasePool.decode? Json.Tree.name? text).bind ReleaseReason.ofName?

def SlotStatus.decode? (text : String) : Option SlotStatus :=
  (LeasePool.decode? Json.Tree.name? text).bind SlotStatus.ofName?

end LeasePool
