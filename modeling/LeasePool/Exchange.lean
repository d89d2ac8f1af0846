import LeasePool.Assoc
import LeasePool.Message

/-!
The exchange carries responses to the mailboxes of requesters. Mailboxes belong to an address, a
pool together with a requester. Responses go to the newest mailbox of their address while it is
open; a mailbox that was replaced keeps what it got before and then ends.
-/
namespace LeasePool

/-- Where a response goes. -/
structure Address where
  pool : PoolName
  requester : String
deriving DecidableEq, Repr, Inhabited

/-- The mailboxes of one address, numbered in the order of their registration. -/
structure MailboxRow where
  /-- How many mailboxes have been registered so far. -/
  registered : Nat
  /-- The responses that wait in each open mailbox. -/
  boxes : Assoc Nat (List Response)
  /-- The newest mailbox, unless it has been closed. -/
  route : Option Nat
deriving Repr, Inhabited

/-- What a look into a mailbox finds. -/
inductive Receipt where
  | response (r : Response)
  | empty
  /-- Nothing waits and nothing can come any more. -/
  | ended
deriving Repr, Inhabited

namespace MailboxRow

def unused : MailboxRow := ⟨0, [], none⟩

/-- Opens a mailbox, which takes over the route. -/
def register (row : MailboxRow) : MailboxRow :=
  ⟨row.registered + 1, row.boxes.put row.registered [], some row.registered⟩

/-- Closes a mailbox. The route goes with it if it was the newest. -/
def close (row : MailboxRow) (number : Nat) : MailboxRow :=
  { row with
    boxes := row.boxes.erase number
    route := if row.route = some number then none else row.route }

/-- Puts a response into the newest mailbox. -/
def deliver? (row : MailboxRow) (r : Response) : Option MailboxRow :=
  row.route.map fun number =>
    { row with boxes := row.boxes.put number ((row.boxes.get? number).getD [] ++ [r]) }

/-- Takes the first response out of a mailbox. -/
def receive (row : MailboxRow) (number : Nat) : MailboxRow × Receipt :=
  match row.boxes.get? number with
  | some (r :: rest) => ({ row with boxes := row.boxes.put number rest }, .response r)
  | some [] => (row, if row.route = some number then .empty else .ended)
  | none => (row, .ended)

end MailboxRow

/-- One mailbox among those of its address. -/
structure MailboxId where
  address : Address
  number : Nat
deriving DecidableEq, Repr, Inhabited

structure Exchange where
  rows : Assoc Address MailboxRow
deriving Repr, Inhabited

namespace Exchange

def idle : Exchange := ⟨[]⟩

def row (x : Exchange) (a : Address) : MailboxRow := (x.rows.get? a).getD .unused

def setRow (x : Exchange) (a : Address) (row : MailboxRow) : Exchange := ⟨x.rows.put a row⟩

theorem row_setRow (x : Exchange) (a b : Address) (row : MailboxRow) :
    (x.setRow a row).row b = if a = b then row else x.row b := by
  by_cases h : a = b <;> simp [Exchange.row, setRow, Assoc.get?_put, h]

/-- Opens a mailbox at an address in place of the previous one. -/
def register (x : Exchange) (a : Address) : Exchange × MailboxId :=
  (x.setRow a (x.row a).register, ⟨a, (x.row a).registered⟩)

def close (x : Exchange) (m : MailboxId) : Exchange :=
  x.setRow m.address ((x.row m.address).close m.number)

/-- Hands a response to the newest mailbox of an address. -/
def deliver (x : Exchange) (a : Address) (r : Response) : Except Unreachable Exchange :=
  match (x.row a).deliver? r with
  | some row => .ok (x.setRow a row)
  | none => .error ⟨a.pool.coordinatorId, a.requester⟩

def receive (x : Exchange) (m : MailboxId) : Exchange × Receipt :=
  let (row, receipt) := (x.row m.address).receive m.number
  (x.setRow m.address row, receipt)

/-- Whether a response to an address would be delivered. -/
def isRegistered (x : Exchange) (a : Address) : Bool := (x.row a).route.isSome

theorem isOk_deliver (x : Exchange) (a : Address) (r : Response) :
    (x.deliver a r).isOk = x.isRegistered a := by
  unfold deliver isRegistered MailboxRow.deliver?
  cases (x.row a).route <;> rfl

/-- The number of addresses that can be reached. -/
def routeCount (x : Exchange) : Nat := x.rows.countP fun entry => entry.2.route.isSome

/-- The responses that wait in all mailboxes together. -/
def undelivered (x : Exchange) : Nat :=
  (x.rows.flatMap fun entry => entry.2.boxes.flatMap Prod.snd).length

/-- The diagnostic form. -/
def describe (x : Exchange) : String :=
  "ChannelTransport \x7b routes: " ++ x.routeCount.repr ++ " \x7d"

end Exchange

end LeasePool
