import LeasePool.PoolName
import LeasePool.Resource

/-!
The messages that a coordinator handles, its responses to requesters, and the errors of pools,
deliveries and clients with their texts.
-/
namespace LeasePool

/-- A message to a coordinator. A release that names a lease ends only that one. -/
inductive Message where
  | request (requester : String) (priority : Int)
  | release (channel : String) (lease : Option Nat)
  | resize (size : Nat)
  | cancel (requester : String)
  | status
  | allocation
deriving DecidableEq, Repr, Inhabited

def Message.kind : Message → String
  | request _ _ => "request_resource"
  | release _ _ => "release_resource"
  | resize _ => "update_resource_pool"
  | cancel _ => "cancel_request"
  | status => "get_status"
  | allocation => "get_allocation"

/-- A response to a requester. -/
inductive Response where
  | acquired (channel : String) (lease : Nat) (resource : Resource)
  | cancelled
deriving Repr, Inhabited

/-- Why a grant ended. -/
inductive ReleaseReason where
  | released | timedOut
deriving DecidableEq, Repr, Inhabited

namespace ReleaseReason

def name : ReleaseReason → String
  | released => "released"
  | timedOut => "timed_out"

def ofName? : String → Option ReleaseReason
  | "released" => some released
  | "timed_out" => some timedOut
  | _ => none

/-- The wording for readers. -/
def words : ReleaseReason → String
  | released => "released"
  | timedOut => "timed out"

end ReleaseReason

/-- Why a pool cannot be started or talked to. -/
inductive PoolError where
  | invalidSize (size : Nat)
  | unavailable (coordinator : String)
  | queryDropped (coordinator : String)
deriving DecidableEq, Repr, Inhabited

def PoolError.message : PoolError → String
  | invalidSize size => s!"invalid pool size {size}: must be at least 1"
  | unavailable coordinator => s!"coordinator {coordinator} is not running"
  | queryDropped coordinator => s!"coordinator {coordinator} dropped the query"

/-- A response that found no mailbox. -/
structure Unreachable where
  pool : String
  requester : String
deriving DecidableEq, Repr

def Unreachable.message (e : Unreachable) : String :=
  s!"requester {e.requester} of {e.pool} is unreachable"

/-- Why a client got no lease. -/
inductive ClientError where
  | cancelled
  | pool (e : PoolError)
  | mailboxClosed (requester : String)
deriving DecidableEq, Repr, Inhabited

def ClientError.message : ClientError → String
  | cancelled => "resource request was cancelled"
  | pool e => e.message
  | mailboxClosed requester => s!"response mailbox for {requester} closed"

end LeasePool
