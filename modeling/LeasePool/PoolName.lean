import LeasePool.Text.Quoted

/-!
Names of pools. A pool is named by a namespace and a resource; its coordinator's id joins the two
without a separator, so that different pools may share an id.
-/
namespace LeasePool

structure PoolName where
  space : String
  resource : String
deriving DecidableEq, Repr, Inhabited

namespace PoolName

/-- What every coordinator id begins with. -/
def idStart : String := "resource-pool"

/-- The id of the pool's coordinator, which also stands for the pool in messages. -/
def coordinatorId (p : PoolName) : String := idStart ++ p.space ++ p.resource

/-- Order by namespace, then by resource, both by code point. -/
def before (p q : PoolName) : Bool :=
  decide (p.space < q.space) || (p.space == q.space && decide (p.resource < q.resource))

/-- Names in order, repetitions kept. -/
def sort (names : List PoolName) : List PoolName := names.mergeSort fun p q => !q.before p

/-- The diagnostic form. -/
def describe (p : PoolName) : String :=
  "PoolKey \x7b namespace: " ++ Text.quotedText p.space ++ ", resource_id: "
    ++ Text.quotedText p.resource ++ " \x7d"

end PoolName

/-- What every release channel begins with. -/
def releaseChannelStart : String := "resource-channel-"

/-- The channel on which a requester gives back its slot. -/
def releaseChannel (requester : String) : String := releaseChannelStart ++ requester

theorem releaseChannel_injective {a b : String} (h : releaseChannel a = releaseChannel b) :
    a = b := by
  have lists := congrArg String.toList h
  simp only [releaseChannel, String.toList_append] at lists
  exact String.toList_inj.mp (List.append_cancel_left lists)

end LeasePool
