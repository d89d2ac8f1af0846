import LeasePool.Timestamp

/-!
Readings of the clocks. One clock tells calendar time, the other counts nanoseconds and never runs
backwards. A step of a coordinator reads them many times, each time for something else; what it
reads is given from outside, and nothing ties one reading to another.
-/
namespace LeasePool

/-- A reading of both clocks. -/
structure Clock where
  wall : Timestamp
  ticks : Nat
deriving DecidableEq, Repr, Inhabited

/-- All that one step reads, by what it is read for. No step makes two resources for an index or
addresses a requester twice, so that it never needs a second reading for the same thing. -/
structure Readings where
  /-- The calendar when the resource at an index is made. -/
  made : Nat → Timestamp
  /-- The calendar when an expansion begins. -/
  expanded : Timestamp
  /-- The calendar when a slot is handed to a requester. -/
  acquired : String → Timestamp
  /-- The running clock when the lease of a requester begins, and its timer with it. -/
  granted : String → Nat
  /-- The running clock when a grant ends. -/
  ended : Nat
deriving Inhabited

/-- What a step reads while time stands still. -/
def Clock.still (clock : Clock) : Readings where
  made _ := clock.wall
  expanded := clock.wall
  acquired _ := clock.wall
  granted _ := clock.ticks
  ended := clock.ticks

end LeasePool
