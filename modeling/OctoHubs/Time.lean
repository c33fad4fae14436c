import Mathlib.Algebra.Group.Int.Defs

/-! Points in time as the stored records carry them. -/

namespace OctoHubs

/-- Microseconds since the epoch, in UTC. -/
abbrev Timestamp := Int

def second : Timestamp := 1000000

end OctoHubs
