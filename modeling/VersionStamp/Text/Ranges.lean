/-! # Sets of characters as sorted lists of closed ranges of scalar values, and their membership
test. -/

namespace VersionStamp.Text

/-- Closed ranges `[lo, hi]` of scalar values, in increasing order and pairwise apart. -/
abbrev CharRanges := Array (UInt32 × UInt32)

/-- Whether some range of the table holds `c`. -/
def CharRanges.contains (table : CharRanges) (c : Char) : Bool :=
  table.any fun r => r.1 ≤ c.val && c.val ≤ r.2

end VersionStamp.Text
