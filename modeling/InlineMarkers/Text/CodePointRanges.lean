/-!
# Ordered ranges of code points

Unicode properties are tables of closed ranges in increasing order.  Membership
stops at the first range that starts beyond the code point, so it is quick for
the low code points that fill most notes.
-/

namespace InlineMarkers.Text

/-- Closed ranges of code points, each one after the one before it. -/
abbrev CodePointRanges := List (Nat × Nat)

namespace CodePointRanges

def covers : CodePointRanges → Nat → Bool
  | [], _ => false
  | (low, high) :: rest, code =>
      if code < low then false
      else if code ≤ high then true
      else covers rest code

theorem covers_nil (code : Nat) : covers [] code = false := rfl

end CodePointRanges

end InlineMarkers.Text
