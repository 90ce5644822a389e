/-!
# Sets of characters as ranges of code points

A class of characters is listed as ascending closed ranges of code points. The search stops at the
first range that begins behind the code point asked for.
-/

namespace Reckoner.Text

set_option autoImplicit false

/-- Closed ranges of code points, first and last, in ascending order. -/
abbrev CodeRanges := List (Nat × Nat)

def CodeRanges.covers : CodeRanges → Nat → Bool
  | [], _ => false
  | (first, last) :: rest, code =>
      if code < first then false
      else if code ≤ last then true
      else CodeRanges.covers rest code

end Reckoner.Text
