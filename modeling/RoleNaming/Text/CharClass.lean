/-
Character classes: sorted lists of ranges of code points.
-/

namespace RoleNaming
namespace Text

/-- Inclusive ranges of code points, in increasing order and apart from each
other.  A list and not a tree, because membership of a concrete code point then
reduces in the kernel. -/
abbrev CharClass := List (Nat × Nat)

namespace CharClass

/-- Whether the code point `n` lies in one of the ranges.  The order of the
ranges ends the search at the first range above `n`. -/
def has : CharClass → Nat → Bool
  | [], _ => false
  | (lo, hi) :: rest, n => if n < lo then false else decide (n ≤ hi) || has rest n

end CharClass

end Text
end RoleNaming
