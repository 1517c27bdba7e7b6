/-
Trees from listings.  A parser lists the nodes of a tree in preorder, one row a
node, and each row names the row of its parent.
-/
import RoleNaming.Syntax.Node

namespace RoleNaming
namespace Syntax

/-- One row of a listing.  The root has no parent. -/
structure Row where
  parent : Option Nat
  label : Label
  deriving Repr

/-- Trees that still wait for their parent, in the order of their rows. -/
abbrev Orphans := List (Option Nat × Node)

/-- Put a row on top of its children.  In preorder the children come later, so
reading the listing from its end finds them all waiting. -/
def Row.adopt (r : Row) (orphans : Orphans) : Orphans :=
  let mine := orphans.filter fun o => o.1 == some r.label.number
  let others := orphans.filter fun o => o.1 != some r.label.number
  (r.parent, .mk r.label (mine.map Prod.snd)) :: others

/-- The tree of a listing: the first row without a parent, over all that hangs
below it. -/
def Node.ofRows? (rows : List Row) : Option Node :=
  ((rows.foldr Row.adopt []).find? fun o => o.1 == none).map Prod.snd

end Syntax
end RoleNaming
