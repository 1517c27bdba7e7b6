/-
A source file as the checks get it: its bytes and the tree the parser made of
them.
-/
import RoleNaming.Syntax.Site

namespace RoleNaming
namespace Syntax

structure Source where
  bytes : Bytes
  root : Node
  /-- Whether the parser had to skip or invent something. -/
  hasError : Bool

namespace Source

/-- All sites of the file in source order. -/
def sites (src : Source) : List Site := Site.walk [Site.top src.root]

/-- The site with the given number in the parser's listing. -/
def site? (src : Source) (number : Nat) : Option Site :=
  src.sites.find? fun s => s.node.number == number

end Source

end Syntax
end RoleNaming
