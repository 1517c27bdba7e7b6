/-
A node at its place: the node together with the nodes above it.  Names are
resolved upwards, so the rules pass sites around and not bare nodes.

Main statement: `walk_eq_sitesOf`, the walk with a stack of pending sites comes
by the sites in the order of the recursive definition.
-/
import RoleNaming.Syntax.Node

namespace RoleNaming
namespace Syntax

/-- A node and its ancestors, the nearest first. -/
structure Site where
  node : Node
  above : List Node

namespace Site

/-- The root of a tree: nothing stands above it. -/
def top (n : Node) : Site := ⟨n, []⟩

/-- A node below the site's own. -/
def under (s : Site) (c : Node) : Site := ⟨c, s.node :: s.above⟩

def children (s : Site) : List Site := s.node.children.map s.under

/-- The nodes a stack of sites still has to come by. -/
def pending (stack : List Site) : Nat := Node.sizes (stack.map Site.node)

theorem pending_children_append (s : Site) (stack : List Site) :
    pending (s.children ++ stack) + 1 = pending (s :: stack) := by
  have h : (s.node.children.map s.under).map Site.node = s.node.children := by
    simp [Function.comp_def, under]
  simp only [pending, children, List.map_append, h, Node.sizes_append, List.map_cons,
    Node.sizes, Node.size_eq s.node]
  omega

/-- Every site of the stacked trees, a node before its children and these from
left to right.  The children of the site on top go on top of the stack, so no
call is nested as deep as the tree. -/
def walk : List Site → List Site
  | [] => []
  | s :: stack => s :: walk (s.children ++ stack)
  termination_by stack => pending stack
  decreasing_by
    have h := pending_children_append s stack
    omega

end Site

/- The same order, read off the tree. -/
mutual
def Node.sites (above : List Node) : Node → List Site
  | .mk l cs => ⟨.mk l cs, above⟩ :: Node.sitesAll (.mk l cs :: above) cs

def Node.sitesAll (above : List Node) : List Node → List Site
  | [] => []
  | c :: cs => Node.sites above c ++ Node.sitesAll above cs
end

namespace Site

/-- The sites of a stack of trees, tree after tree. -/
def sitesOf : List Site → List Site
  | [] => []
  | s :: stack => s.node.sites s.above ++ sitesOf stack

theorem sitesOf_append (a b : List Site) : sitesOf (a ++ b) = sitesOf a ++ sitesOf b := by
  induction a with
  | nil => rfl
  | cons s a ih => simp [sitesOf, ih]

theorem sitesOf_map (above : List Node) (cs : List Node) :
    sitesOf (cs.map fun c => ⟨c, above⟩) = Node.sitesAll above cs := by
  induction cs with
  | nil => rfl
  | cons c cs ih => simp [sitesOf, Node.sitesAll, ih]

theorem sites_eq (s : Site) : s.node.sites s.above = s :: sitesOf s.children := by
  obtain ⟨n, above⟩ := s
  cases n with
  | mk l cs =>
    show Node.sites above (.mk l cs) = _
    rw [Node.sites]
    exact congrArg _ (sitesOf_map (.mk l cs :: above) cs).symm

/-- Taking the next site off a stack is reading the trees in order. -/
theorem walk_eq_sitesOf (stack : List Site) : walk stack = sitesOf stack := by
  fun_induction walk stack with
  | case1 => rfl
  | case2 s stack ih =>
    rw [ih, sitesOf_append, sitesOf, sites_eq]
    rfl

end Site

namespace Node

/-- The nodes of a tree, in the order of the walk. -/
def descendants (n : Node) : List Node := (Site.walk [Site.top n]).map Site.node

end Node

end Syntax
end RoleNaming
