/-
Calls as the rules see them.
-/
import RoleNaming.Scope.ExprType
import RoleNaming.Text.Lowercase

namespace RoleNaming

open Syntax

namespace View

/-- An argument: its source in lower case and its place in the tree. -/
structure Argument where
  text : String
  site : Site

/-- A call.  Object creations have no name; calls of a constructor from another
are named by the keyword they use. -/
structure Call where
  name : Option String
  arguments : List Argument
  node : Node

def callKinds : List String :=
  ["method_invocation", "object_creation_expression", "explicit_constructor_invocation"]

/-- The node that names what is called. -/
def calleeName? (n : Node) : Option Node :=
  if n.kind = "method_invocation" then n.child? "name"
  else if n.kind = "explicit_constructor_invocation" then n.child? "constructor"
  else none

/-- The arguments of a list that stands at `s`.  A comment between them is no
argument. -/
def argumentsOf (bytes : Bytes) (s : Site) : List Argument :=
  (s.node.namedChildren.filter fun c => !Scope.isComment c).map fun c =>
    ⟨Text.lowercase (c.text bytes), s.under c⟩

/-- The call that stands at a site. -/
def Call.ofSite? (bytes : Bytes) (s : Site) : Option Call :=
  if callKinds.contains s.node.kind then
    some
      { name := (calleeName? s.node).map fun n => Text.lowercase (n.text bytes)
        arguments :=
          match s.node.child? "arguments" with
          | some args => argumentsOf bytes (s.under args)
          | none => []
        node := s.node }
  else none

end View
end RoleNaming
