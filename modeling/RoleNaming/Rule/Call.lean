/-
The rule for calls: a context that is named or passed shows up.
-/
import RoleNaming.Rule.Method
import RoleNaming.View.Call

namespace RoleNaming
namespace Rule

open Text View

/-- What the name of the called method says. -/
def checkCallee (name : String) : List Finding :=
  if mentions contextWord name then [.contextCalled] else []

/-- What the arguments say.  An argument that mentions a context settles the
matter; otherwise one of the context type does. -/
def checkArguments (bytes : Bytes) (v : Visibility) (contextType : String)
    (args : List Argument) : List Finding :=
  if args.any fun a => mentions contextWord a.text then [.contextPassed]
  else if args.any fun a => v.denotes? (Scope.exprType bytes a.site) contextType then
    [.contextTypePassed contextType]
  else []

/-- What a call shows.  Calls without a name or without arguments show
nothing. -/
def checkCall (bytes : Bytes) (v : Visibility) (contextType : String) (c : Call) : List Finding :=
  match c.name with
  | none => []
  | some name =>
    if c.arguments.isEmpty then []
    else checkCallee name ++ checkArguments bytes v contextType c.arguments

end Rule
end RoleNaming
