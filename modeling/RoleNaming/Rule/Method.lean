/-
The rule for methods and constructors: a name and the parameters have to agree
on listeners and contexts.
-/
import RoleNaming.Rule.Finding
import RoleNaming.View.Method
import RoleNaming.Visibility

namespace RoleNaming
namespace Rule

open Text View

def listenerWord : String := "listener"

def contextWord : String := "context"

/-- Name and parameters mention a listener together or not at all. -/
def checkListener (m : Method) : List Finding :=
  let said := mentions listenerWord m.name
  let taken := m.parameters.any fun p => mentions listenerWord p.name
  if taken && !said then [.listenerUnsaid]
  else if said && !taken then [.listenerUnbacked]
  else []

/-- The first parameter called a context has the context type; without one, the
name does not mention a context.  A context parameter need not show in the
name. -/
def checkContext (v : Visibility) (contextType : String) (m : Method) : List Finding :=
  match m.parameters.find? fun p => mentions contextWord p.name with
  | some p => if v.denotes p.type contextType then [] else [.contextMistyped contextType]
  | none => if mentions contextWord m.name then [.contextUnbacked] else []

/-- What is wrong with a method.  Private methods are nobody else's concern, and
one without parameters promises nothing. -/
def checkMethod (v : Visibility) (contextType : String) (m : Method) : List Finding :=
  if m.parameters.isEmpty || m.isPrivate then []
  else checkListener m ++ checkContext v contextType m

end Rule
end RoleNaming
