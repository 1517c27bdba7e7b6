/-
The kinds of problems that the rules know.
-/
import RoleNaming.Issue.Basic

namespace RoleNaming
namespace Catalog

/-- The type that a context is expected to have, unless another is chosen. -/
def defaultContextType : String := "android.content.Context"

def methodNameIsIncoherent : IssueKind :=
  { id := "MethodNameIsIncoherent"
    title := "Method name incoherent with its parameters"
    explanation :=
      "A method whose name mentions `listener` or `context` should take a " ++
      "parameter with that name, and a method taking a `listener` parameter " ++
      "should say so in its name."
    category := .correctness
    priority := 6
    severity := .warning }

/-- Kept for its identifier: no rule reports it. -/
def listenerAccess : IssueKind :=
  { id := "ListenerAccess"
    title := "Listener mentions"
    explanation := "This check highlights method calls in code which mention `listener`."
    category := .correctness
    priority := 6
    severity := .warning }

def contextAccess : IssueKind :=
  { id := "ContextAccess"
    title := "Context mentions"
    explanation :=
      "This check highlights method calls in code which mention `context`, " ++
      "and `context` parameters that are not of type `" ++ defaultContextType ++ "`."
    category := .correctness
    priority := 6
    severity := .warning }

def kinds : List IssueKind := [methodNameIsIncoherent, listenerAccess, contextAccess]

def find? (id : String) : Option IssueKind := kinds.find? fun k => k.id == id

/-- The kind with the given identifier. -/
def get (id : String) : Except Error IssueKind :=
  match find? id with
  | some k => .ok k
  | none => .error (.unknownIssue id)

def isKnown (id : String) : Bool := (find? id).isSome

end Catalog
end RoleNaming
