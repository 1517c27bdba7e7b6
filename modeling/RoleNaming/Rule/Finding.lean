/-
What the rules can find: a name that promises a role which the code does not
back up, or the other way round.
-/
import RoleNaming.Issue.Catalog

namespace RoleNaming

inductive Finding where
  /-- A parameter is a listener and the method does not say so. -/
  | listenerUnsaid
  /-- The method speaks of a listener and takes none. -/
  | listenerUnbacked
  /-- A parameter is called a context and does not have the context type. -/
  | contextMistyped (type : String)
  /-- The method speaks of a context and takes none. -/
  | contextUnbacked
  /-- The called method speaks of a context. -/
  | contextCalled
  /-- An argument speaks of a context. -/
  | contextPassed
  /-- An argument has the context type. -/
  | contextTypePassed (type : String)
  deriving DecidableEq, Repr

namespace Finding

def kind : Finding → IssueKind
  | .listenerUnsaid | .listenerUnbacked | .contextUnbacked => Catalog.methodNameIsIncoherent
  | .contextMistyped _ | .contextCalled | .contextPassed | .contextTypePassed _ =>
    Catalog.contextAccess

def message : Finding → String
  | .listenerUnsaid => "This method has parameter named `listener`"
  | .listenerUnbacked => "This method mentions `listener` but has no parameter named `listener`"
  | .contextMistyped type => "This code does not mention parameter of type " ++ type
  | .contextUnbacked => "This method mentions `context` but has no parameter named `context`"
  | .contextCalled => "This code mentions `context`"
  | .contextPassed => "This code mentions parameter `context`"
  | .contextTypePassed type => "This code mentions parameter of type " ++ type

/-- The problem to report for a finding at a node. -/
def issue (n : Syntax.Node) (path : String) (f : Finding) : Issue :=
  .atNode f.kind n f.message path

end Finding
end RoleNaming
