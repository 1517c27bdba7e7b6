/-
One visit: the rules at one place of a file.
-/
import RoleNaming.Rule.Call
import RoleNaming.Syntax.Source

namespace RoleNaming

open Syntax

/-- What the rules see of a file besides the place they look at. -/
structure FileView where
  path : String
  bytes : Bytes
  visibility : Visibility

namespace FileView

def ofSource (src : Source) (path : String) : FileView :=
  ⟨path, src.bytes, Visibility.ofRoot src.bytes src.root⟩

end FileView

namespace Rule

/-- The two sorts of places that rules look at. -/
inductive Subject where
  | method
  | call
  deriving DecidableEq, Repr

namespace Subject

def all : List Subject := [.method, .call]

def kinds : Subject → List String
  | .method => View.methodKinds
  | .call => View.callKinds

def name : Subject → String
  | .method => "METHOD"
  | .call => "CALL"

/-- The sort of place that a kind of node is. -/
def ofKind? (kind : String) : Option Subject := all.find? fun s => s.kinds.contains kind

end Subject

/-- What the rules find at a site. -/
def findings (f : FileView) (contextType : String) (s : Site) : List Finding :=
  match View.Method.ofNode? f.bytes s.node with
  | some m => checkMethod f.visibility contextType m
  | none =>
    match View.Call.ofSite? f.bytes s with
    | some c => checkCall f.bytes f.visibility contextType c
    | none => []

/-- The problems to report at a site. -/
def visit (f : FileView) (contextType : String) (s : Site) : List Issue :=
  (findings f contextType s).map (Finding.issue s.node f.path)

end Rule
end RoleNaming
