/-
The files that a list of paths stands for.  A directory stands for everything
below it that is named like a Java file, in the order of the names along the
way; any other path stands for itself, whether there is something or not.  Which
of the two it is may remain open, and then the list stands for nothing.
-/
import RoleNaming.Files.Tree
import RoleNaming.OrderedSet
import RoleNaming.Text.Search

namespace RoleNaming
namespace Files

/-- Named like a Java file.  Directories can be, too. -/
def isJavaName (name : String) : Bool := Text.endsIn ".java" name

/-- An entry below a directory of the given name, by the names that lead to it. -/
def under (name : String) (x : List String × Entry) : List String × Entry := (name :: x.1, x.2)

/- The entries that a search from a directory comes across, by the names that lead to
them.  Directories without the permission to list them, or to pass through the one
they are in, are not searched. -/
mutual
def Entry.shown : Entry → List (List String × Entry)
  | .file .. => []
  | .dir _ access entries => if access.list then Entry.shownIn access.search entries else []

def Entry.shownIn (search : Bool) : List Entry → List (List String × Entry)
  | [] => []
  | e :: es =>
    ([e.name], e) :: (if search then e.shown.map (under e.name) else []) ++
      Entry.shownIn search es
end

/-- The names that lead to what is named like a Java file below a directory, sorted. -/
def Entry.javaNames (d : Entry) : List (List String) :=
  OrderedSet.ofList ((d.shown.filter fun x => isJavaName x.2.name).map Prod.fst)

/-- The first directory that a search from the directory at `p` comes across and whose
path is too long to enter it. -/
def Entry.tooDeep? (d : Entry) (p : Path) : Option Path :=
  (d.shown.find? fun x => !x.2.isFile && (p.join x.1).isTooLong).map fun x => p.join x.1

namespace Tree

/-- What one path stands for.  A path at which there is nothing is kept to be reported
when it is read; where the look-up fails for another reason, it cannot be told what the
path stands for, and a search that comes upon too long a path is not finished. -/
def expand (t : Tree) (p : Path) : Except Error (List Path) :=
  if p.hasNul then .ok [p]
  else
    match t.find p with
    | .ok (.file ..) => .ok [p]
    | .ok d =>
      match d.tooDeep? p with
      | some q => .error (.lookup q.render .tooLong)
      | none => .ok (d.javaNames.map p.join)
    | .error why => if why.isAbsence then .ok [p] else .error (.lookup p.render why)

/-- What a list of paths stands for, in the order given. -/
def discover (t : Tree) (paths : List Path) : Except Error (List Path) := do
  return (← paths.mapM t.expand).flatten

end Tree
end Files
end RoleNaming
