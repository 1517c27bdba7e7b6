/-
Trees of files and directories, and what a path leads to in them.
-/
import RoleNaming.Error
import RoleNaming.Files.Path
import RoleNaming.Syntax.Source

namespace RoleNaming
namespace Files

open Syntax

/-- What may be done with a directory: to list the names in it, and to pass through it
to what lies below. -/
structure Access where
  list : Bool
  search : Bool
  deriving DecidableEq, Repr

def Access.full : Access := ⟨true, true⟩

inductive Entry where
  /-- A file with what comes of reading it. -/
  | file (name : String) (content : Except ReadFault Source)
  | dir (name : String) (access : Access) (entries : List Entry)

namespace Entry

def name : Entry → String
  | .file n _ => n
  | .dir n _ _ => n

def isFile : Entry → Bool
  | .file .. => true
  | .dir .. => false

end Entry

def find? (entries : List Entry) (name : String) : Option Entry :=
  entries.find? fun e => e.name == name

/-- Put a file, or without a source a directory, at the given names, together
with the directories on the way.  What stands there already is kept as far as
it is a directory. -/
def put (source : Option Source) : List String → List Entry → List Entry
  | [], entries => entries
  | name :: rest, entries =>
    let inside :=
      match find? entries name with
      | some (.dir _ _ es) => es
      | _ => []
    let entry :=
      match rest, source with
      | [], some src => .file name (.ok src)
      | _, _ => .dir name .full (put source rest inside)
    entry :: entries.filter fun e => e.name != name

/-! ## Going from place to place -/

/-- An entry together with the directories above it, the nearest first and the root
last. -/
structure Place where
  here : Entry
  above : List Entry

namespace Place

/-- The place above.  Above the root is the root. -/
def up (place : Place) : Place :=
  match place.above with
  | [] => place
  | parent :: rest => ⟨parent, rest⟩

/-- Where one name leads.  To be asked for a name at all, a place must be a directory
that may be searched, and the name must not be too long; only then does it matter
whether there is such an entry. -/
def step (place : Place) (name : String) : Except ReadFault Place :=
  match place.here with
  | .file .. => .error .notDirectory
  | .dir _ access entries =>
    if !access.search then .error .denied
    else if name = "." then .ok place
    else if name = ".." then .ok place.up
    else if Path.nameLimit < name.utf8ByteSize then .error .tooLong
    else
      match find? entries name with
      | some e => .ok ⟨e, place.here :: place.above⟩
      | none => .error .missing

/-- Where names lead, one after the other. -/
def follow (start : Place) (names : List String) : Except ReadFault Place :=
  names.foldlM step start

def root (p : Place) : Place := ⟨p.above.getLast?.getD p.here, []⟩

end Place

/-- The files of a run, seen from the current directory. -/
structure Tree where
  start : Place

namespace Tree

/-- A current directory with the given entries.  Of what lies above it no entry is
known. -/
def ofEntries (entries : List Entry) : Tree :=
  ⟨.dir "" .full entries, [.dir "" .full []]⟩

def empty : Tree := ofEntries []

/-- Where a path starts. -/
def origin (t : Tree) : Anchor → Place
  | .here => t.start
  | .root | .doubleRoot => t.start.root

/-- What a path leads to.  One that is too long as a whole is not even followed. -/
def find (t : Tree) (p : Path) : Except ReadFault Entry :=
  if p.isTooLong then .error .tooLong
  else ((t.origin p.anchor).follow p.steps).map Place.here

/-- The source that a path leads to. -/
def read (t : Tree) (p : Path) : Except ReadFault Source :=
  match t.find p with
  | .ok (.file _ content) => content
  | .ok (.dir _ access _) => .error (if access.list then .isDirectory else .denied)
  | .error why => .error why

end Tree
end Files
end RoleNaming
