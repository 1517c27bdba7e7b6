/-
Which types a file can name.  The package and import declarations at the head
of a file and the types it declares decide whether a written type denotes a
given qualified name.
-/
import RoleNaming.OrderedSet
import RoleNaming.Syntax.Site
import RoleNaming.Text.Blank
import RoleNaming.Text.Search

namespace RoleNaming

open Syntax

/-- What one declaration at the head of a file says. -/
inductive Heading where
  | package (name : String)
  | typeImport (qualified : String)
  | onDemand (package : String)
  deriving DecidableEq, Repr

namespace Heading

/-- A name, qualified or not. -/
def isTarget (n : Node) : Bool := n.kind == "scoped_identifier" || n.kind == "identifier"

def isStatic (n : Node) : Bool := n.children.any fun c => c.kind == "static"

def isOnDemand (n : Node) : Bool :=
  n.children.any fun c => c.kind == "asterisk" || c.kind == "*"

/-- What an import declaration says.  Static imports bring in no types, and one
without a target says nothing. -/
def ofImport (bytes : Bytes) (n : Node) : List Heading :=
  if isStatic n then []
  else
    match n.namedChildren.find? isTarget with
    | none => []
    | some target =>
      let name := Text.squeeze (target.text bytes)
      if isOnDemand n then [.onDemand name] else [.typeImport name]

/-- What a declaration of the file says.  Of several names in a package
declaration each counts, and the last one holds. -/
def ofNode (bytes : Bytes) (n : Node) : List Heading :=
  if n.kind = "package_declaration" then
    (n.namedChildren.filter isTarget).map fun c => .package (Text.squeeze (c.text bytes))
  else if n.kind = "import_declaration" then ofImport bytes n
  else []

/-- The headings of a file, in source order.  Only the root's own children
count. -/
def ofRoot (bytes : Bytes) (root : Node) : List Heading := root.children.flatMap (ofNode bytes)

end Heading

/-- The names that decide what a written type denotes in one file. -/
structure Visibility where
  package : String
  /-- Simple names with the qualified names they are imported as; one entry for
  each simple name. -/
  typeImports : List (String × String)
  onDemand : List String
  declared : List String
  deriving DecidableEq, Repr

namespace Visibility

/-- Imported on demand by every file. -/
def implicitPackage : String := "java.lang"

def empty : Visibility := ⟨"", [], [], []⟩

/-- One heading more.  A later package or import replaces an earlier one of the
same name. -/
def add (v : Visibility) : Heading → Visibility
  | .package name => { v with package := name }
  | .typeImport q =>
    let s := Text.simpleName q
    { v with typeImports := (s, q) :: v.typeImports.filter fun e => e.1 != s }
  | .onDemand p => { v with onDemand := OrderedSet.insert p v.onDemand }

def typeDeclarationKinds : List String :=
  ["class_declaration", "interface_declaration", "enum_declaration", "record_declaration",
   "annotation_type_declaration"]

/-- The name a node declares as a type, exactly as written. -/
def declaredType? (bytes : Bytes) (n : Node) : Option String :=
  if typeDeclarationKinds.contains n.kind then (n.child? "name").map (Node.text bytes) else none

/-- The types declared at any depth of the tree. -/
def declaredTypes (bytes : Bytes) (root : Node) : List String :=
  OrderedSet.ofList (root.descendants.filterMap (declaredType? bytes))

/-- What the file `root` over `bytes` can name. -/
def ofRoot (bytes : Bytes) (root : Node) : Visibility :=
  { (Heading.ofRoot bytes root).foldl add empty with declared := declaredTypes bytes root }

/-- The qualified name a simple name is imported as. -/
def imported? (v : Visibility) (simple : String) : Option String := v.typeImports.lookup simple

/-- Whether the type `written` in this file denotes `qualified`.  The qualified
name itself always does.  The simple name does when it is imported as
`qualified`; without an import of that simple name, when the file declares no
such type and the package is imported on demand, the file's own, or
`implicitPackage`.  An array or a parameterised type denotes neither. -/
def denotes (v : Visibility) (written qualified : String) : Bool :=
  if written = "" then false
  else if Text.squeeze written = qualified then true
  else
    let package := Text.packageOf qualified
    let simple := Text.simpleName qualified
    if Text.squeeze written ≠ simple then false
    else
      match v.imported? simple with
      | some q => q == qualified
      | none =>
        if v.declared.contains simple then false
        else
          v.onDemand.contains package || package == v.package || package == implicitPackage

/-- The same for a type that may be unknown; an unknown type denotes nothing. -/
def denotes? (v : Visibility) (written : Option String) (qualified : String) : Bool :=
  match written with
  | some t => v.denotes t qualified
  | none => false

end Visibility
end RoleNaming
