/-
Paths as lists of names.  Empty names and single dots say nothing and are
dropped; double dots are kept, since they need a directory to go up from.
-/

namespace RoleNaming
namespace Files

/-- Where a path starts. -/
inductive Anchor where
  | here
  | root
  /-- Exactly two slashes, which are kept apart from one. -/
  | doubleRoot
  deriving DecidableEq, Repr

def Anchor.text : Anchor → String
  | .here => ""
  | .root => "/"
  | .doubleRoot => "//"

structure Path where
  anchor : Anchor
  names : List String
  deriving DecidableEq, Repr

namespace Path

/-- The pieces between the separators; one more than there are separators. -/
def pieces (sep : Char) : List Char → List (List Char)
  | [] => [[]]
  | c :: cs =>
    if c = sep then [] :: pieces sep cs
    else
      match pieces sep cs with
      | [] => [[c]]
      | p :: ps => (c :: p) :: ps

def anchorOf (cs : List Char) : Anchor :=
  match (cs.takeWhile fun c => c == '/').length with
  | 0 => .here
  | 2 => .doubleRoot
  | _ => .root

def parse (s : String) : Path :=
  let names := (pieces '/' s.toList).map String.ofList
  ⟨anchorOf s.toList, names.filter fun n => n != "" && n != "."⟩

/-- The path as text.  A path that says nothing is the current directory. -/
def render (p : Path) : String :=
  let body := p.anchor.text ++ String.intercalate "/" p.names
  if body = "" then "." else body

/-- The path further down. -/
def join (p : Path) (names : List String) : Path := { p with names := p.names ++ names }

/-- The names to follow from where the path starts.  A path that says nothing stays
there, and that is a step, too. -/
def steps (p : Path) : List String :=
  if p.anchor = .here ∧ p.names = [] then ["."] else p.names

/-- Whether a NUL character makes the path unusable. -/
def hasNul (p : Path) : Bool := p.names.any fun n => n.toList.contains (Char.ofNat 0)

/-- The greatest number of bytes in a name. -/
def nameLimit : Nat := 255

/-- The number of bytes from which on the text of a path is too long. -/
def lengthLimit : Nat := 4096

def isTooLong (p : Path) : Bool := lengthLimit ≤ p.render.utf8ByteSize

end Path
end Files
end RoleNaming
