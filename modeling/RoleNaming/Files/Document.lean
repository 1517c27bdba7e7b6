/-
Trees of files as JSON documents: the parsed files with their paths, and the
directories that may be empty.
-/
import RoleNaming.Files.Tree
import RoleNaming.Syntax.Document

namespace RoleNaming
namespace Files

open Syntax

/-- A list under a key; a missing key stands for the empty list. -/
def itemsOfJson? (j : Json) (key : String) : Option (List Json) :=
  match j.get? key with
  | some (.arr items) => some items
  | none | some .null => some []
  | _ => none

def putFileOfJson? (entries : List Entry) (j : Json) : Option (List Entry) := do
  let path ← (← j.get? "path").str?
  return put (some (← Source.ofJson? j)) (Path.parse path).names entries

def putDirOfJson? (entries : List Entry) (j : Json) : Option (List Entry) := do
  return put none (Path.parse (← j.str?)).names entries

/-- The tree of a document with the members `files` and `dirs`. -/
def Tree.ofJson? (j : Json) : Option Tree := do
  let dirs ← (← itemsOfJson? j "dirs").foldlM putDirOfJson? []
  return .ofEntries (← (← itemsOfJson? j "files").foldlM putFileOfJson? dirs)

end Files
end RoleNaming
