/-
Parsed sources as JSON documents.  No parser is part of this library: a source
arrives together with the listing of its tree.
-/
import RoleNaming.Json.Value
import RoleNaming.Syntax.Listing
import RoleNaming.Syntax.Source
import RoleNaming.Text.Hex

namespace RoleNaming
namespace Syntax

/-- Bytes written as two hexadecimal digits each. -/
def bytesOfHex? : List Char → Option Bytes
  | [] => some []
  | hi :: lo :: rest => do
    let h ← Text.hexValue? hi
    let l ← Text.hexValue? lo
    let bs ← bytesOfHex? rest
    return UInt8.ofNat (h * 16 + l) :: bs
  | _ => none

def Row.parentOfInt? : Int → Option Nat
  | .ofNat n => some n
  | .negSucc _ => none

/-- The row `[parent, kind, named, field, start, stop, row, col]` at place
`number` of a listing.  The root's parent is negative. -/
def Row.ofJson? (number : Nat) (j : Json) : Option Row :=
  match j with
  | .arr [parent, kind, named, field, start, stop, row, col] => do
    let parent ← parent.int?
    let kind ← kind.str?
    let named ← named.int?
    let start ← start.nat?
    let stop ← stop.nat?
    let row ← row.nat?
    let col ← col.nat?
    return ⟨Row.parentOfInt? parent, ⟨number, kind, named != 0, field.str?, start, stop, row, col⟩⟩
  | _ => none

/-- The rows of a listing, numbered from `number` on. -/
def Row.listOfJson? : Nat → List Json → Option (List Row)
  | _, [] => some []
  | number, j :: js => do
    let r ← Row.ofJson? number j
    let rs ← Row.listOfJson? (number + 1) js
    return r :: rs

/-- The bytes of a source, given as text or in hexadecimal digits. -/
def bytesOfJson? (j : Json) : Option Bytes :=
  match j.get? "source" with
  | some text => do
    let s ← text.str?
    return s.toUTF8.toList
  | none => do
    let s ← (← j.get? "source_hex").str?
    bytesOfHex? s.toList

/-- A source with its tree. -/
def Source.ofJson? (j : Json) : Option Source := do
  let bytes ← bytesOfJson? j
  let tree ← j.get? "tree"
  let nodes ← tree.get? "nodes"
  let rows ← Row.listOfJson? 0 (← nodes.arr?)
  let root ← Node.ofRows? rows
  let damaged ← tree.get? "has_error"
  return ⟨bytes, root, ← damaged.bool?⟩

end Syntax
end RoleNaming
