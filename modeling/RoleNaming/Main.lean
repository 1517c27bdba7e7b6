/-
The command line program.  The files to check arrive parsed, as one JSON
document on standard input; the paths on the command line choose among them.
-/
import RoleNaming.Command.Run
import RoleNaming.Files.Document
import RoleNaming.Json.Reader

namespace RoleNaming

/-- Everything on a stream, up to its end. -/
partial def readAll (stream : IO.FS.Stream) (sofar : String) : IO String := do
  let line ← stream.getLine
  if line.isEmpty then return sofar else readAll stream (sofar ++ line)

/-- The tree of files on standard input; without input there are none. -/
def treeOfText? (text : String) : Option Files.Tree :=
  if text = "" then some .empty else (Json.parse? text).bind Files.Tree.ofJson?

end RoleNaming

open RoleNaming in
def main (argv : List String) : IO UInt32 := do
  let text ← readAll (← IO.getStdin) ""
  match treeOfText? text with
  | none =>
    IO.eprint (Command.complaint "standard input is no document of parsed files")
    return UInt32.ofNat Command.Status.failure
  | some tree =>
    match Command.run Command.channel tree argv with
    | .ok out =>
      IO.print out.stdout
      IO.eprint out.stderr
      return UInt32.ofNat out.status
    | .error e =>
      IO.eprint (Command.complaint e.message)
      return UInt32.ofNat Command.Status.aborted
