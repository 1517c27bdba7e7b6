/-
What can go wrong outside the rules, and how it is put into words.
-/
import RoleNaming.Text.Decimal
import RoleNaming.Text.Quoted

namespace RoleNaming

/-- Why a path cannot be looked up or read. -/
inductive ReadFault where
  | missing
  | isDirectory
  | notDirectory
  /-- A name on the way, or the path as a whole, is longer than the file system allows. -/
  | tooLong
  /-- Somewhere the permission to go on or to read is lacking. -/
  | denied
  deriving DecidableEq, Repr

namespace ReadFault

def message : ReadFault → String
  | .missing => "No such file or directory"
  | .isDirectory => "Is a directory"
  | .notDirectory => "Not a directory"
  | .tooLong => "File name too long"
  | .denied => "Permission denied"

/-- The number by which operating systems know the fault. -/
def number : ReadFault → Nat
  | .missing => 2
  | .denied => 13
  | .notDirectory => 20
  | .isDirectory => 21
  | .tooLong => 36

/-- A look-up that fails for want of an entry says that there is none.  After any
other fault there may be one all the same. -/
def isAbsence : ReadFault → Bool
  | .missing | .notDirectory => true
  | .isDirectory | .tooLong | .denied => false

end ReadFault

inductive Error where
  | unknownIssue (id : String)
  | invalidContextType (type : String)
  | priorityOutOfRange (priority : Int)
  /-- An identifier is asked for and nothing is given in its place. -/
  | missingIdentifier
  | unreadable (path : String) (why : ReadFault)
  /-- It cannot be told whether there is a directory at the path. -/
  | lookup (path : String) (why : ReadFault)
  /-- A path with a NUL character names nothing that could even be missing. -/
  | nulInPath
  deriving DecidableEq, Repr

namespace Error

def message : Error → String
  | .unknownIssue id => "Unknown issue id '" ++ id ++ "'"
  | .invalidContextType type => "Invalid context type '" ++ type ++ "'"
  | .priorityOutOfRange p => "priority must be in 1..10, got " ++ Text.decimal p
  | .missingIdentifier => "unhashable type: 'list'"
  | .unreadable path why => "Cannot read " ++ path ++ ": " ++ why.message
  | .lookup path why =>
    "[Errno " ++ Text.decimal why.number ++ "] " ++ why.message ++ ": " ++ Text.quoted path
  | .nulInPath => "embedded null byte"

end Error
end RoleNaming
