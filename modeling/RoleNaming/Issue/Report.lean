/-
How problems are shown: as a line of text, as a record, and in full in the log.
-/
import RoleNaming.Issue.Catalog
import RoleNaming.Json.Value
import RoleNaming.Text.Quoted

namespace RoleNaming

open Text

namespace IssueKind

/-- Everything about a kind, on one line. -/
def describe (k : IssueKind) : String :=
  "IssueKind(id=" ++ quoted k.id ++ ", title=" ++ quoted k.title ++
    ", explanation=" ++ quoted k.explanation ++
    ", category=<Category." ++ k.category.name ++ ": " ++ quoted k.category.title ++ ">" ++
    ", priority=" ++ decimal k.priority ++
    ", severity=<Severity." ++ k.severity.name ++ ": " ++ decimal k.severity.rank ++ ">)"

end IssueKind

namespace Issue

def place (i : Issue) : String :=
  let here := decimal i.line ++ ":" ++ decimal i.col
  if i.path = "" then here else i.path ++ ":" ++ here

/-- A problem as a line of text. -/
def format (i : Issue) : String :=
  i.place ++ ": " ++ i.kind.severity.label ++ ": " ++ i.message ++ " [" ++ i.kind.id ++ "]"

/-- A problem as a record. -/
def record (i : Issue) : Json :=
  .obj
    [("id", .str i.kind.id), ("severity", .str i.kind.severity.label), ("path", .str i.path),
     ("line", .int i.line), ("col", .int i.col), ("message", .str i.message)]

/-- Everything about a problem, on one line. -/
def describe (i : Issue) : String :=
  "Issue(kind=" ++ i.kind.describe ++ ", line=" ++ decimal i.line ++ ", col=" ++ decimal i.col ++
    ", message=" ++ quoted i.message ++ ", path=" ++ quoted i.path ++ ")"

end Issue

namespace Catalog

def listingLines (k : IssueKind) : List String :=
  [k.id ++ " (" ++ k.category.title ++ ", " ++ k.severity.label ++ ", priority " ++
      decimal k.priority ++ ")",
   "    " ++ k.title]

/-- The catalog as a text, two lines a kind. -/
def listing : String := String.intercalate "\n" (kinds.flatMap listingLines)

end Catalog
end RoleNaming
