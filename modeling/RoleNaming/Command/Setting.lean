/-
The options of the command line: how they are spelled and whether a value
follows.
-/
import RoleNaming.Text.Quoted

namespace RoleNaming
namespace Command

inductive Setting where
  | help
  | disable
  | enableOnly
  | contextType
  | format
  | listIssues
  | verbose
  | version
  deriving DecidableEq, Repr

namespace Setting

def all : List Setting :=
  [.help, .disable, .enableOnly, .contextType, .format, .listIssues, .verbose, .version]

def spellings : Setting → List String
  | .help => ["-h", "--help"]
  | .disable => ["--disable"]
  | .enableOnly => ["--enable-only"]
  | .contextType => ["--context-type"]
  | .format => ["--format"]
  | .listIssues => ["--list-issues"]
  | .verbose => ["-v", "--verbose"]
  | .version => ["--version"]

def takesValue : Setting → Bool
  | .disable | .enableOnly | .contextType | .format => true
  | .help | .listIssues | .verbose | .version => false

/-- All spellings of an option, as messages name it. -/
def title (s : Setting) : String := String.intercalate "/" s.spellings

/-- Every spelling with its option, in the order of the help text. -/
def table : List (String × Setting) := all.flatMap fun s => s.spellings.map fun w => (w, s)

def ofSpelling? (w : String) : Option Setting := table.lookup w

end Setting

/-- What can be wrong with a command line. -/
inductive UsageError where
  | ambiguous (word : String) (candidates : List String)
  | valueMissing (setting : Setting)
  | valueUnexpected (setting : Setting) (value : String)
  | badFormat (value : String)
  | unrecognized (words : List String)
  deriving DecidableEq, Repr

namespace UsageError

def message : UsageError → String
  | .ambiguous word candidates =>
    "ambiguous option: " ++ word ++ " could match " ++ String.intercalate ", " candidates
  | .valueMissing s => "argument " ++ s.title ++ ": expected one argument"
  | .valueUnexpected s value =>
    "argument " ++ s.title ++ ": ignored explicit argument " ++ Text.quoted value
  | .badFormat value =>
    "argument --format: invalid choice: " ++ Text.quoted value ++
      " (choose from 'text', 'json')"
  | .unrecognized words => "unrecognized arguments: " ++ String.intercalate " " words

end UsageError
end Command
end RoleNaming
