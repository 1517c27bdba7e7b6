/-
The texts by which the command explains itself.
-/

namespace RoleNaming
namespace Command

def programName : String := "namelint"

def versionLine : String := programName ++ " 0.1.0\n"

def usage : String :=
  "usage: namelint [-h] [--disable ID] [--enable-only ID] [--context-type FQN]\n" ++
  "                [--format \x7btext,json\x7d] [--list-issues] [-v] [--version]\n" ++
  "                [paths ...]\n"

def help : String :=
  usage ++
  "\n" ++
  "Flag Java methods and calls whose names disagree with their parameters.\n" ++
  "\n" ++
  "positional arguments:\n" ++
  "  paths                 Java files or directories to check\n" ++
  "\n" ++
  "options:\n" ++
  "  -h, --help            show this help message and exit\n" ++
  "  --disable ID          Do not report this issue id (repeatable)\n" ++
  "  --enable-only ID      Report only these issue ids (repeatable)\n" ++
  "  --context-type FQN    Fully qualified context type (default:\n" ++
  "                        android.content.Context)\n" ++
  "  --format \x7btext,json\x7d\n" ++
  "  --list-issues         List issue ids and exit\n" ++
  "  -v, --verbose         Debug logging\n" ++
  "  --version             show program's version number and exit\n"

/-- A complaint of the command itself. -/
def complaint (message : String) : String := programName ++ ": error: " ++ message ++ "\n"

end Command
end RoleNaming
