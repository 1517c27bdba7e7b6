/-
The command: from its words and the files to its output and exit status.
-/
import RoleNaming.Check.Files
import RoleNaming.Command.Options
import RoleNaming.Command.Usage
import RoleNaming.Json.Printer

namespace RoleNaming
namespace Command

open Files

/-- What a run of the command leaves behind. -/
structure Output where
  status : Nat
  stdout : String
  stderr : String
  deriving DecidableEq, Repr

namespace Status

def clean : Nat := 0

def issues : Nat := 1

def failure : Nat := 2

/-- A run that leaves an error behind and no output. -/
def aborted : Nat := 1

/-- Unread paths outweigh problems, and these outweigh silence. -/
def ofTally (t : Tally) : Nat :=
  if !t.failed.isEmpty then failure else if !t.issues.isEmpty then issues else clean

end Status

/-- The name under which the command itself writes to the log. -/
def channel : String := "namelint.cli"

def lines (ls : List String) : String := String.join (ls.map fun l => l ++ "\n")

/-- The problems in the chosen format. -/
def report (f : Format) (issues : List Issue) : String :=
  match f with
  | .text => lines (issues.map Issue.format)
  | .json => (Json.arr (issues.map Issue.record)).render ++ "\n"

/-- The log, from the level that the options ask for. -/
def log (verbose : Bool) (events : List Event) : String :=
  let least := if verbose then Level.debug else Level.warning
  lines ((events.filter fun e => least.rank ≤ e.level.rank).map Event.line)

/-- What a run that came to its end leaves behind. -/
def conclude (channel : String) (o : Options) (t : Tally) : Output :=
  let events := t.events ++ [.finished channel t.checked t.issues.length]
  ⟨Status.ofTally t, report o.format t.issues, log o.verbose events⟩

/-- The output of a command line that is refused. -/
def refuse (message : String) : Output := ⟨Status.failure, "", usage ++ complaint message⟩

/-- Check the files that the options name, under a configuration that may yet be
refused. -/
def checkWith (channel : String) (tree : Tree) (o : Options) (config : Config) :
    Except Error Output :=
  match Checker.make config with
  | .error e => .ok ⟨Status.failure, "", complaint e.message⟩
  | .ok ck =>
    match ck.checkPaths tree (o.paths.map Path.parse) with
    | .ok t => .ok (conclude channel o t)
    | .error e => .error e

/-- Check the files that the options name.  An identifier that is missing is
found before any that is unknown. -/
def check (channel : String) (tree : Tree) (o : Options) : Except Error Output := do
  let config ← o.config
  checkWith channel tree o config

/-- Do what the options ask for.  Listing the catalog comes before any complaint
about paths, and that before any about the configuration. -/
def perform (channel : String) (tree : Tree) (o : Options) : Except Error Output :=
  if o.listIssues then .ok ⟨Status.clean, Catalog.listing ++ "\n", ""⟩
  else if o.paths.isEmpty then .ok (refuse "no paths given")
  else check channel tree o

/-- Run the command over a tree of files.  An error is left only where a path holds a
NUL character, where it cannot be told what a path stands for, or where no configuration
can be formed. -/
def run (channel : String) (tree : Tree) (argv : List String) : Except Error Output :=
  match Options.parse argv with
  | .error .showHelp => .ok ⟨Status.clean, help, ""⟩
  | .error .showVersion => .ok ⟨Status.clean, versionLine, ""⟩
  | .error (.misuse e) => .ok (refuse e.message)
  | .ok o => perform channel tree o

end Command
end RoleNaming
