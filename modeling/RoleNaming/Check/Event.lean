/-
What a run says of itself while it goes on.  Events are kept as data and put
into words only where they are shown.
-/
import RoleNaming.Issue.Report

namespace RoleNaming

inductive Level where
  | debug
  | warning
  | error
  deriving DecidableEq, Repr

namespace Level

def rank : Level → Nat
  | .debug => 0
  | .warning => 1
  | .error => 2

def name : Level → String
  | .debug => "DEBUG"
  | .warning => "WARNING"
  | .error => "ERROR"

end Level

inductive Event where
  /-- The parser could not make sense of all of the source. -/
  | damaged (path : String)
  /-- A visit broke down and its place was left out. -/
  | skipped (kind : String) (path : String) (line : Nat)
  | reported (issue : Issue)
  | reading (path : String)
  | unreadable (path : String) (why : ReadFault)
  /-- The end of a run, told by the program of the given name. -/
  | finished (channel : String) (files : Nat) (issues : Nat)
  deriving DecidableEq, Repr

namespace Event

def checkerChannel : String := "namelint.checker"

def channel : Event → String
  | .finished channel _ _ => channel
  | _ => checkerChannel

def level : Event → Level
  | .skipped .. => .warning
  | .unreadable .. => .error
  | _ => .debug

/-- How a source without a file is called. -/
def sourceName (path : String) : String := if path = "" then "<source>" else path

def message : Event → String
  | .damaged path => "syntax errors in " ++ sourceName path ++ ", checking what parsed"
  | .skipped kind path line =>
    "skipping " ++ kind ++ " at " ++ sourceName path ++ ":" ++ Text.decimal line
  | .reported issue => "naming: " ++ issue.describe
  | .reading path => "parse sourcefile " ++ path
  | .unreadable path why => (Error.unreadable path why).message
  | .finished _ files issues =>
    "checked " ++ Text.decimal files ++ " files, " ++ Text.decimal issues ++ " issues"

/-- An event as a line of the log. -/
def line (e : Event) : String := e.level.name ++ " " ++ e.channel ++ ": " ++ e.message

end Event
end RoleNaming
