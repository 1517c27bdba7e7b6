/-
Kinds of problems and the single problems reported.
-/
import RoleNaming.Error
import RoleNaming.Syntax.Node

namespace RoleNaming

/-- Severities, the mildest first. -/
inductive Severity where
  | ignore
  | informational
  | warning
  | error
  | fatal
  deriving DecidableEq, Repr

namespace Severity

def all : List Severity := [.ignore, .informational, .warning, .error, .fatal]

def rank : Severity → Nat
  | .ignore => 0
  | .informational => 1
  | .warning => 2
  | .error => 3
  | .fatal => 4

def label : Severity → String
  | .ignore => "ignore"
  | .informational => "informational"
  | .warning => "warning"
  | .error => "error"
  | .fatal => "fatal"

def name : Severity → String
  | .ignore => "IGNORE"
  | .informational => "INFORMATIONAL"
  | .warning => "WARNING"
  | .error => "ERROR"
  | .fatal => "FATAL"

/-- The severities below the given one, the mildest first. -/
def milder (s : Severity) : List Severity := all.filter fun t => t.rank < s.rank

end Severity

inductive Category where
  | correctness
  | usability
  | performance
  | security
  deriving DecidableEq, Repr

namespace Category

def all : List Category := [.correctness, .usability, .performance, .security]

def title : Category → String
  | .correctness => "Correctness"
  | .usability => "Usability"
  | .performance => "Performance"
  | .security => "Security"

def name : Category → String
  | .correctness => "CORRECTNESS"
  | .usability => "USABILITY"
  | .performance => "PERFORMANCE"
  | .security => "SECURITY"

end Category

/-- A kind of problem.  The priority lies between one and ten, by construction. -/
structure IssueKind where
  id : String
  title : String
  explanation : String
  category : Category
  priority : Int
  severity : Severity
  one_le_priority : 1 ≤ priority := by decide
  priority_le_ten : priority ≤ 10 := by decide
  deriving DecidableEq, Repr

namespace IssueKind

/-- A kind with the given priority, when that is one. -/
def make (id title explanation : String) (category : Category) (priority : Int)
    (severity : Severity) : Except Error IssueKind :=
  if h : 1 ≤ priority ∧ priority ≤ 10 then
    .ok ⟨id, title, explanation, category, priority, severity, h.1, h.2⟩
  else
    .error (.priorityOutOfRange priority)

end IssueKind

/-- A problem at a place.  Lines and columns are one-based; an empty path stands
for a source without a file. -/
structure Issue where
  kind : IssueKind
  line : Int
  col : Int
  message : String
  path : String
  deriving DecidableEq, Repr

namespace Issue

def id (i : Issue) : String := i.kind.id

/-- A problem at the start of a node. -/
def atNode (kind : IssueKind) (n : Syntax.Node) (message path : String) : Issue :=
  ⟨kind, n.label.row + 1, n.label.col + 1, message, path⟩

end Issue
end RoleNaming
