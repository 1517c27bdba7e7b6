/-
Checking files.  A file that cannot be read is noted and the next one is
checked.
-/
import RoleNaming.Check.Source
import RoleNaming.Files.Discovery

namespace RoleNaming

open Files

/-- What comes of checking files. -/
structure Tally where
  issues : List Issue
  failed : List Path
  checked : Nat
  events : List Event

namespace Tally

def empty : Tally := ⟨[], [], 0, []⟩

/-- One run after the other. -/
def append (a b : Tally) : Tally :=
  ⟨a.issues ++ b.issues, a.failed ++ b.failed, a.checked + b.checked, a.events ++ b.events⟩

def concat (tallies : List Tally) : Tally := tallies.foldr append empty

/-- Tally one thing after the other, up to the first for which there is no tally. -/
def each {α : Type} (tally : α → Except Error Tally) (xs : List α) : Except Error Tally := do
  return concat (← xs.mapM tally)

end Tally

namespace Checker

/-- No visit breaks down. -/
def noFaults : Nat → Bool := fun _ => false

/-- The outcome of checking a source read from a path. -/
def checkRead (ck : Checker) (src : Syntax.Source) (p : Path) : Outcome :=
  let done := ck.checkSource noFaults 0 src p.render
  { done with events := .reading p.render :: done.events }

/-- Check the file at a path. -/
def checkFile (ck : Checker) (t : Tree) (p : Path) : Except Error Outcome :=
  if p.hasNul then .error .nulInPath
  else
    match t.read p with
    | .ok src => .ok (ck.checkRead src p)
    | .error why => .error (.unreadable p.render why)

/-- Check one path of many: a fault in reading it becomes part of the tally. -/
def tallyPath (ck : Checker) (t : Tree) (p : Path) : Except Error Tally :=
  match ck.checkFile t p with
  | .ok done => .ok ⟨done.issues, [], 1, done.events⟩
  | .error (.unreadable path why) => .ok ⟨[], [p], 0, [.unreadable path why]⟩
  | .error e => .error e

/-- Check all that one path of many stands for. -/
def tallyFound (ck : Checker) (t : Tree) (p : Path) : Except Error Tally := do
  Tally.each (ck.tallyPath t) (← t.expand p)

/-- Check all that a list of paths stands for.  What a path stands for is asked only
after the paths before it have been checked. -/
def checkPaths (ck : Checker) (t : Tree) (paths : List Path) : Except Error Tally :=
  Tally.each (ck.tallyFound t) paths

end Checker
end RoleNaming
