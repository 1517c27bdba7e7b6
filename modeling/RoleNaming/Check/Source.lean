/-
Checking one source: every place that the rules look at is visited in source
order, and what is found is kept when its kind is enabled.  A visit that breaks
down costs its own place and nothing else.
-/
import RoleNaming.Check.Event
import RoleNaming.Config
import RoleNaming.Rule.Visit

namespace RoleNaming

open Syntax Rule

/-- A configuration that has been found valid. -/
structure Checker where
  config : Config
  valid : config.validate = .ok ()

namespace Checker

def make (c : Config) : Except Error Checker :=
  match h : c.validate with
  | .ok () => .ok ⟨c, h⟩
  | .error e => .error e

end Checker

/-- What comes of a run of visits.  Visits are numbered from zero on, over all
the sources of a session; `visits` is the number of the next one. -/
structure Outcome where
  issues : List Issue
  events : List Event
  visits : Nat

namespace Checker

/-- The problems of one visit that are to be reported. -/
def report (ck : Checker) (f : FileView) (s : Site) : List Issue :=
  (visit f ck.config.contextType s).filter fun i => ck.config.isEnabled i.id

/-- Visit the sites in order, the first with number `k`.  `faulty` tells which
visits break down. -/
def visitAll (ck : Checker) (faulty : Nat → Bool) (f : FileView) : Nat → List Site → Outcome
  | k, [] => ⟨[], [], k⟩
  | k, s :: rest =>
    if (Subject.ofKind? s.node.kind).isNone then visitAll ck faulty f k rest
    else
      let later := visitAll ck faulty f (k + 1) rest
      if faulty k then
        let skip := .skipped s.node.kind f.path (s.node.label.row + 1)
        { later with events := skip :: later.events }
      else
        let found := ck.report f s
        ⟨found ++ later.issues, found.map .reported ++ later.events, later.visits⟩

/-- Check one source, the first visit with number `k`. -/
def checkSource (ck : Checker) (faulty : Nat → Bool) (k : Nat) (src : Source) (path : String) :
    Outcome :=
  let done := visitAll ck faulty (FileView.ofSource src path) k src.sites
  if src.hasError then { done with events := .damaged path :: done.events } else done

/-- Check sources one after the other; the numbers of the visits run on. -/
def checkSources (ck : Checker) (faulty : Nat → Bool) : Nat → List (Source × String) → List Outcome
  | _, [] => []
  | k, (src, path) :: rest =>
    let done := ck.checkSource faulty k src path
    done :: checkSources ck faulty done.visits rest

end Checker
end RoleNaming
