/-
A visit that breaks down costs its own place and nothing else.

A session checks sources one after the other.  Its loop leaves out the nodes that
no rule looks at, skips the visits that break down, drops the problems that are not
enabled, counts the visits on from source to source and writes the log, all in one
pass.  `checkSources_isolated` takes these apart: the visits are numbered by the
trees alone, what a source yields is read off all its nodes in preorder, and the log
has one line for each skipped visit and for each problem returned.
-/
import RoleNaming.Check.Source
import RoleNaming.Proofs.Tree

namespace RoleNaming

open Syntax Rule

/-! ## Numbers of visits -/

/-- Whether a rule looks at nodes of this sort. -/
def isVisited (n : Node) : Bool :=
  ["method_declaration", "constructor_declaration", "method_invocation",
    "object_creation_expression", "explicit_constructor_invocation"].contains n.kind

/-- Every site with the number of its visit, if it has one.  The first visit gets the
number `k`. -/
def numbered (k : Nat) : List Site → List (Site × Option Nat)
  | [] => []
  | s :: rest =>
    if isVisited s.node then (s, some k) :: numbered (k + 1) rest else (s, none) :: numbered k rest

def visitCount (root : Node) : Nat := (root.sites []).countP fun s => isVisited s.node

/-- The visits of a session before its source number `i`. -/
def visitsBefore (steps : List (Source × String)) (i : Nat) : Nat :=
  ((steps.take i).flatMap fun step => step.1.root.sites []).countP fun s => isVisited s.node

theorem visitsBefore_zero (steps : List (Source × String)) : visitsBefore steps 0 = 0 := by
  rw [visitsBefore, List.take_zero]
  rfl

theorem visitsBefore_succ (step : Source × String) (steps : List (Source × String)) (i : Nat) :
    visitsBefore (step :: steps) (i + 1) = visitCount step.1.root + visitsBefore steps i := by
  rw [visitsBefore, List.take_succ_cons, List.flatMap_cons, List.countP_append]
  rfl

theorem isVisited_eq (n : Node) :
    isVisited n = (View.methodKinds.contains n.kind || View.callKinds.contains n.kind) := by
  show (View.methodKinds ++ View.callKinds).contains n.kind = _
  exact List.contains_append

theorem isNone_ofKind? (n : Node) : (Subject.ofKind? n.kind).isNone = !isVisited n := by
  rw [isVisited_eq, Subject.ofKind?, Subject.all, List.find?_cons, List.find?_cons]
  show Option.isNone (match View.methodKinds.contains n.kind with
    | true => _
    | false => match View.callKinds.contains n.kind with | true => _ | false => _) = _
  cases View.methodKinds.contains n.kind <;> cases View.callKinds.contains n.kind <;> rfl

theorem visit_eq_nil {s : Site} (h : isVisited s.node = false) (f : FileView)
    (contextType : String) : visit f contextType s = [] := by
  rw [isVisited_eq, Bool.or_eq_false_iff] at h
  have hmethod : View.Method.ofNode? f.bytes s.node = none := by
    rw [View.Method.ofNode?, h.1]
    rfl
  have hcall : View.Call.ofSite? f.bytes s = none := by
    rw [View.Call.ofSite?, h.2]
    rfl
  rw [visit, findings, hmethod, hcall]
  rfl

/-! ## One site -/

/-- What the rules find at a numbered site.  A visit that breaks down finds
nothing. -/
def foundAt (f : FileView) (contextType : String) (faulty : Nat → Bool)
    (p : Site × Option Nat) : List Issue :=
  if p.2.any faulty then [] else visit f contextType p.1

def skippingLine (path : String) (n : Node) : String :=
  "WARNING namelint.checker: skipping " ++ n.kind ++ " at " ++
    (if path = "" then "<source>" else path) ++ ":" ++ Text.decimal (n.label.row + 1)

def namingLine (i : Issue) : String := "DEBUG namelint.checker: naming: " ++ i.describe

def damagedLine (path : String) : String :=
  "DEBUG namelint.checker: syntax errors in " ++ (if path = "" then "<source>" else path) ++
    ", checking what parsed"

/-- The lines of the log that a numbered site causes. -/
def linesAt (c : Config) (f : FileView) (faulty : Nat → Bool) (p : Site × Option Nat) :
    List String :=
  if p.2.any faulty then [skippingLine f.path p.1.node]
  else ((visit f c.contextType p.1).filter fun i => c.isEnabled i.id).map namingLine

theorem line_skipped (path : String) (n : Node) :
    (Event.skipped n.kind path (n.label.row + 1)).line = skippingLine path n := by
  have h : "WARNING" ++ " " ++ "namelint.checker" ++ ": " ++ "skipping " =
      "WARNING namelint.checker: skipping " := rfl
  show "WARNING" ++ " " ++ "namelint.checker" ++ ": " ++
    ("skipping " ++ n.kind ++ " at " ++ Event.sourceName path ++ ":" ++
      Text.decimal (n.label.row + 1)) = _
  simp only [← String.append_assoc]
  rw [h]
  rfl

theorem line_reported (i : Issue) : (Event.reported i).line = namingLine i := by
  have h : "DEBUG" ++ " " ++ "namelint.checker" ++ ": " ++ "naming: " =
      "DEBUG namelint.checker: naming: " := rfl
  show "DEBUG" ++ " " ++ "namelint.checker" ++ ": " ++ ("naming: " ++ i.describe) = _
  rw [← String.append_assoc, h]
  rfl

theorem line_damaged (path : String) : (Event.damaged path).line = damagedLine path := by
  have h : "DEBUG" ++ " " ++ "namelint.checker" ++ ": " ++ "syntax errors in " =
      "DEBUG namelint.checker: syntax errors in " := rfl
  show "DEBUG" ++ " " ++ "namelint.checker" ++ ": " ++
    ("syntax errors in " ++ Event.sourceName path ++ ", checking what parsed") = _
  simp only [← String.append_assoc]
  rw [h]
  rfl

/-! ## One source -/

theorem numbered_cons_unvisited {s : Site} (h : isVisited s.node = false) (k : Nat)
    (rest : List Site) : numbered k (s :: rest) = (s, none) :: numbered k rest := by
  rw [numbered, h]
  rfl

theorem numbered_cons_visited {s : Site} (h : isVisited s.node = true) (k : Nat)
    (rest : List Site) : numbered k (s :: rest) = (s, some k) :: numbered (k + 1) rest := by
  rw [numbered, if_pos h]

namespace Checker

/- The three parts of an outcome, each read off the numbered sites.  The cases are
those of the loop: no site is left, no rule looks at the site, its visit breaks down,
or it does not. -/

theorem issues_visitAll (ck : Checker) (faulty : Nat → Bool) (f : FileView) (k : Nat)
    (sites : List Site) :
    (ck.visitAll faulty f k sites).issues =
      ((numbered k sites).flatMap (foundAt f ck.config.contextType faulty)).filter fun i =>
        ck.config.isEnabled i.id := by
  fun_induction visitAll ck faulty f k sites with
  | case1 k => rfl
  | case2 k s rest hnone ih =>
    have hv : isVisited s.node = false := by simpa [isNone_ofKind?] using hnone
    rw [ih, numbered_cons_unvisited hv, List.flatMap_cons, foundAt, visit_eq_nil hv]
    rfl
  | case3 k s rest hsome later hk skip ih =>
    have hv : isVisited s.node = true := by simpa [isNone_ofKind?] using hsome
    rw [numbered_cons_visited hv, List.flatMap_cons, foundAt, Option.any_some, if_pos hk]
    exact ih
  | case4 k s rest hsome later hk found ih =>
    have hv : isVisited s.node = true := by simpa [isNone_ofKind?] using hsome
    rw [numbered_cons_visited hv, List.flatMap_cons, foundAt, Option.any_some, if_neg hk,
      List.filter_append, ← ih]
    rfl

theorem lines_visitAll (ck : Checker) (faulty : Nat → Bool) (f : FileView) (k : Nat)
    (sites : List Site) :
    (ck.visitAll faulty f k sites).events.map Event.line =
      (numbered k sites).flatMap (linesAt ck.config f faulty) := by
  fun_induction visitAll ck faulty f k sites with
  | case1 k => rfl
  | case2 k s rest hnone ih =>
    have hv : isVisited s.node = false := by simpa [isNone_ofKind?] using hnone
    rw [ih, numbered_cons_unvisited hv, List.flatMap_cons, linesAt, visit_eq_nil hv]
    rfl
  | case3 k s rest hsome later hk skip ih =>
    have hv : isVisited s.node = true := by simpa [isNone_ofKind?] using hsome
    rw [numbered_cons_visited hv, List.flatMap_cons, linesAt, Option.any_some, if_pos hk, ← ih,
      List.map_cons, line_skipped]
    rfl
  | case4 k s rest hsome later hk found ih =>
    have hv : isVisited s.node = true := by simpa [isNone_ofKind?] using hsome
    have hline : Event.line ∘ Event.reported = namingLine := funext line_reported
    rw [numbered_cons_visited hv, List.flatMap_cons, linesAt, Option.any_some, if_neg hk, ← ih,
      List.map_append, List.map_map, hline]
    rfl

/-- The count of the visits takes no notice of faults and settings. -/
theorem visits_visitAll (ck : Checker) (faulty : Nat → Bool) (f : FileView) (k : Nat)
    (sites : List Site) :
    (ck.visitAll faulty f k sites).visits = k + sites.countP fun s => isVisited s.node := by
  fun_induction visitAll ck faulty f k sites with
  | case1 k => rfl
  | case2 k s rest hnone ih =>
    have hv : isVisited s.node = false := by simpa [isNone_ofKind?] using hnone
    rw [ih, List.countP_cons, hv]
    rfl
  | case3 k s rest hsome later hk skip ih =>
    have hv : isVisited s.node = true := by simpa [isNone_ofKind?] using hsome
    rw [List.countP_cons, if_pos hv]
    show (visitAll ck faulty f (k + 1) rest).visits = _
    omega
  | case4 k s rest hsome later hk found ih =>
    have hv : isVisited s.node = true := by simpa [isNone_ofKind?] using hsome
    rw [List.countP_cons, if_pos hv]
    show (visitAll ck faulty f (k + 1) rest).visits = _
    omega

/-- What checking one source comes to, over all its nodes in preorder. -/
theorem checkSource_isolated (ck : Checker) (faulty : Nat → Bool) (k : Nat) (src : Source)
    (path : String) :
    let visits := numbered k (src.root.sites [])
    let f := FileView.ofSource src path
    let done := ck.checkSource faulty k src path
    done.issues =
        ((visits.flatMap (foundAt f ck.config.contextType faulty)).filter fun i =>
          ck.config.isEnabled i.id) ∧
      done.events.map Event.line =
        (if src.hasError then [damagedLine path] else []) ++
          visits.flatMap (linesAt ck.config f faulty) ∧
      done.visits = k + visitCount src.root := by
  intro visits f done
  have hsites : src.sites = src.root.sites [] := Site.walk_top src.root
  have hissues := issues_visitAll ck faulty f k src.sites
  have hlines := lines_visitAll ck faulty f k src.sites
  have hvisits := visits_visitAll ck faulty f k src.sites
  rw [hsites] at hissues hlines hvisits
  simp only [done, checkSource, hsites]
  by_cases herror : src.hasError = true
  · rw [if_pos herror, if_pos herror]
    refine ⟨hissues, ?_, hvisits⟩
    rw [List.map_cons, line_damaged]
    exact congrArg _ hlines
  · rw [if_neg herror, if_neg herror]
    exact ⟨hissues, hlines, hvisits⟩

/-- What a session makes of each source, its number of visits included. -/
theorem getElem?_checkSources (ck : Checker) (faulty : Nat → Bool) (k : Nat)
    (steps : List (Source × String)) (i : Nat) :
    (ck.checkSources faulty k steps)[i]? =
      steps[i]?.map fun step =>
        ck.checkSource faulty (k + visitsBefore steps i) step.1 step.2 := by
  induction steps generalizing k i with
  | nil => rfl
  | cons step steps ih =>
    obtain ⟨src, path⟩ := step
    rw [checkSources]
    cases i with
    | zero => simp [visitsBefore_zero]
    | succ i =>
      have hvisits := (checkSource_isolated ck faulty k src path).2.2
      rw [List.getElem?_cons_succ, List.getElem?_cons_succ, ih, hvisits, visitsBefore_succ,
        Nat.add_assoc]

/-- A session returns for each source what the rules find at all its nodes in
preorder, less what is not enabled and less the visits that break down; it logs each
of these and each problem returned, in the order of the nodes.  The numbers of the
visits come from the trees alone: neither the faults nor the settings move them. -/
theorem checkSources_isolated (ck : Checker) (faulty : Nat → Bool)
    (steps : List (Source × String)) (i : Nat) :
    ((ck.checkSources faulty 0 steps)[i]?.map fun done =>
        (done.issues, done.events.map Event.line, done.visits)) =
      steps[i]?.map fun step =>
        let visits := numbered (visitsBefore steps i) (step.1.root.sites [])
        let f := FileView.ofSource step.1 step.2
        ((visits.flatMap (foundAt f ck.config.contextType faulty)).filter fun i =>
            ck.config.isEnabled i.id,
          (if step.1.hasError then [damagedLine step.2] else []) ++
            visits.flatMap (linesAt ck.config f faulty),
          visitsBefore steps (i + 1)) := by
  rw [getElem?_checkSources, Option.map_map]
  cases hstep : steps[i]? with
  | none => rfl
  | some step =>
    obtain ⟨hissues, hlines, hvisits⟩ :=
      checkSource_isolated ck faulty (visitsBefore steps i) step.1 step.2
    have hnext : visitsBefore steps (i + 1) = visitsBefore steps i + visitCount step.1.root := by
      rw [visitsBefore, List.take_add_one, hstep, List.flatMap_append, List.countP_append,
        Option.toList_some, List.flatMap_singleton]
      rfl
    simp only [Option.map_some, Function.comp_apply, Nat.zero_add, hissues, hlines, hvisits, hnext]

end Checker
end RoleNaming
