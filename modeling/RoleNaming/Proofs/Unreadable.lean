/-
Which paths stop a run, and what becomes of those that do not.

A missing file, a directory and a way through a file are noted, and the next path is
checked.  Two kinds of paths are another matter.  One with a NUL character cannot even be
looked for, and of one whose look-up fails otherwise, being too long or lacking a permission,
it cannot be told what it stands for.  Either fault takes the whole run with it, whatever has
been found until then (`Stops`).  `checkPaths_recorded` says that nothing else does.
-/
import RoleNaming.Proofs.Accounting

namespace RoleNaming

open Files

/-- The path ends a run, with the error. -/
inductive Stops (t : Tree) (s : String) : Error → Prop where
  | nul (h : nulFree s = false) : Stops t s .nulInPath
  | refused {e : Error} (h : Refused t (Path.parse s) e) : Stops t s e

namespace Checker

variable {ck : Checker} {t : Tree}

/-! ## Runs that end -/

theorem tallyPath_nul {p : Path} (hp : p.hasNul = true) :
    ck.tallyPath t p = .error .nulInPath := by
  have hfile : ck.checkFile t p = .error .nulInPath := by
    rw [checkFile, if_pos hp]
  rw [tallyPath, hfile]

theorem tallyFound_nul {p : Path} (hp : p.hasNul = true) :
    ck.tallyFound t p = .error .nulInPath := by
  rw [tallyFound, expand_of_hasNul hp]
  refine Tally.each_eq_error_iff.2 ⟨[], p, [], rfl, List.forall_mem_nil _, tallyPath_nul hp⟩

theorem tallyFound_eq_error_iff (ck : Checker) (ht : t.nulFree = true) {s : String} {e : Error} :
    ck.tallyFound t (Path.parse s) = .error e ↔ Stops t s e := by
  constructor
  · intro h
    cases hs : nulFree s with
    | false =>
      rw [tallyFound_nul (hasNul_parse_of_nul hs)] at h
      rw [← Except.error.inj h]
      exact .nul hs
    | true =>
      cases hexpand : t.expand (Path.parse s) with
      | error e' =>
        have hrefused := expand_eq_error_iff.1 hexpand
        rw [tallyFound_of_refused hrefused] at h
        rw [← Except.error.inj h]
        exact .refused hrefused
      | ok part =>
        obtain ⟨a, ha, -⟩ := exists_tallyFound ck ht (hasNul_parse hs) hexpand
        rw [ha] at h
        cases h
  · intro h
    cases h with
    | nul hs => exact tallyFound_nul (hasNul_parse_of_nul hs)
    | refused hrefused => exact tallyFound_of_refused hrefused

theorem exists_tallyFound_iff (ck : Checker) (ht : t.nulFree = true) {s : String} :
    (∃ a, ck.tallyFound t (Path.parse s) = .ok a) ↔ ∀ e, ¬Stops t s e := by
  simp only [← tallyFound_eq_error_iff ck ht]
  cases ck.tallyFound t (Path.parse s) <;> simp

/-- The first path that ends the run decides how. -/
theorem checkPaths_stops (ck : Checker) (ht : t.nulFree = true) {paths : List String}
    {e : Error} :
    ck.checkPaths t (paths.map Path.parse) = .error e ↔
      ∃ before s after, paths = before ++ s :: after ∧
        (∀ r ∈ before, ∀ e', ¬Stops t r e') ∧ Stops t s e := by
  rw [checkPaths, Tally.each_map, Tally.each_eq_error_iff]
  simp only [Function.comp_apply, tallyFound_eq_error_iff ck ht, exists_tallyFound_iff ck ht]

/-! ## Runs that do not -/

theorem not_stops_iff {s : String} :
    (∀ e, ¬Stops t s e) ↔ nulFree s = true ∧ ∃ part, t.expand (Path.parse s) = .ok part := by
  rw [exists_expand_iff]
  constructor
  · intro h
    refine ⟨?_, fun e hrefused => h e (.refused hrefused)⟩
    cases hs : nulFree s with
    | true => rfl
    | false => exact absurd (.nul hs) (h .nulInPath)
  · intro ⟨hs, hrefused⟩ e hstops
    cases hstops with
    | nul hnul => rw [hs] at hnul; cases hnul
    | refused h => exact hrefused e h

theorem exists_checkPaths_of_not_stops (ck : Checker) (ht : t.nulFree = true)
    {paths : List String} (h : ∀ s ∈ paths, ∀ e, ¬Stops t s e) :
    ∃ found a, t.discover (paths.map Path.parse) = .ok found ∧
      ck.checkPaths t (paths.map Path.parse) = .ok a ∧ Accounts ck t found a := by
  have hfound : ∃ found, t.discover (paths.map Path.parse) = .ok found := by
    rw [exists_discover_iff, List.forall_mem_map]
    exact fun s hs => exists_expand_iff.1 (not_stops_iff.1 (h s hs)).2
  have hfree := hasNul_of_mem_parse fun s hs => (not_stops_iff.1 (h s hs)).1
  obtain ⟨found, hfound⟩ := hfound
  obtain ⟨a, ha, haccounts⟩ := exists_checkPaths ck ht hfree hfound
  exact ⟨found, a, hfound, ha, haccounts⟩

/-- A path that leads to no directory stands for itself. -/
theorem mem_discover {ps found : List Path} (h : t.discover ps = .ok found) {p : Path}
    (hp : p ∈ ps) (hfile : ∀ d, t.find p = .ok d → d.isFile = true) : p ∈ found := by
  obtain ⟨parts, rfl, hparts⟩ := discover_eq_ok_iff.1 h
  clear h
  induction hparts with
  | nil => cases hp
  | cons hpart _ ih =>
    rw [List.flatten_cons, List.mem_append]
    cases List.mem_cons.1 hp with
    | inl hfirst =>
      subst hfirst
      rw [expand_other hfile hpart]
      exact Or.inl List.mem_cons_self
    | inr hrest => exact Or.inr (ih hrest)

theorem issues_infix {ps : List Path} {a : Tally} (h : Accounts ck t ps a) {p : Path}
    (hp : p ∈ ps) {src : Syntax.Source} (hread : t.read p = .ok src) :
    (ck.checkSource noFaults 0 src p.render).issues <:+: a.issues := by
  rw [h.issues, List.flatMap_def]
  apply List.infix_of_mem_flatten
  exact List.mem_map.2 ⟨(p, src), mem_sources.2 ⟨hp, hread⟩, rfl⟩

/-- A run ends without a result exactly where one of its paths ends it, the first of them.
Otherwise the problems of every file that can be read are in the result, those of one file
together, and so is every path that cannot be read. -/
theorem checkPaths_recorded (ck : Checker) (ht : t.nulFree = true) (paths : List String) :
    (∀ e, ck.checkPaths t (paths.map Path.parse) = .error e ↔
      ∃ before s after, paths = before ++ s :: after ∧
        (∀ r ∈ before, ∀ e', ¬Stops t r e') ∧ Stops t s e) ∧
    ((∀ s ∈ paths, ∀ e, ¬Stops t s e) →
      ∃ found a, t.discover (paths.map Path.parse) = .ok found ∧
        ck.checkPaths t (paths.map Path.parse) = .ok a ∧
        (∀ p ∈ found, ∀ src, t.read p = .ok src →
          (ck.checkSource noFaults 0 src p.render).issues <:+: a.issues) ∧
        (∀ p ∈ found, t.isReadable p = false → p ∈ a.failed) ∧
        ∀ s ∈ paths, (∀ d, t.find (Path.parse s) = .ok d → d.isFile = true) →
          Path.parse s ∈ found) := by
  refine ⟨fun e => checkPaths_stops ck ht, ?_⟩
  intro hstops
  obtain ⟨found, a, hfound, ha, haccounts⟩ := exists_checkPaths_of_not_stops ck ht hstops
  refine ⟨found, a, hfound, ha, ?_, ?_, ?_⟩
  · intro p hp src hread
    exact issues_infix haccounts hp hread
  · intro p hp hunreadable
    rw [haccounts.failed, List.mem_filter, hunreadable]
    exact ⟨hp, rfl⟩
  · intro s hs hfile
    exact mem_discover hfound (List.mem_map_of_mem hs) hfile

/-! ### A file with problems, a path to nothing and a path with NUL -/

namespace Broken

def missing : List String := ["B.java", "A.java"]

def found : List Path := [⟨.here, ["B.java"]⟩, ⟨.here, ["A.java"]⟩]

/-- The path `B.java` with a NUL character behind it. -/
def nul : String := String.ofList ("B.java".toList ++ [Char.ofNat 0])

theorem discover_missing : Overlong.tree.discover (missing.map Path.parse) = .ok found := by
  decide +kernel

theorem not_stops : ∀ s ∈ missing, ∀ e, ¬Stops Overlong.tree s e := by
  have hmissing : ∀ e, ¬Stops Overlong.tree "B.java" e :=
    not_stops_iff.2 ⟨by decide, [⟨.here, ["B.java"]⟩], by decide +kernel⟩
  have hfile : ∀ e, ¬Stops Overlong.tree "A.java" e :=
    not_stops_iff.2 ⟨by decide, [⟨.here, ["A.java"]⟩], by decide +kernel⟩
  exact List.forall_mem_cons.2 ⟨hmissing, List.forall_mem_singleton.2 hfile⟩

end Broken

theorem checkPaths_recorded_missing :
    Overlong.tree.nulFree = true ∧ (∀ s ∈ Broken.missing, ∀ e, ¬Stops Overlong.tree s e) ∧
      ∃ a, Calls.checker.checkPaths Overlong.tree (Broken.missing.map Path.parse) = .ok a ∧
        (Calls.checker.checkSource noFaults 0 Calls.source "A.java").issues <:+: a.issues ∧
        ⟨.here, ["B.java"]⟩ ∈ a.failed := by
  obtain ⟨found, a, hfound, ha, hissues, hfailed, -⟩ :=
    (checkPaths_recorded (t := Overlong.tree) Calls.checker rfl Broken.missing).2 Broken.not_stops
  obtain rfl : Broken.found = found := Except.ok.inj (Broken.discover_missing.symm.trans hfound)
  refine ⟨rfl, Broken.not_stops, a, ha, ?_, ?_⟩
  · exact hissues ⟨.here, ["A.java"]⟩ (by simp [Broken.found]) Calls.source rfl
  · exact hfailed ⟨.here, ["B.java"]⟩ (by simp [Broken.found]) rfl

/-- The file `A.java` can be read and has problems.  With a NUL character in the path after
it, the run returns none of them and notes nothing. -/
theorem nul_path_ends_run :
    Overlong.tree.read (Path.parse "A.java") = .ok Calls.source ∧
      (Calls.checker.checkSource noFaults 0 Calls.source "A.java").issues ≠ [] ∧
      ∃ e, Calls.checker.checkPaths Overlong.tree (["A.java", Broken.nul].map Path.parse) =
        .error e := by
  refine ⟨Overlong.read_file, by decide +kernel, .nulInPath, ?_⟩
  have hfile := Broken.not_stops "A.java" (by decide)
  exact (checkPaths_stops Calls.checker rfl).2
    ⟨["A.java"], Broken.nul, [], rfl, List.forall_mem_singleton.2 hfile, .nul (by decide +kernel)⟩

end Checker
end RoleNaming
