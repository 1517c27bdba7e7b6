/-
No path is lost and none is counted twice.

A run over paths expands directories, reads what it finds and keeps three records: the
problems, the paths that cannot be read and the number of files checked.
`checkPaths_accounts` says that they add up to what the paths stand for, in order, and that
the run over two lists of paths is the run over the first followed by the run over the
second.

There is one gap.  Where it cannot be told what a path stands for, the fault ends the run and
takes all records with it: `long_name_ends_run` shows it for a name that is too long.
-/
import RoleNaming.Check.Files
import RoleNaming.Proofs.NulFree
import RoleNaming.Proofs.SourceOrder

namespace RoleNaming
namespace Files

/-- Those of the paths that can be read, with what is read there. -/
def Tree.sources (t : Tree) (ps : List Path) : List (Path × Syntax.Source) :=
  ps.filterMap fun p => (t.read p).toOption.map fun src => (p, src)

theorem mem_sources {t : Tree} {ps : List Path} {p : Path} {src : Syntax.Source} :
    (p, src) ∈ t.sources ps ↔ p ∈ ps ∧ t.read p = .ok src := by
  rw [Tree.sources, List.mem_filterMap]
  constructor
  · intro ⟨q, hq, hsource⟩
    obtain ⟨src', hread, hpair⟩ := Option.map_eq_some_iff.1 hsource
    obtain ⟨rfl, rfl⟩ := Prod.mk.inj hpair
    refine ⟨hq, ?_⟩
    cases hfile : t.read q with
    | ok found =>
      rw [hfile] at hread
      exact congrArg _ (Option.some.inj hread)
    | error why =>
      rw [hfile] at hread
      cases hread
  · intro ⟨hp, hread⟩
    refine ⟨p, hp, ?_⟩
    rw [hread]
    rfl

def Tree.isReadable (t : Tree) (p : Path) : Bool := (t.read p).isOk

end Files

open Files

/-! ## Runs one after the other -/

namespace Tally

theorem empty_append (a : Tally) : empty.append a = a := by
  simp [append, empty]

theorem append_assoc (a b c : Tally) : (a.append b).append c = a.append (b.append c) := by
  simp [append, Nat.add_assoc]

theorem concat_append (as bs : List Tally) :
    concat (as ++ bs) = (concat as).append (concat bs) := by
  induction as with
  | nil => exact (empty_append _).symm
  | cons a as ih =>
    show a.append (concat (as ++ bs)) = _
    rw [ih, ← append_assoc]
    rfl

section

variable {α : Type} {f : α → Except Error Tally}

theorem each_append (xs ys : List α) :
    each f (xs ++ ys) = do
      let a ← each f xs
      let b ← each f ys
      return a.append b := by
  simp only [each, List.mapM_append]
  cases xs.mapM f with
  | error e => rfl
  | ok as =>
    cases ys.mapM f with
    | error e => rfl
    | ok bs => exact congrArg Except.ok (concat_append as bs)

theorem each_map {β : Type} (g : β → α) (xs : List β) : each f (xs.map g) = each (f ∘ g) xs := by
  rw [each, List.mapM_map]
  rfl

theorem each_cons {x : α} {xs : List α} {a b : Tally} (ha : f x = .ok a)
    (hb : each f xs = .ok b) : each f (x :: xs) = .ok (a.append b) := by
  unfold each at hb ⊢
  rw [List.mapM_cons, ha]
  cases hxs : xs.mapM f with
  | error e =>
    rw [hxs] at hb
    cases hb
  | ok bs =>
    rw [hxs] at hb
    rw [← Except.ok.inj hb]
    rfl

theorem each_eq_error_iff {xs : List α} {e : Error} :
    each f xs = .error e ↔ ∃ before x after, xs = before ++ x :: after ∧
      (∀ y ∈ before, ∃ a, f y = .ok a) ∧ f x = .error e := by
  simp only [each, bind_eq_error_iff, pure_ne_error, and_false, exists_false, or_false,
    mapM_eq_error_iff]

end

end Tally

namespace Checker

variable {ck : Checker} {t : Tree}

theorem checkPaths_append (ck : Checker) (t : Tree) (ps qs : List Path) :
    ck.checkPaths t (ps ++ qs) = do
      let a ← ck.checkPaths t ps
      let b ← ck.checkPaths t qs
      return a.append b :=
  Tally.each_append ps qs

/-! ## The records of a run -/

theorem tallyPath_readable {p : Path} (hp : p.hasNul = false) {src : Syntax.Source}
    (h : t.read p = .ok src) :
    ck.tallyPath t p =
      .ok ⟨(ck.checkSource noFaults 0 src p.render).issues, [], 1,
        (ck.checkRead src p).events⟩ := by
  have hfile : ck.checkFile t p = .ok (ck.checkRead src p) := by
    rw [checkFile, hp, h]
    rfl
  rw [tallyPath, hfile]
  rfl

theorem tallyPath_unreadable {p : Path} (hp : p.hasNul = false) {why : ReadFault}
    (h : t.read p = .error why) :
    ck.tallyPath t p = .ok ⟨[], [p], 0, [.unreadable p.render why]⟩ := by
  have hfile : ck.checkFile t p = .error (.unreadable p.render why) := by
    rw [checkFile, hp, h]
    rfl
  rw [tallyPath, hfile]

/-- The records of a run over the paths `ps`: every path is checked or has failed, those have
failed that cannot be read, and the problems are those of the others, path after path. -/
structure Accounts (ck : Checker) (t : Tree) (ps : List Path) (a : Tally) : Prop where
  count : a.checked + a.failed.length = ps.length
  failed : a.failed = ps.filter fun p => !t.isReadable p
  issues : a.issues =
    (t.sources ps).flatMap fun s => (ck.checkSource noFaults 0 s.2 s.1.render).issues
  silent : ∀ p ∈ a.failed, ∃ b, ck.tallyPath t p = .ok b ∧ b.issues = []

theorem accounts_nil : Accounts ck t [] .empty :=
  ⟨rfl, rfl, rfl, fun _ hp => absurd hp List.not_mem_nil⟩

theorem Accounts.append {ps qs : List Path} {a b : Tally} (ha : Accounts ck t ps a)
    (hb : Accounts ck t qs b) : Accounts ck t (ps ++ qs) (a.append b) := by
  refine ⟨?_, ?_, ?_, ?_⟩
  · have hcount := ha.count
    have hcount' := hb.count
    simp only [Tally.append, List.length_append]
    omega
  · show a.failed ++ b.failed = _
    rw [ha.failed, hb.failed, List.filter_append]
  · show a.issues ++ b.issues = _
    have hsources : t.sources (ps ++ qs) = t.sources ps ++ t.sources qs := List.filterMap_append
    rw [ha.issues, hb.issues, hsources, List.flatMap_append]
  · exact List.forall_mem_append.2 ⟨ha.silent, hb.silent⟩

/-- One path, readable or not. -/
theorem exists_tallyPath (ck : Checker) (t : Tree) {p : Path} (hp : p.hasNul = false) :
    ∃ a, ck.tallyPath t p = .ok a ∧ Accounts ck t [p] a := by
  cases hread : t.read p with
  | ok src =>
    have hreadable : t.isReadable p = true := by
      rw [Tree.isReadable, hread]
      rfl
    have hsources : t.sources [p] = [(p, src)] := by
      simp only [Tree.sources, List.filterMap_cons, hread, Except.toOption, Option.map_some,
        List.filterMap_nil]
    refine ⟨_, tallyPath_readable hp hread, rfl, ?_, ?_, fun _ hq => absurd hq List.not_mem_nil⟩
    · simp [hreadable]
    · rw [hsources, List.flatMap_singleton]
  | error why =>
    have hunreadable : t.isReadable p = false := by
      rw [Tree.isReadable, hread]
      rfl
    have hsources : t.sources [p] = [] := by
      simp only [Tree.sources, List.filterMap_cons, hread, Except.toOption, Option.map_none,
        List.filterMap_nil]
    refine ⟨_, tallyPath_unreadable hp hread, rfl, ?_, ?_, ?_⟩
    · simp [hunreadable]
    · rw [hsources]
      rfl
    · exact List.forall_mem_singleton.2 ⟨_, tallyPath_unreadable hp hread, rfl⟩

theorem exists_each_tallyPath (ck : Checker) (t : Tree) {ps : List Path}
    (h : ∀ p ∈ ps, p.hasNul = false) :
    ∃ a, Tally.each (ck.tallyPath t) ps = .ok a ∧ Accounts ck t ps a := by
  induction ps with
  | nil => exact ⟨.empty, rfl, accounts_nil⟩
  | cons p ps ih =>
    obtain ⟨hp, hps⟩ := List.forall_mem_cons.1 h
    obtain ⟨a, ha, haccounts⟩ := exists_tallyPath ck t hp
    obtain ⟨b, hb, hbaccounts⟩ := ih hps
    exact ⟨a.append b, Tally.each_cons ha hb, haccounts.append hbaccounts⟩

/-! ## Runs over what paths stand for -/

theorem exists_tallyFound (ck : Checker) (ht : t.nulFree = true) {p : Path}
    (hp : p.hasNul = false) {part : List Path} (hpart : t.expand p = .ok part) :
    ∃ a, ck.tallyFound t p = .ok a ∧ Accounts ck t part a := by
  rw [tallyFound, hpart]
  exact exists_each_tallyPath ck t fun q hq => hasNul_of_mem_expand ht hp hpart hq

theorem tallyFound_of_refused {p : Path} {e : Error} (h : Refused t p e) :
    ck.tallyFound t p = .error e := by
  rw [tallyFound, h.expand]
  rfl

theorem exists_checkPaths (ck : Checker) (ht : t.nulFree = true) {paths found : List Path}
    (hpaths : ∀ p ∈ paths, p.hasNul = false) (h : t.discover paths = .ok found) :
    ∃ a, ck.checkPaths t paths = .ok a ∧ Accounts ck t found a := by
  obtain ⟨parts, rfl, hparts⟩ := discover_eq_ok_iff.1 h
  clear h
  induction hparts with
  | nil => exact ⟨.empty, rfl, accounts_nil⟩
  | cons hpart _ ih =>
    obtain ⟨hp, hps⟩ := List.forall_mem_cons.1 hpaths
    obtain ⟨a, ha, haccounts⟩ := exists_tallyFound ck ht hp hpart
    obtain ⟨b, hb, hbaccounts⟩ := ih hps
    exact ⟨a.append b, Tally.each_cons ha hb, haccounts.append hbaccounts⟩

/- What comes of the paths before the one that is refused is lost. -/
theorem checkPaths_of_refused (ck : Checker) (ht : t.nulFree = true) {paths : List Path}
    (hpaths : ∀ p ∈ paths, p.hasNul = false) {e : Error} (h : t.discover paths = .error e) :
    ck.checkPaths t paths = .error e := by
  obtain ⟨before, p, after, rfl, hbefore, hp⟩ := discover_eq_error_iff.1 h
  refine Tally.each_eq_error_iff.2
    ⟨before, p, after, rfl, fun q hq => ?_, tallyFound_of_refused hp⟩
  obtain ⟨part, hpart⟩ := exists_expand_iff.2 (hbefore q hq)
  obtain ⟨a, ha, -⟩ := exists_tallyFound ck ht (hpaths q (List.mem_append_left _ hq)) hpart
  exact ⟨a, ha⟩

theorem checkPaths_eq_error_iff (ck : Checker) (ht : t.nulFree = true) {paths : List Path}
    (hpaths : ∀ p ∈ paths, p.hasNul = false) {e : Error} :
    ck.checkPaths t paths = .error e ↔ t.discover paths = .error e := by
  refine ⟨?_, checkPaths_of_refused ck ht hpaths⟩
  intro h
  cases hdiscover : t.discover paths with
  | ok found =>
    obtain ⟨a, ha, -⟩ := exists_checkPaths ck ht hpaths hdiscover
    rw [ha] at h
    cases h
  | error e' =>
    rw [checkPaths_of_refused ck ht hpaths hdiscover] at h
    rw [Except.error.inj h]

theorem accounts_of_checkPaths (ht : t.nulFree = true) {paths : List Path}
    (hpaths : ∀ p ∈ paths, p.hasNul = false) {a : Tally} (h : ck.checkPaths t paths = .ok a) :
    ∃ found, t.discover paths = .ok found ∧ Accounts ck t found a := by
  cases hdiscover : t.discover paths with
  | ok found =>
    obtain ⟨a', ha', haccounts⟩ := exists_checkPaths ck ht hpaths hdiscover
    obtain rfl := Except.ok.inj (ha'.symm.trans h)
    exact ⟨found, rfl, haccounts⟩
  | error e =>
    rw [checkPaths_of_refused ck ht hpaths hdiscover] at h
    cases h

theorem exists_checkPaths_iff (ck : Checker) (ht : t.nulFree = true) {paths : List Path}
    (hpaths : ∀ p ∈ paths, p.hasNul = false) :
    (∃ a, ck.checkPaths t paths = .ok a) ↔ ∃ found, t.discover paths = .ok found := by
  constructor
  · intro ⟨a, ha⟩
    obtain ⟨found, hfound, -⟩ := accounts_of_checkPaths ht hpaths ha
    exact ⟨found, hfound⟩
  · intro ⟨found, hfound⟩
    obtain ⟨a, ha, -⟩ := exists_checkPaths ck ht hpaths hfound
    exact ⟨a, ha⟩

/-- Every path that a list of paths stands for is accounted for once, and two lists one after
the other come to the two runs one after the other.  Runs end without a result exactly where
it cannot be told what some path stands for. -/
theorem checkPaths_accounts (ck : Checker) (ht : t.nulFree = true) {as : List String}
    (has : ∀ s ∈ as, nulFree s = true) (bs : List String) :
    (∀ found, t.discover (as.map Path.parse) = .ok found →
      ∃ a, ck.checkPaths t (as.map Path.parse) = .ok a ∧ Accounts ck t found a) ∧
    (∀ e, ck.checkPaths t (as.map Path.parse) = .error e ↔
      t.discover (as.map Path.parse) = .error e) ∧
    ((∃ found, t.discover (as.map Path.parse) = .ok found) ↔
      ∀ s ∈ as, ∀ e, ¬Refused t (Path.parse s) e) ∧
    ck.checkPaths t ((as ++ bs).map Path.parse) = (do
      let a ← ck.checkPaths t (as.map Path.parse)
      let b ← ck.checkPaths t (bs.map Path.parse)
      return ⟨a.issues ++ b.issues, a.failed ++ b.failed, a.checked + b.checked,
        a.events ++ b.events⟩) := by
  have hparse : ∀ p ∈ as.map Path.parse, p.hasNul = false := hasNul_of_mem_parse has
  refine ⟨?_, ?_, ?_, ?_⟩
  · intro found hfound
    exact exists_checkPaths ck ht hparse hfound
  · intro e
    exact checkPaths_eq_error_iff ck ht hparse
  · rw [exists_discover_iff, List.forall_mem_map]
  · rw [List.map_append]
    exact checkPaths_append ck t _ _

/-! ### A directory, a file below it and a path to nothing

The directory holds the file `A.java` and a directory that is named like a file. -/

namespace Mixed

def tree : Tree :=
  .ofEntries [.dir "d" .full [.dir "B.java" .full [], .file "A.java" (.ok Calls.source)]]

def paths : List String := ["d", "d/A.java", "gone"]

def found : List Path :=
  [⟨.here, ["d", "A.java"]⟩, ⟨.here, ["d", "B.java"]⟩, ⟨.here, ["d", "A.java"]⟩,
    ⟨.here, ["gone"]⟩]

theorem discover_eq : tree.discover (paths.map Path.parse) = .ok found := by
  decide +kernel

end Mixed

theorem checkPaths_accounts_mixed :
    Mixed.tree.nulFree = true ∧ (∀ s ∈ Mixed.paths, nulFree s = true) ∧
      ∃ a, Calls.checker.checkPaths Mixed.tree (Mixed.paths.map Path.parse) = .ok a ∧
        a.failed = [⟨.here, ["d", "B.java"]⟩, ⟨.here, ["gone"]⟩] ∧ a.checked = 2 := by
  have hpaths : ∀ s ∈ Mixed.paths, nulFree s = true := by decide +kernel
  have haccounts := checkPaths_accounts (t := Mixed.tree) Calls.checker rfl hpaths []
  obtain ⟨a, ha, haccounts⟩ := haccounts.1 Mixed.found Mixed.discover_eq
  have hfailed : a.failed = [⟨.here, ["d", "B.java"]⟩, ⟨.here, ["gone"]⟩] := by
    rw [haccounts.failed]
    decide +kernel
  have hcount := haccounts.count
  rw [hfailed] at hcount
  refine ⟨rfl, hpaths, a, ha, hfailed, ?_⟩
  simpa [Mixed.found] using hcount

/-! ### A file with problems and a name that is too long -/

namespace Overlong

def tree : Tree := .ofEntries [.file "A.java" (.ok Calls.source)]

def letters : List Char := List.replicate 300 'a' ++ ".java".toList

/-- Three hundred letters in front of the ending. -/
def name : String := String.ofList letters

theorem toList_name : name.toList = letters := String.toList_ofList

theorem nulFree_name : nulFree name = true := by
  rw [nulFree, toList_name]
  decide +kernel

theorem slash_not_mem_name : '/' ∉ name.toList := by
  rw [toList_name]
  decide +kernel

theorem nameLimit_lt_name : Path.nameLimit < name.utf8ByteSize := by
  decide +kernel

theorem find_name (entries : List Entry) :
    (Tree.ofEntries entries).find (Path.parse name) = .error .tooLong :=
  find_long_name rfl rfl slash_not_mem_name nameLimit_lt_name

theorem refused_name (entries : List Entry) :
    Refused (.ofEntries entries) (Path.parse name) (.lookup name .tooLong) :=
  refused_long_name rfl rfl slash_not_mem_name nameLimit_lt_name nulFree_name

theorem read_file : tree.read (Path.parse "A.java") = .ok Calls.source := by
  rfl

end Overlong

/-- The file `A.java` can be read and has problems.  Behind it, a name that is too long ends
the run, which neither returns these nor notes the name. -/
theorem long_name_ends_run :
    (∀ s ∈ ["A.java", Overlong.name], nulFree s = true) ∧
      Overlong.tree.read (Path.parse "A.java") = .ok Calls.source ∧
      (Calls.checker.checkSource noFaults 0 Calls.source "A.java").issues ≠ [] ∧
      ∃ e, Calls.checker.checkPaths Overlong.tree (["A.java", Overlong.name].map Path.parse) =
        .error e := by
  have hfile : nulFree "A.java" = true := by decide
  have hfree : ∀ s ∈ ["A.java", Overlong.name], nulFree s = true :=
    List.forall_mem_cons.2 ⟨hfile, List.forall_mem_singleton.2 Overlong.nulFree_name⟩
  refine ⟨hfree, Overlong.read_file, by decide +kernel, .lookup Overlong.name .tooLong, ?_⟩
  have hexpand : Overlong.tree.expand (Path.parse "A.java") = .ok [Path.parse "A.java"] :=
    expand_of_file (e := .file "A.java" (.ok Calls.source)) rfl rfl
  obtain ⟨a, ha, -⟩ := exists_tallyFound Calls.checker rfl (hasNul_parse hfile) hexpand
  exact Tally.each_eq_error_iff.2 ⟨[Path.parse "A.java"], Path.parse Overlong.name, [], rfl,
    List.forall_mem_singleton.2 ⟨a, ha⟩, tallyFound_of_refused (Overlong.refused_name _)⟩

end Checker
end RoleNaming
