/-
The exit status of the command, and how it composes.

Build scripts call the command on some of their paths and then on others.
`perform_composes` says what they can rely on: the status of a run over two lists of paths
is the greater of the two statuses, and it is decided by the paths that cannot be read and
by the nodes at which the rules find something that is enabled.  The reports in text follow
each other, too, unless the choices ask for the catalog, which is shown once.

Up to the point where the paths are looked at, a run is the same for all paths
(`course`).
-/
import RoleNaming.Command.Run
import RoleNaming.Proofs.Accounting
import RoleNaming.Proofs.MethodRule

namespace RoleNaming

open Files Syntax Rule

/-! ## Nodes that are reported -/

/-- Some node of the file at the path gives a problem that is enabled. -/
def Reports (t : Tree) (c : Config) (p : Path) : Prop :=
  ∃ src, t.read p = .ok src ∧ ∃ s ∈ src.root.sites [],
    ∃ i ∈ visit (FileView.ofSource src p.render) c.contextType s, c.isEnabled i.id = true

namespace Checker

theorem make_of_error {c : Config} {e : Error} (h : c.validate = .error e) :
    make c = .error e := by
  unfold make
  split
  · rename_i hvalid
    rw [h] at hvalid
    cases hvalid
  · rename_i e' hvalid
    rw [h] at hvalid
    rw [Except.error.inj hvalid]

theorem make_of_ok {c : Config} (h : c.validate = .ok ()) : make c = .ok ⟨c, h⟩ := by
  unfold make
  split
  · rfl
  · rename_i e hvalid
    rw [h] at hvalid
    cases hvalid

theorem flatMap_foundAt_noFaults (f : FileView) (contextType : String) (k : Nat)
    (sites : List Site) :
    (numbered k sites).flatMap (foundAt f contextType noFaults) =
      sites.flatMap (visit f contextType) := by
  have hfound : foundAt f contextType noFaults = fun x => visit f contextType x.1 := by
    funext ⟨s, number⟩
    cases number with
    | none => rfl
    | some n => rfl
  have hsites := congrArg (List.flatMap (visit f contextType)) (map_fst_numbered k sites)
  rw [List.flatMap_map] at hsites
  rw [hfound]
  exact hsites

theorem mem_issues_checkSource {ck : Checker} {src : Source} {path : String} {i : Issue} :
    i ∈ (ck.checkSource noFaults 0 src path).issues ↔
      (∃ s ∈ src.root.sites [], i ∈ visit (FileView.ofSource src path) ck.config.contextType s) ∧
        ck.config.isEnabled i.id = true := by
  rw [(ck.checkSource_isolated noFaults 0 src path).1, flatMap_foundAt_noFaults, List.mem_filter,
    List.mem_flatMap]

theorem Accounts.failed_eq_nil_iff {ck : Checker} {t : Tree} {ps : List Path} {a : Tally}
    (h : Accounts ck t ps a) : a.failed = [] ↔ ∀ p ∈ ps, t.isReadable p = true := by
  rw [h.failed, List.filter_eq_nil_iff]
  simp

theorem Accounts.issues_eq_nil_iff {ck : Checker} {t : Tree} {ps : List Path} {a : Tally}
    (h : Accounts ck t ps a) : a.issues = [] ↔ ¬∃ p ∈ ps, Reports t ck.config p := by
  rw [h.issues, List.flatMap_eq_nil_iff]
  constructor
  · intro hnone ⟨p, hp, src, hread, s, hs, i, hi, henabled⟩
    have hmem := mem_issues_checkSource.2 ⟨⟨s, hs, hi⟩, henabled⟩
    rw [hnone (p, src) (mem_sources.2 ⟨hp, hread⟩)] at hmem
    cases hmem
  · intro hnone ⟨p, src⟩ hsource
    obtain ⟨hp, hread⟩ := mem_sources.1 hsource
    rw [List.eq_nil_iff_forall_not_mem]
    intro i hi
    obtain ⟨⟨s, hs, hvisit⟩, henabled⟩ := mem_issues_checkSource.1 hi
    exact hnone ⟨p, hp, src, hread, s, hs, i, hvisit, henabled⟩

end Checker

/-! ## The status of a tally -/

namespace Command

namespace Status

theorem ofTally_append (a b : Tally) : ofTally (a.append b) = max (ofTally a) (ofTally b) := by
  unfold ofTally Tally.append
  cases a.failed <;> cases b.failed <;> cases a.issues <;> cases b.issues <;> rfl

theorem ofTally_le (a : Tally) : ofTally a ≤ 2 := by
  unfold ofTally
  cases a.failed <;> cases a.issues <;> simp [failure, issues, clean]

theorem ofTally_eq_two_iff {a : Tally} : ofTally a = 2 ↔ a.failed ≠ [] := by
  unfold ofTally
  cases a.failed <;> cases a.issues <;> simp [failure, issues, clean]

theorem ofTally_eq_one_iff {a : Tally} : ofTally a = 1 ↔ a.failed = [] ∧ a.issues ≠ [] := by
  unfold ofTally
  cases a.failed <;> cases a.issues <;> simp [failure, issues, clean]

end Status

theorem report_text_append (xs ys : List Issue) :
    report .text (xs ++ ys) = report .text xs ++ report .text ys := by
  simp only [report, lines, List.map_append, String.join_append]

/-! ## Choices with all their identifiers -/

theorem identifiers_eq_ok_iff {given : List (Option String)} {ids : List String} :
    Options.identifiers given = .ok ids ↔ given = ids.map some := by
  induction given generalizing ids with
  | nil => cases ids <;> simp [Options.identifiers]
  | cons id given ih =>
    cases id with
    | none => cases ids <;> simp [Options.identifiers]
    | some id =>
      rw [Options.identifiers]
      cases ids with
      | nil => cases Options.identifiers given <;> simp [bind, Except.bind, pure, Except.pure]
      | cons x ids =>
        rw [List.map_cons, List.cons.injEq, ← ih]
        cases Options.identifiers given <;> simp [bind, Except.bind, pure, Except.pure]

theorem config_eq_ok_iff {o : Options} {c : Config} :
    o.config = .ok c ↔
      ∃ disable enableOnly : List String, o.disable = disable.map some ∧
        o.enableOnly = enableOnly.map some ∧
        c = .ofArguments disable enableOnly o.contextType := by
  simp only [← identifiers_eq_ok_iff, Options.config]
  cases Options.identifiers o.disable with
  | error e => simp [bind, Except.bind]
  | ok disable =>
    cases Options.identifiers o.enableOnly with
    | error e => simp [bind, Except.bind]
    | ok enableOnly => simp [bind, Except.bind, pure, Except.pure, eq_comm]

theorem exists_map_some_iff {given : List (Option String)} :
    (∃ ids : List String, given = ids.map some) ↔ none ∉ given := by
  constructor
  · rintro ⟨ids, rfl⟩ h
    obtain ⟨id, -, hid⟩ := List.mem_map.1 h
    cases hid
  · intro h
    induction given with
    | nil => exact ⟨[], rfl⟩
    | cons id given ih =>
      rw [List.mem_cons, not_or] at h
      obtain ⟨ids, rfl⟩ := ih h.2
      cases id with
      | none => exact absurd rfl h.1
      | some id => exact ⟨id :: ids, rfl⟩

theorem exists_config_iff {o : Options} :
    (∃ c, o.config = .ok c) ↔ none ∉ o.disable ++ o.enableOnly := by
  rw [List.mem_append, not_or, ← exists_map_some_iff, ← exists_map_some_iff]
  simp only [config_eq_ok_iff]
  constructor
  · rintro ⟨c, disable, enableOnly, hdisable, henable, -⟩
    exact ⟨⟨disable, hdisable⟩, ⟨enableOnly, henable⟩⟩
  · rintro ⟨⟨disable, hdisable⟩, ⟨enableOnly, henable⟩⟩
    exact ⟨_, disable, enableOnly, hdisable, henable, rfl⟩

/-- With `ListenerAccess` as the only identifier to enable, no problem is enabled that a rule
could report. -/
theorem not_reports_of_enableOnly {o : Options} {c : Config} (hc : o.config = .ok c)
    (hne : o.enableOnly ≠ []) (hids : ∀ id ∈ o.enableOnly, id = some "ListenerAccess")
    (t : Tree) (p : Path) : ¬Reports t c p := by
  obtain ⟨disable, enableOnly, -, henable, rfl⟩ := config_eq_ok_iff.1 hc
  have hsome : enableOnly.isEmpty = false := by
    cases enableOnly with
    | nil => exact absurd henable hne
    | cons id ids => rfl
  rintro ⟨src, -, s, -, i, hi, henabled⟩
  apply id_ne_of_mem_visit hi
  simp only [Config.ofArguments, Config.make, Config.isEnabled, hsome, Option.map_some,
    Bool.false_eq_true, if_false, List.contains_iff_mem, OrderedSet.mem_ofList] at henabled
  have hmem : some i.id ∈ o.enableOnly := by
    rw [henable]
    exact List.mem_map_of_mem henabled
  exact Option.some.inj (hids _ hmem)

/-! ## Runs on other paths -/

section

variable (channel : String) (t : Tree)

/-- A run on the given paths and in the given format, with all other choices taken from `o`. -/
def performOn (o : Options) (f : Format) (paths : List String) : Except Error Output :=
  perform channel t { o with paths := paths, format := f }

def exitOn (o : Options) (f : Format) (paths : List String) : Except Error Nat :=
  (performOn channel t o f paths).map Output.status

def stdoutOn (o : Options) (f : Format) (paths : List String) : Except Error String :=
  (performOn channel t o f paths).map Output.stdout

end

section

variable {channel : String} {t : Tree} {o : Options}

theorem performOn_listing (h : o.listIssues = true) (f : Format) (paths : List String) :
    performOn channel t o f paths = .ok ⟨Status.clean, Catalog.listing ++ "\n", ""⟩ := by
  rw [performOn, perform, if_pos h]

theorem performOn_check (h : o.listIssues = false) (f : Format) {paths : List String}
    (hpaths : paths ≠ []) :
    performOn channel t o f paths =
      o.config >>= checkWith channel t { o with paths := paths, format := f } := by
  have hlist : ¬o.listIssues = true := by simp [h]
  have hempty : ¬paths.isEmpty = true := by simp [hpaths]
  rw [performOn, perform, if_neg hlist, if_neg hempty]
  rfl

/-- A run with the given checker concludes from its tally, where it has one. -/
def ChecksWith (channel : String) (t : Tree) (o : Options) (ck : Checker) : Prop :=
  ∀ f {paths}, paths ≠ [] → performOn channel t o f paths =
    (ck.checkPaths t (paths.map Path.parse)).map
      (conclude channel { o with paths := paths, format := f })

/-- How runs go, whatever the paths are: the choices ask for the catalog, lack an identifier,
are refused or give a checker.  Only then are the paths looked at. -/
inductive Course (channel : String) (t : Tree) (o : Options) : Prop where
  | listing (hlist : o.listIssues = true)
    (hrun : ∀ f paths, performOn channel t o f paths =
      .ok ⟨Status.clean, Catalog.listing ++ "\n", ""⟩)
  | incomplete (hlist : o.listIssues = false) (e : Error) (hconfig : o.config = .error e)
    (hrun : ∀ f {paths}, paths ≠ [] → performOn channel t o f paths = .error e)
  | refused (hlist : o.listIssues = false) (c : Config) (e : Error) (hconfig : o.config = .ok c)
    (hvalid : c.validate = .error e)
    (hrun : ∀ f {paths}, paths ≠ [] → performOn channel t o f paths =
      .ok ⟨Status.failure, "", complaint e.message⟩)
  | checked (hlist : o.listIssues = false) (ck : Checker) (hconfig : o.config = .ok ck.config)
    (hrun : ChecksWith channel t o ck)

theorem course (channel : String) (t : Tree) (o : Options) : Course channel t o := by
  by_cases hlist : o.listIssues = true
  · exact .listing hlist fun f paths => performOn_listing hlist f paths
  rw [Bool.not_eq_true] at hlist
  cases hconfig : o.config with
  | error e =>
    refine .incomplete hlist e hconfig ?_
    intro f paths hpaths
    rw [performOn_check hlist f hpaths, hconfig]
    rfl
  | ok c =>
    have hcheck : ∀ f {paths}, paths ≠ [] → performOn channel t o f paths =
        checkWith channel t { o with paths := paths, format := f } c := by
      intro f paths hpaths
      rw [performOn_check hlist f hpaths, hconfig]
      rfl
    cases hvalid : c.validate with
    | error e =>
      refine .refused hlist c e hconfig hvalid ?_
      intro f paths hpaths
      rw [hcheck f hpaths, checkWith, Checker.make_of_error hvalid]
    | ok u =>
      refine .checked hlist ⟨c, hvalid⟩ hconfig ?_
      intro f paths hpaths
      rw [hcheck f hpaths, checkWith, Checker.make_of_ok hvalid]
      cases hrun : Checker.checkPaths ⟨c, hvalid⟩ t (paths.map Path.parse) with
      | error e =>
        simp only [hrun]
        rfl
      | ok a =>
        simp only [hrun]
        rfl

/-! ## Two lists of paths -/

variable {as bs : List String}

theorem exitOn_append (channel : String) (t : Tree) (o : Options) (f : Format)
    (has : as ≠ []) (hbs : bs ≠ []) :
    exitOn channel t o f (as ++ bs) = do
      let a ← exitOn channel t o f as
      let b ← exitOn channel t o f bs
      return max a b := by
  have hne : as ++ bs ≠ [] := by simp [has]
  unfold exitOn
  cases course channel t o with
  | listing hlist hrun =>
    simp only [hrun]
    rfl
  | incomplete hlist e hconfig hrun =>
    rw [hrun f has, hrun f hne]
    rfl
  | refused hlist c e hconfig hvalid hrun =>
    rw [hrun f has, hrun f hbs, hrun f hne]
    rfl
  | checked hlist ck hconfig hrun =>
    rw [hrun f has, hrun f hbs, hrun f hne, List.map_append, Checker.checkPaths_append]
    cases ck.checkPaths t (as.map Path.parse) with
    | error e => rfl
    | ok a =>
      cases ck.checkPaths t (bs.map Path.parse) with
      | error e => rfl
      | ok b => exact congrArg Except.ok (Status.ofTally_append a b)

theorem stdoutOn_append (channel : String) (t : Tree) (hlist : o.listIssues = false)
    (has : as ≠ []) (hbs : bs ≠ []) :
    stdoutOn channel t o .text (as ++ bs) = do
      let a ← stdoutOn channel t o .text as
      let b ← stdoutOn channel t o .text bs
      return a ++ b := by
  have hne : as ++ bs ≠ [] := by simp [has]
  unfold stdoutOn
  cases course channel t o with
  | listing hlisting hrun =>
    rw [hlist] at hlisting
    cases hlisting
  | incomplete _ e hconfig hrun =>
    rw [hrun .text has, hrun .text hne]
    rfl
  | refused _ c e hconfig hvalid hrun =>
    rw [hrun .text has, hrun .text hbs, hrun .text hne]
    rfl
  | checked _ ck hconfig hrun =>
    rw [hrun .text has, hrun .text hbs, hrun .text hne, List.map_append,
      Checker.checkPaths_append]
    cases ck.checkPaths t (as.map Path.parse) with
    | error e => rfl
    | ok a =>
      cases ck.checkPaths t (bs.map Path.parse) with
      | error e => rfl
      | ok b => exact congrArg Except.ok (report_text_append a.issues b.issues)

theorem exitOn_format (channel : String) (t : Tree) (o : Options) (f g : Format)
    (has : as ≠ []) : exitOn channel t o f as = exitOn channel t o g as := by
  unfold exitOn
  cases course channel t o with
  | listing hlist hrun => simp only [hrun]
  | incomplete hlist e hconfig hrun => simp only [hrun _ has]
  | refused hlist c e hconfig hvalid hrun => simp only [hrun _ has]
  | checked hlist ck hconfig hrun =>
    rw [hrun f has, hrun g has]
    cases ck.checkPaths t (as.map Path.parse) with
    | error e => rfl
    | ok a => rfl

/-! ## What the status tells -/

/-- With choices that are accepted, the status tells of the paths and of the nodes below
them. -/
theorem exitOn_valid (channel : String) (ht : t.nulFree = true) (hlist : o.listIssues = false)
    {c : Config} (hconfig : o.config = .ok c) (hvalid : c.validate = .ok ()) (f : Format)
    (has : as ≠ []) (hfree : ∀ s ∈ as, nulFree s = true) {found : List Path}
    (hfound : t.discover (as.map Path.parse) = .ok found) :
    ∃ code, exitOn channel t o f as = .ok code ∧ code ≤ 2 ∧
      (code = 2 ↔ ∃ p ∈ found, t.isReadable p = false) ∧
      (code = 1 ↔ (∀ p ∈ found, t.isReadable p = true) ∧ ∃ p ∈ found, Reports t c p) := by
  unfold exitOn
  cases course channel t o with
  | listing hlisting hrun =>
    rw [hlist] at hlisting
    cases hlisting
  | incomplete _ e herror hrun =>
    rw [hconfig] at herror
    cases herror
  | refused _ d e hd hinvalid hrun =>
    obtain rfl := Except.ok.inj (hconfig.symm.trans hd)
    rw [hvalid] at hinvalid
    cases hinvalid
  | checked _ ck hck hrun =>
    obtain rfl := Except.ok.inj (hconfig.symm.trans hck)
    obtain ⟨a, ha, haccounts⟩ := Checker.exists_checkPaths ck ht (hasNul_of_mem_parse hfree) hfound
    refine ⟨Status.ofTally a, by rw [hrun f has, ha]; rfl, Status.ofTally_le a, ?_, ?_⟩
    · rw [Status.ofTally_eq_two_iff, ne_eq, haccounts.failed_eq_nil_iff]
      simp
    · rw [Status.ofTally_eq_one_iff, haccounts.failed_eq_nil_iff, ne_eq,
        haccounts.issues_eq_nil_iff, not_not]

/-- The paths are looked up only where the choices are accepted. -/
theorem exists_exitOn_iff (channel : String) (ht : t.nulFree = true) (o : Options) (f : Format)
    (has : as ≠ []) (hfree : ∀ s ∈ as, nulFree s = true) :
    (∃ code, exitOn channel t o f as = .ok code) ↔
      o.listIssues = true ∨ none ∉ o.disable ++ o.enableOnly ∧
        ∀ c, o.config = .ok c → c.validate = .ok () →
          ∃ found, t.discover (as.map Path.parse) = .ok found := by
  rw [← exists_config_iff]
  unfold exitOn
  cases course channel t o with
  | listing hlist hrun =>
    rw [hrun]
    exact iff_of_true ⟨_, rfl⟩ (Or.inl hlist)
  | incomplete hlist e hconfig hrun =>
    rw [hrun f has, hlist, hconfig]
    refine iff_of_false ?_ ?_
    · intro ⟨code, h⟩
      cases h
    · intro h
      rcases h with h | ⟨⟨c, h⟩, -⟩
      · cases h
      · cases h
  | refused hlist c e hconfig hvalid hrun =>
    rw [hrun f has]
    refine iff_of_true ⟨_, rfl⟩ (Or.inr ⟨⟨c, hconfig⟩, ?_⟩)
    intro d hd hvalid'
    obtain rfl := Except.ok.inj (hconfig.symm.trans hd)
    rw [hvalid] at hvalid'
    cases hvalid'
  | checked hlist ck hconfig hrun =>
    have hends := Checker.exists_checkPaths_iff ck ht (hasNul_of_mem_parse hfree)
    rw [hrun f has, hlist]
    constructor
    · intro ⟨code, h⟩
      refine Or.inr ⟨⟨_, hconfig⟩, fun _ _ _ => hends.1 ?_⟩
      cases ha : ck.checkPaths t (as.map Path.parse) with
      | ok a => exact ⟨a, rfl⟩
      | error e =>
        rw [ha] at h
        cases h
    · intro h
      rcases h with h | ⟨-, h⟩
      · cases h
      · obtain ⟨a, ha⟩ := hends.2 (h _ hconfig ck.valid)
        rw [ha]
        exact ⟨_, rfl⟩

theorem exitOn_ne_one (channel : String) (ht : t.nulFree = true) (hne : o.enableOnly ≠ [])
    (hids : ∀ id ∈ o.enableOnly, id = some "ListenerAccess") (f : Format) (has : as ≠ [])
    (hfree : ∀ s ∈ as, nulFree s = true) : exitOn channel t o f as ≠ .ok 1 := by
  intro h
  cases course channel t o with
  | listing hlist hrun =>
    rw [exitOn, hrun] at h
    cases h
  | incomplete hlist e hconfig hrun =>
    rw [exitOn, hrun f has] at h
    cases h
  | refused hlist c e hconfig hvalid hrun =>
    rw [exitOn, hrun f has] at h
    cases h
  | checked hlist ck hconfig hrun =>
    have hends := (exists_exitOn_iff channel ht o f has hfree).1 ⟨1, h⟩
    rw [hlist] at hends
    obtain ⟨-, hfound⟩ := hends.resolve_left Bool.false_ne_true
    obtain ⟨found, hfound⟩ := hfound _ hconfig ck.valid
    obtain ⟨code, hcode, -, -, hone⟩ :=
      exitOn_valid channel ht hlist hconfig ck.valid f has hfree hfound
    obtain rfl : code = 1 := Except.ok.inj (hcode.symm.trans h)
    obtain ⟨-, p, -, hreports⟩ := hone.1 rfl
    exact not_reports_of_enableOnly hconfig hne hids t p hreports

/-- What scripts can rely on.  The status on two lists of paths is the greater of the two and
does not depend on the format.  With choices that are accepted, and where it can be told what
the paths stand for, it is 2 exactly when some path cannot be read, and 1 exactly when all can
be read and some node gives a problem that is enabled.  The reports in text follow each other,
and the catalog, where it is asked for, is shown as it is.  With `ListenerAccess` alone the
status is never 1.  No run is left without a status but those that lack an identifier and those
that come to look up a path of which it cannot be told what it stands for. -/
theorem perform_composes (channel : String) (ht : t.nulFree = true) (o : Options)
    (has : as ≠ []) (hbs : bs ≠ []) (hafree : ∀ s ∈ as, nulFree s = true) :
    (∀ f, exitOn channel t o f (as ++ bs) = do
      let a ← exitOn channel t o f as
      let b ← exitOn channel t o f bs
      return max a b) ∧
    (∀ f g, exitOn channel t o f as = exitOn channel t o g as) ∧
    (o.listIssues = false → ∀ c, o.config = .ok c → c.validate = .ok () → ∀ f found,
      t.discover (as.map Path.parse) = .ok found →
        ∃ code, exitOn channel t o f as = .ok code ∧ code ≤ 2 ∧
          (code = 2 ↔ ∃ p ∈ found, t.isReadable p = false) ∧
          (code = 1 ↔ (∀ p ∈ found, t.isReadable p = true) ∧ ∃ p ∈ found, Reports t c p)) ∧
    (o.listIssues = false → stdoutOn channel t o .text (as ++ bs) = do
      let a ← stdoutOn channel t o .text as
      let b ← stdoutOn channel t o .text bs
      return a ++ b) ∧
    (o.listIssues = true → ∀ f, stdoutOn channel t o f as = .ok (Catalog.listing ++ "
")) ∧
    (o.enableOnly ≠ [] → (∀ id ∈ o.enableOnly, id = some "ListenerAccess") →
      ∀ f, exitOn channel t o f as ≠ .ok 1) ∧
    ∀ f, (∃ code, exitOn channel t o f as = .ok code) ↔
      o.listIssues = true ∨ none ∉ o.disable ++ o.enableOnly ∧
        ∀ c, o.config = .ok c → c.validate = .ok () →
          ∃ found, t.discover (as.map Path.parse) = .ok found := by
  refine ⟨?_, ?_, ?_, ?_, ?_, ?_, ?_⟩
  · intro f
    exact exitOn_append channel t o f has hbs
  · intro f g
    exact exitOn_format channel t o f g has
  · intro hlist c hconfig hvalid f found hfound
    exact exitOn_valid channel ht hlist hconfig hvalid f has hafree hfound
  · intro hlist
    exact stdoutOn_append channel t hlist has hbs
  · intro hlist f
    rw [stdoutOn, performOn_listing hlist]
    rfl
  · intro hne hids f
    exact exitOn_ne_one channel ht hne hids f has hafree
  · intro f
    exact exists_exitOn_iff channel ht o f has hafree

end

/-! ### A file with problems, a path to nothing and the catalog -/

namespace Scripted

def reported : List String := ["d/A.java"]

def missing : List String := ["gone"]

def listing : Options := { Options.default with listIssues := true }

end Scripted

theorem perform_composes_missing :
    (Checker.Mixed.tree.nulFree = true ∧ Scripted.reported ≠ [] ∧ Scripted.missing ≠ [] ∧
      ∀ s ∈ Scripted.reported, nulFree s = true) ∧
    exitOn channel Checker.Mixed.tree .default .text Scripted.reported = .ok 1 ∧
    exitOn channel Checker.Mixed.tree .default .text Scripted.missing = .ok 2 ∧
    exitOn channel Checker.Mixed.tree .default .text (Scripted.reported ++ Scripted.missing) =
      .ok 2 := by
  have hreported : ∀ s ∈ Scripted.reported, nulFree s = true := by decide +kernel
  have hone : exitOn channel Checker.Mixed.tree .default .text Scripted.reported = .ok 1 := by
    decide +kernel
  have htwo : exitOn channel Checker.Mixed.tree .default .text Scripted.missing = .ok 2 := by
    decide +kernel
  have hreported' : Scripted.reported ≠ [] := List.cons_ne_nil _ _
  have hmissing' : Scripted.missing ≠ [] := List.cons_ne_nil _ _
  have hboth := (perform_composes channel (t := Checker.Mixed.tree) rfl .default hreported'
    hmissing' hreported).1 .text
  rw [hone, htwo] at hboth
  exact ⟨⟨rfl, hreported', hmissing', hreported⟩, hone, htwo, hboth⟩

/-- Where the catalog is asked for, the paths are not looked at, and two lists of paths show
it no more often than one. -/
theorem listing_shown_once :
    Scripted.listing.format = .text ∧
      stdoutOn channel .empty Scripted.listing .text
          (Scripted.reported ++ Scripted.missing) ≠ (do
        let a ← stdoutOn channel .empty Scripted.listing .text Scripted.reported
        let b ← stdoutOn channel .empty Scripted.listing .text Scripted.missing
        return a ++ b) := by
  decide +kernel

end Command
end RoleNaming
