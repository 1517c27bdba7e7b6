/-
What checking a directory comes to.

A directory stands for everything below it that is named like a Java file, and that may be
another directory.  `checkPaths_directory` says what follows: what can be read among this is
checked, each file once, and the rest is noted as paths that cannot be read.  Where everything
below the directory is open, these are the directories named like files.

Following the names by which a search comes upon an entry leads to that entry or nowhere
(`Leads.find`), as long as a directory does not hold two entries of one name.
-/
import Mathlib.Data.List.Nodup
import RoleNaming.Proofs.Unreadable

namespace RoleNaming
namespace Files

/-! ## Directories with distinct names -/

/-- A name that an entry can have, and by which it can be found. -/
def isName (name : String) : Bool :=
  name != "." && name != ".." && name.utf8ByteSize ≤ Path.nameLimit

/- Whether all entries at and below an entry have names that they can have, and no
directory holds two entries of one name. -/
mutual
def Entry.proper : Entry → Bool
  | .file name _ => isName name
  | .dir name _ entries => isName name && Entry.properAll entries

def Entry.properAll : List Entry → Bool
  | [] => true
  | e :: es => e.proper && es.all (fun d => d.name != e.name) && Entry.properAll es
end

/-- The directories that a file system can hold. -/
def Tree.proper (t : Tree) : Bool := t.all Entry.proper

theorem Entry.properAll_cons {e : Entry} {es : List Entry} :
    Entry.properAll (e :: es) = true ↔
      e.proper = true ∧ (∀ d ∈ es, d.name ≠ e.name) ∧ Entry.properAll es = true := by
  rw [Entry.properAll, Bool.and_eq_true, Bool.and_eq_true, List.all_eq_true, and_assoc]
  simp only [bne_iff_ne]

theorem Entry.proper_of_mem {es : List Entry} (h : Entry.properAll es = true) {e : Entry}
    (he : e ∈ es) : e.proper = true := by
  induction es with
  | nil => cases he
  | cons d es ih =>
    rw [Entry.properAll_cons] at h
    cases List.mem_cons.1 he with
    | inl hd => rw [hd]; exact h.1
    | inr hes => exact ih h.2.2 hes

theorem Entry.isName_of_proper {e : Entry} (h : e.proper = true) : isName e.name = true := by
  cases e with
  | file name content => exact h
  | dir name access entries =>
    rw [Entry.proper, Bool.and_eq_true] at h
    exact h.1

theorem properAll_of_proper {name : String} {access : Access} {entries : List Entry}
    (h : (Entry.dir name access entries).proper = true) : Entry.properAll entries = true := by
  rw [Entry.proper, Bool.and_eq_true] at h
  exact h.2

theorem inherited_proper : Inherited fun e => e.proper = true :=
  fun _ _ _ h _ he => Entry.proper_of_mem (properAll_of_proper h) he

theorem proper_of_find {t : Tree} (ht : t.proper = true) {p : Path} {d : Entry}
    (h : t.find p = .ok d) : d.proper = true :=
  (inherited_proper.of_find (Tree.has_of_all ht) h).1

theorem find?_of_mem {es : List Entry} (h : Entry.properAll es = true) {e : Entry} (he : e ∈ es) :
    find? es e.name = some e := by
  unfold find?
  induction es with
  | nil => cases he
  | cons d es ih =>
    rw [Entry.properAll_cons] at h
    cases List.mem_cons.1 he with
    | inl hd =>
      rw [hd, List.find?_cons_of_pos]
      exact beq_self_eq_true _
    | inr hes =>
      rw [List.find?_cons_of_neg]
      · exact ih h.2.2 hes
      · rw [beq_iff_eq]
        exact (h.2.1 e hes).symm

/-! ## Going further down -/

/-- The names lead from a directory down to an entry below it. -/
inductive Leads : Entry → List String → Entry → Prop where
  | here {name : String} {access : Access} {entries : List Entry} {e : Entry}
      (he : e ∈ entries) : Leads (.dir name access entries) [e.name] e
  | down {name : String} {access : Access} {entries : List Entry} {d e : Entry}
      {names : List String} (hd : d ∈ entries) (h : Leads d names e) :
      Leads (.dir name access entries) (d.name :: names) e

theorem Shows.leads {d e : Entry} {names : List String} (h : Shows d names e) :
    Leads d names e := by
  induction h with
  | here _ he => exact .here he
  | down _ _ hd _ ih => exact .down hd ih

theorem Leads.ne_nil {d e : Entry} {names : List String} (h : Leads d names e) :
    names ≠ [] := by
  cases h with
  | here => exact List.cons_ne_nil _ _
  | down => exact List.cons_ne_nil _ _

theorem leads_cons_iff {n : String} {access : Access} {entries : List Entry} {name : String}
    {rest : List String} {e : Entry} :
    Leads (.dir n access entries) (name :: rest) e ↔
      ∃ c ∈ entries, c.name = name ∧ (rest = [] ∧ c = e ∨ Leads c rest e) := by
  constructor
  · intro h
    generalize hnames : name :: rest = names at h
    cases h with
    | here he =>
      obtain ⟨hname, hrest⟩ := List.cons.inj hnames
      exact ⟨e, he, hname.symm, Or.inl ⟨hrest, rfl⟩⟩
    | @down _ _ _ c _ _ hc h =>
      obtain ⟨hname, hrest⟩ := List.cons.inj hnames
      exact ⟨c, hc, hname.symm, Or.inr (hrest ▸ h)⟩
  · intro ⟨c, hc, hname, h⟩
    subst hname
    rcases h with ⟨rfl, rfl⟩ | h
    · exact .here hc
    · exact .down hc h

theorem eq_of_mem_of_name {es : List Entry} (h : Entry.properAll es = true) {d e : Entry}
    (hd : d ∈ es) (he : e ∈ es) (hname : d.name = e.name) : d = e := by
  have hfind := find?_of_mem h hd
  rw [hname, find?_of_mem h he] at hfind
  exact (Option.some.inj hfind).symm

/-- No two entries below a directory share the names that lead to them. -/
theorem Leads.unique {d e e' : Entry} {names : List String} (h : Leads d names e)
    (h' : Leads d names e') (hd : d.proper = true) : e = e' := by
  induction h with
  | here he =>
    obtain ⟨c, hc, hname, ⟨-, rfl⟩ | hrest⟩ := leads_cons_iff.1 h'
    · exact eq_of_mem_of_name (properAll_of_proper hd) he hc hname.symm
    · exact absurd rfl hrest.ne_nil
  | down hd' hnames ih =>
    obtain ⟨c, hc, hname, ⟨hnil, -⟩ | hrest⟩ := leads_cons_iff.1 h'
    · exact absurd hnil hnames.ne_nil
    · obtain rfl := eq_of_mem_of_name (properAll_of_proper hd) hd' hc hname.symm
      exact ih hrest (inherited_proper _ _ _ hd _ hd')

theorem step_child {place : Place} {name : String} {access : Access} {entries : List Entry}
    (hhere : place.here = .dir name access entries) (hentries : Entry.properAll entries = true)
    {e : Entry} (he : e ∈ entries) :
    place.step e.name =
      if access.search then .ok ⟨e, place.here :: place.above⟩ else .error .denied := by
  have hname := Entry.isName_of_proper (Entry.proper_of_mem hentries he)
  simp only [isName, Bool.and_eq_true, bne_iff_ne, decide_eq_true_eq] at hname
  obtain ⟨⟨hdot, hup⟩, hlimit⟩ := hname
  unfold Place.step
  rw [hhere]
  cases hsearch : access.search with
  | false => simp [hsearch]
  | true =>
    simp only [hsearch, Bool.not_true, Bool.false_eq_true, if_false, if_true, if_neg hdot,
      if_neg hup, if_neg (Nat.not_lt_of_le hlimit), find?_of_mem hentries he]

/- Names that lead to an entry are followed to it or not at all: on the way, a permission may
be lacking. -/
theorem Leads.follow {d e : Entry} {names : List String} (h : Leads d names e)
    (hd : d.proper = true) {place b : Place} (hplace : place.here = d) (hb : place.follow names = .ok b) :
    b.here = e := by
  induction h generalizing place with
  | here he =>
    rw [Place.follow_cons, step_child hplace (properAll_of_proper hd) he] at hb
    split at hb
    · exact congrArg Place.here (Except.ok.inj hb).symm
    · cases hb
  | down hc _ ih =>
    rw [Place.follow_cons, step_child hplace (properAll_of_proper hd) hc] at hb
    split at hb
    · exact ih (inherited_proper _ _ _ hd _ hc) rfl hb
    · cases hb

theorem Path.steps_join (p : Path) {names : List String} (hnames : names ≠ []) :
    (p.join names).steps = p.names ++ names := by
  rw [Path.steps, if_neg]
  · rfl
  · simp [Path.join, hnames]

/- A path that says nothing stays where it starts, and so the names behind it are followed from
there. -/
theorem follow_names {t : Tree} {p : Path} {b : Place}
    (h : (t.origin p.anchor).follow p.steps = .ok b) :
    (t.origin p.anchor).follow p.names = .ok b := by
  unfold Path.steps at h
  split at h
  · rename_i hempty
    rw [Place.follow_cons, bind_eq_ok_iff] at h
    obtain ⟨c, hstep, hc⟩ := h
    obtain ⟨n, access, entries, -, -, ⟨-, rfl⟩ | ⟨hup, -⟩ | ⟨hdot, -⟩⟩ :=
      Place.step_eq_ok_iff.1 hstep
    · rw [hempty.2]
      exact hc
    · exact absurd hup (by decide)
    · exact absurd rfl hdot
  · exact h

theorem find_join {t : Tree} {p : Path} {d : Entry} (h : t.find p = .ok d) :
    ∃ place : Place, place.here = d ∧ ∀ names, names ≠ [] → (p.join names).isTooLong = false →
      t.find (p.join names) = (place.follow names).map Place.here := by
  obtain ⟨-, b, hb, hhere⟩ := find_eq_ok_iff.1 h
  refine ⟨b, hhere, ?_⟩
  intro names hnames hshort
  unfold Tree.find
  rw [hshort, Path.steps_join p hnames]
  show ((t.origin p.anchor).follow (p.names ++ names)).map Place.here = _
  rw [Place.follow_append, follow_names hb]
  rfl

/-- What is found by names that lead to an entry is that entry. -/
theorem Leads.find {t : Tree} (ht : t.proper = true) {p : Path} {d : Entry}
    (hd : t.find p = .ok d) {names : List String} {e found : Entry} (h : Leads d names e)
    (hfound : t.find (p.join names) = .ok found) : found = e := by
  obtain ⟨hshort, -⟩ := find_eq_ok_iff.1 hfound
  obtain ⟨place, hplace, hjoin⟩ := find_join hd
  rw [hjoin names h.ne_nil hshort] at hfound
  cases hfollow : place.follow names with
  | error why =>
    rw [hfollow] at hfound
    cases hfound
  | ok b =>
    rw [hfollow] at hfound
    rw [← Except.ok.inj hfound]
    exact h.follow (proper_of_find ht hd) hplace hfollow

/-! ## What a search lists -/

theorem ne_nil_of_mem_shown {d : Entry} {x : List String × Entry} (h : x ∈ d.shown) :
    x.1 ≠ [] :=
  (mem_shown_iff.1 h).leads.ne_nil

theorem names_of_mem_shownIn {search : Bool} {es : List Entry} {x : List String × Entry}
    (h : x ∈ Entry.shownIn search es) : ∃ d ∈ es, ∃ rest, x.1 = d.name :: rest := by
  obtain ⟨d, hd, rfl | ⟨-, y, -, rfl⟩⟩ := mem_shownIn.1 h
  · exact ⟨d, hd, [], rfl⟩
  · exact ⟨d, hd, y.1, rfl⟩

theorem mem_names_under {search : Bool} {e : Entry} {names : List String} :
    names ∈ (if search then e.shown.map (under e.name) else []).map Prod.fst ↔
      search = true ∧ ∃ x ∈ e.shown, e.name :: x.1 = names := by
  cases search with
  | false => simp
  | true => simp [under]

/- No two entries are shown by the same names: entries beside each other differ in the name, and
what lies below an entry has more names than the entry itself. -/
mutual
theorem Entry.nodup_shown :
    ∀ {d : Entry}, d.proper = true → (d.shown.map Prod.fst).Nodup
  | .file name content, _ => by
    rw [Entry.shown]
    exact List.nodup_nil
  | .dir name access entries, hd => by
    rw [Entry.shown]
    split
    · exact Entry.nodup_shownIn (properAll_of_proper hd)
    · exact List.nodup_nil

theorem Entry.nodup_shownIn {search : Bool} :
    ∀ {es : List Entry}, Entry.properAll es = true →
      ((Entry.shownIn search es).map Prod.fst).Nodup
  | [], _ => by
    rw [Entry.shownIn]
    exact List.nodup_nil
  | e :: es, h => by
    obtain ⟨he, hdistinct, hes⟩ := Entry.properAll_cons.1 h
    rw [Entry.shownIn, List.map_append, List.map_cons, List.nodup_append, List.nodup_cons]
    refine ⟨⟨?_, ?_⟩, Entry.nodup_shownIn hes, ?_⟩
    · intro hmem
      obtain ⟨-, x, hx, heq⟩ := mem_names_under.1 hmem
      exact ne_nil_of_mem_shown hx (List.cons.inj heq).2
    · cases search with
      | false => exact List.nodup_nil
      | true =>
        have hunder : ((e.shown.map (under e.name)).map Prod.fst) =
            (e.shown.map Prod.fst).map (List.cons e.name) := by
          rw [List.map_map, List.map_map]
          rfl
        rw [if_pos rfl, hunder]
        exact List.Nodup.map List.cons_injective (Entry.nodup_shown he)
    · intro names hnames names' hnames' heq
      have hfirst : ∃ rest, names = e.name :: rest := by
        cases List.mem_cons.1 hnames with
        | inl hown => exact ⟨[], hown⟩
        | inr hbelow =>
          obtain ⟨-, x, -, hx⟩ := mem_names_under.1 hbelow
          exact ⟨x.1, hx.symm⟩
      obtain ⟨rest, rfl⟩ := hfirst
      obtain ⟨x, hx, rfl⟩ := List.mem_map.1 hnames'
      obtain ⟨d, hd, more, hmore⟩ := names_of_mem_shownIn hx
      rw [hmore] at heq
      exact hdistinct d hd (List.cons.inj heq).1.symm
end

/-! ## Open directories -/

/- Whether every directory at and below an entry may be listed and searched. -/
mutual
def Entry.isOpen : Entry → Bool
  | .file .. => true
  | .dir _ access entries => access.list && access.search && Entry.allOpen entries

def Entry.allOpen : List Entry → Bool
  | [] => true
  | e :: es => e.isOpen && Entry.allOpen es
end

/- Every entry below a directory, by the names that lead to it. -/
mutual
def Entry.places : Entry → List (List String × Entry)
  | .file .. => []
  | .dir _ _ entries => Entry.placesIn entries

def Entry.placesIn : List Entry → List (List String × Entry)
  | [] => []
  | e :: es => ([e.name], e) :: e.places.map (under e.name) ++ Entry.placesIn es
end

theorem isOpen_dir {name : String} {access : Access} {entries : List Entry} :
    (Entry.dir name access entries).isOpen = true ↔
      access.list = true ∧ access.search = true ∧ Entry.allOpen entries = true := by
  rw [Entry.isOpen, Bool.and_eq_true, Bool.and_eq_true, and_assoc]

theorem Entry.allOpen_eq_true_iff {es : List Entry} :
    Entry.allOpen es = true ↔ ∀ e ∈ es, e.isOpen = true := by
  induction es with
  | nil => simp [Entry.allOpen]
  | cons e es ih => rw [Entry.allOpen, Bool.and_eq_true, ih, List.forall_mem_cons]

theorem inherited_isOpen : Inherited fun e => e.isOpen = true :=
  fun _ _ _ h => Entry.allOpen_eq_true_iff.1 (isOpen_dir.1 h).2.2

/- From an open directory, a search comes across everything. -/
mutual
theorem Entry.shown_eq_places : ∀ {d : Entry}, d.isOpen = true → d.shown = d.places
  | .file name content, _ => by rw [Entry.shown, Entry.places]
  | .dir name access entries, h => by
    obtain ⟨hlist, hsearch, hentries⟩ := isOpen_dir.1 h
    rw [Entry.shown, Entry.places, if_pos hlist, hsearch]
    exact Entry.shownIn_eq_placesIn hentries

theorem Entry.shownIn_eq_placesIn :
    ∀ {es : List Entry}, Entry.allOpen es = true → Entry.shownIn true es = Entry.placesIn es
  | [], _ => by rw [Entry.shownIn, Entry.placesIn]
  | e :: es, h => by
    rw [Entry.allOpen, Bool.and_eq_true] at h
    rw [Entry.shownIn, Entry.placesIn, if_pos rfl, Entry.shown_eq_places h.1,
      Entry.shownIn_eq_placesIn h.2]
end

theorem Leads.shows {d e : Entry} {names : List String} (h : Leads d names e)
    (hd : d.isOpen = true) : Shows d names e := by
  induction h with
  | here he => exact .here (isOpen_dir.1 hd).1 he
  | down hc _ ih =>
    obtain ⟨hlist, hsearch, hentries⟩ := isOpen_dir.1 hd
    exact .down hlist hsearch hc (ih (Entry.allOpen_eq_true_iff.1 hentries _ hc))

theorem mem_places_iff {d e : Entry} {names : List String} (hd : d.isOpen = true) :
    (names, e) ∈ d.places ↔ Leads d names e := by
  rw [← Entry.shown_eq_places hd, mem_shown_iff]
  exact ⟨Shows.leads, fun h => h.shows hd⟩

/- Where everything is open, nothing is in the way of the names. -/
theorem Leads.exists_follow {d e : Entry} {names : List String} (h : Leads d names e)
    (hd : d.proper = true) (hopen : d.isOpen = true) {place : Place} (hplace : place.here = d) :
    ∃ b, place.follow names = .ok b := by
  induction h generalizing place with
  | here he =>
    rw [Place.follow_cons, step_child hplace (properAll_of_proper hd) he,
      if_pos (isOpen_dir.1 hopen).2.1]
    exact ⟨_, rfl⟩
  | down hc _ ih =>
    rw [Place.follow_cons, step_child hplace (properAll_of_proper hd) hc,
      if_pos (isOpen_dir.1 hopen).2.1]
    exact ih (inherited_proper _ _ _ hd _ hc) (inherited_isOpen _ _ _ hopen _ hc) rfl

theorem Leads.find_of_isOpen {t : Tree} (ht : t.proper = true) {p : Path} {d : Entry}
    (hd : t.find p = .ok d) (hopen : d.isOpen = true) {names : List String} {e : Entry}
    (h : Leads d names e) (hshort : (p.join names).isTooLong = false) :
    t.find (p.join names) = .ok e := by
  obtain ⟨place, hplace, hjoin⟩ := find_join hd
  obtain ⟨b, hb⟩ := h.exists_follow (proper_of_find ht hd) hopen hplace
  rw [hjoin names h.ne_nil hshort, hb]
  exact congrArg Except.ok (h.follow (proper_of_find ht hd) hplace hb)

/-! ## What a directory stands for -/

theorem isFile_of_isReadable {t : Tree} {p : Path} (h : t.isReadable p = true) :
    ∃ e, t.find p = .ok e ∧ e.isFile = true := by
  unfold Tree.isReadable Tree.read at h
  split at h
  · rename_i name content hfind
    exact ⟨_, hfind, rfl⟩
  · cases h
  · cases h

section

variable {t : Tree} {p : Path} {d : Entry} {part : List Path}

/-- What can be read below a directory is a file. -/
theorem isFile_of_isReadable_join (ht : t.proper = true) (hfind : t.find p = .ok d)
    {names : List String} {e : Entry} (h : Leads d names e)
    (hread : t.isReadable (p.join names) = true) : e.isFile = true := by
  obtain ⟨found, hfound, hfile⟩ := isFile_of_isReadable hread
  rw [← h.find ht hfind hfound]
  exact hfile

/-- Below an open directory with readable files, it is the files that can be read. -/
theorem isReadable_join_of_isOpen (ht : t.proper = true) (hfind : t.find p = .ok d)
    (hopen : d.isOpen = true)
    (hreadable : ∀ x ∈ d.places, x.2.isFile = true → t.isReadable (p.join x.1) = true) :
    ∀ x ∈ d.places, t.isReadable (p.join x.1) = x.2.isFile := by
  intro x hx
  cases hfile : x.2.isFile with
  | true => exact hreadable x hx hfile
  | false =>
    rw [← Bool.not_eq_true]
    intro h
    rw [isFile_of_isReadable_join ht hfind ((mem_places_iff hopen).1 hx) h] at hfile
    cases hfile

theorem discover_singleton (t : Tree) (p : Path) : t.discover [p] = t.expand p := by
  rw [Tree.discover, List.mapM_cons, List.mapM_nil]
  cases t.expand p with
  | error e => rfl
  | ok part => exact congrArg Except.ok (List.append_nil part)

theorem expand_directory (hnul : p.hasNul = false) (hfind : t.find p = .ok d)
    (hd : d.isFile = false) :
    t.expand p = .ok part ↔ (∀ x ∈ d.shown, ¬TooDeep p x) ∧ part = d.javaNames.map p.join := by
  rw [expand_of_directory hnul hfind hd, ← tooDeep?_eq_none_iff]
  cases d.tooDeep? p with
  | some q => simp
  | none => simp [eq_comm]

theorem mem_map_join_javaNames {q : Path} :
    q ∈ d.javaNames.map p.join ↔
      ∃ x ∈ d.shown, isJavaName x.2.name = true ∧ q = p.join x.1 := by
  rw [List.mem_map]
  constructor
  · intro ⟨names, hnames, hq⟩
    obtain ⟨e, hshows, hjava⟩ := mem_javaNames_iff.1 hnames
    exact ⟨(names, e), mem_shown_iff.2 hshows, hjava, hq.symm⟩
  · intro ⟨x, hx, hjava, hq⟩
    exact ⟨x.1, mem_javaNames_iff.2 ⟨x.2, mem_shown_iff.1 hx, hjava⟩, hq.symm⟩

/-- Counting what a directory stands for is counting what a search lists: sorting brings none
of it together. -/
theorem countP_map_join_javaNames (hd : d.proper = true) (f : Path → Bool) :
    (d.javaNames.map p.join).countP f =
      d.shown.countP fun x => f (p.join x.1) && isJavaName x.2.name := by
  have hnodup : ((d.shown.filter fun x => isJavaName x.2.name).map Prod.fst).Nodup :=
    (Entry.nodup_shown hd).sublist (List.filter_sublist.map Prod.fst)
  rw [List.countP_map, Entry.javaNames, (OrderedSet.ofList_perm hnodup).countP_eq,
    List.countP_map, List.countP_filter]
  rfl

end

end Files

open Files

namespace Checker

theorem Accounts.checked_eq {ck : Checker} {t : Tree} {ps : List Path} {a : Tally}
    (h : Accounts ck t ps a) : a.checked = ps.countP t.isReadable := by
  have hcount := h.count
  have hsplit : ps.length = ps.countP t.isReadable + ps.countP fun p => !t.isReadable p := by
    simpa using List.length_eq_countP_add_countP t.isReadable
  rw [h.failed, ← List.countP_eq_length_filter] at hcount
  omega

theorem Accounts.mem_failed_iff {ck : Checker} {t : Tree} {p : Path} {d : Entry} {a : Tally}
    (h : Accounts ck t (d.javaNames.map p.join) a) {q : Path} :
    q ∈ a.failed ↔ ∃ x ∈ d.shown,
      t.isReadable (p.join x.1) = false ∧ isJavaName x.2.name = true ∧ q = p.join x.1 := by
  rw [h.failed, List.mem_filter, mem_map_join_javaNames, Bool.not_eq_true']
  constructor
  · intro ⟨⟨x, hx, hjava, hq⟩, hunreadable⟩
    rw [hq] at hunreadable
    exact ⟨x, hx, hunreadable, hjava, hq⟩
  · intro ⟨x, hx, hunreadable, hjava, hq⟩
    rw [hq]
    exact ⟨⟨x, hx, hjava, rfl⟩, hunreadable⟩

/-- A run over a directory comes to an end where a search can enter all that it comes across,
and keeps account of what the directory stands for. -/
theorem checkPaths_singleton (ck : Checker) {t : Tree} (hnul : t.nulFree = true) {p : Path}
    {d : Entry} (hfind : t.find p = .ok d) (hd : d.isFile = false) :
    ((∃ a, ck.checkPaths t [p] = .ok a) ↔ ∀ x ∈ d.shown, ¬TooDeep p x) ∧
    ∀ a, ck.checkPaths t [p] = .ok a → Accounts ck t (d.javaNames.map p.join) a := by
  have hpnul := hasNul_of_find hnul hfind
  have hpaths : ∀ q ∈ [p], q.hasNul = false := List.forall_mem_singleton.2 hpnul
  have hdiscover : ∀ part, t.discover [p] = .ok part ↔
      (∀ x ∈ d.shown, ¬TooDeep p x) ∧ part = d.javaNames.map p.join := by
    intro part
    rw [discover_singleton]
    exact expand_directory hpnul hfind hd
  constructor
  · rw [exists_checkPaths_iff ck hnul hpaths]
    simp only [hdiscover]
    exact ⟨fun ⟨_, h, _⟩ => h, fun h => ⟨_, h, rfl⟩⟩
  · intro a ha
    obtain ⟨found, hfound, haccounts⟩ := accounts_of_checkPaths hnul hpaths ha
    rwa [((hdiscover found).1 hfound).2] at haccounts

/-- Checking a directory comes to an end exactly where a search can enter all that it comes
across.  What it shows that is named like a Java file is then checked if it can be read, and
noted otherwise.  Where everything below the directory is open and its files can be read, every
file that is named so is checked, each once, and the directories that are named so are the
paths that fail, so that none fails where there are no such directories. -/
theorem checkPaths_directory (ck : Checker) {t : Tree} (hnul : t.nulFree = true)
    (ht : t.proper = true) {p : Path} {d : Entry} (hfind : t.find p = .ok d)
    (hd : d.isFile = false) :
    ((∃ a, ck.checkPaths t [p] = .ok a) ↔ ∀ x ∈ d.shown, ¬TooDeep p x) ∧
    ∀ a, ck.checkPaths t [p] = .ok a →
      (a.checked = d.shown.countP (fun x => t.isReadable (p.join x.1) && isJavaName x.2.name) ∧
        ∀ q, q ∈ a.failed ↔ ∃ x ∈ d.shown,
          t.isReadable (p.join x.1) = false ∧ isJavaName x.2.name = true ∧ q = p.join x.1) ∧
      (d.isOpen = true → (∀ x ∈ d.places, x.2.isFile = true → t.isReadable (p.join x.1) = true) →
        a.checked = d.places.countP (fun x => x.2.isFile && isJavaName x.2.name) ∧
        (∀ q, q ∈ a.failed ↔ ∃ x ∈ d.places,
          x.2.isFile = false ∧ isJavaName x.2.name = true ∧ q = p.join x.1) ∧
        ((∀ x ∈ d.places, isJavaName x.2.name = true → x.2.isFile = true) → a.failed = [])) := by
  obtain ⟨hends, haccounts⟩ := checkPaths_singleton ck hnul hfind hd
  refine ⟨hends, ?_⟩
  intro a ha
  have hchecked := (haccounts a ha).checked_eq
  rw [countP_map_join_javaNames (proper_of_find ht hfind)] at hchecked
  refine ⟨⟨hchecked, fun q => (haccounts a ha).mem_failed_iff⟩, ?_⟩
  intro hopen hreadable
  have hread := isReadable_join_of_isOpen ht hfind hopen hreadable
  have hfailed : ∀ q, q ∈ a.failed ↔ ∃ x ∈ d.places,
      x.2.isFile = false ∧ isJavaName x.2.name = true ∧ q = p.join x.1 := by
    intro q
    rw [(haccounts a ha).mem_failed_iff, Entry.shown_eq_places hopen]
    constructor
    · intro ⟨x, hx, hunreadable, hq⟩
      rw [hread x hx] at hunreadable
      exact ⟨x, hx, hunreadable, hq⟩
    · intro ⟨x, hx, hdirectory, hq⟩
      rw [← hread x hx] at hdirectory
      exact ⟨x, hx, hdirectory, hq⟩
  refine ⟨?_, hfailed, ?_⟩
  · rw [hchecked, Entry.shown_eq_places hopen]
    apply List.countP_congr
    intro x hx
    rw [hread x hx]
  · intro hfiles
    rw [List.eq_nil_iff_forall_not_mem]
    intro q hq
    obtain ⟨x, hx, hdirectory, hjava, -⟩ := (hfailed q).1 hq
    rw [hfiles x hx hjava] at hdirectory
    cases hdirectory

/-! ### A directory that is named like a file

Below the directory `d` lie the files `A.java` and `B.java/C.java`. -/

namespace Misnamed

def inner : Entry := .dir "B.java" .full [.file "C.java" (.ok Calls.source)]

def directory : Entry :=
  .dir "d" .full
    [inner, .file "A.java" (.ok Calls.source), .file "notes" (.ok Calls.source)]

def tree : Tree := .ofEntries [directory]

theorem find_directory : tree.find (Path.parse "d") = .ok directory := by
  rfl

end Misnamed

theorem checkPaths_directory_misnamed :
    (Misnamed.tree.nulFree = true ∧ Misnamed.tree.proper = true ∧
      Misnamed.tree.find (Path.parse "d") = .ok Misnamed.directory ∧
      Misnamed.directory.isFile = false ∧ Misnamed.directory.isOpen = true ∧
      ∀ x ∈ Misnamed.directory.places, x.2.isFile = true →
        Misnamed.tree.isReadable ((Path.parse "d").join x.1) = true) ∧
      ∃ a, Calls.checker.checkPaths Misnamed.tree [Path.parse "d"] = .ok a ∧ a.checked = 2 ∧
        (Path.parse "d").join ["B.java"] ∈ a.failed := by
  have hnul : Misnamed.tree.nulFree = true := by decide +kernel
  have hproper : Misnamed.tree.proper = true := by decide +kernel
  have hopen : Misnamed.directory.isOpen = true := by decide +kernel
  have hreadable : ∀ x ∈ Misnamed.directory.places, x.2.isFile = true →
      Misnamed.tree.isReadable ((Path.parse "d").join x.1) = true := by
    decide +kernel
  have hdeep : ∀ x ∈ Misnamed.directory.shown, ¬TooDeep (Path.parse "d") x := by
    decide +kernel
  obtain ⟨hends, hrecords⟩ :=
    checkPaths_directory Calls.checker hnul hproper Misnamed.find_directory rfl
  obtain ⟨a, ha⟩ := hends.2 hdeep
  obtain ⟨hchecked, hfailed, -⟩ := (hrecords a ha).2 hopen hreadable
  refine ⟨⟨hnul, hproper, Misnamed.find_directory, rfl, hopen, hreadable⟩, a, ha, ?_, ?_⟩
  · rw [hchecked]
    decide +kernel
  · exact (hfailed _).2 ⟨(["B.java"], Misnamed.inner), List.mem_cons_self, rfl, rfl, rfl⟩

/-- Every file of the tree can be read, and still checking the directory `d` fails at the
directory that is named like a file. -/
theorem directory_fails_at_directory :
    Misnamed.tree.find (Path.parse "d") = .ok Misnamed.directory ∧
      Misnamed.tree.isReadable (Path.parse "d/A.java") = true ∧
      Misnamed.tree.isReadable (Path.parse "d/B.java/C.java") = true ∧
      Misnamed.tree.isReadable (Path.parse "d/notes") = true ∧
      (Calls.checker.checkPaths Misnamed.tree [Path.parse "d"]).map Tally.failed =
        .ok [Path.parse "d/B.java"] := by
  refine ⟨Misnamed.find_directory, by decide +kernel, by decide +kernel, by decide +kernel, ?_⟩
  decide +kernel

end Checker
end RoleNaming
