/-
What looking a path up comes to.

A look-up follows the names of a path from place to place.  Where it fails for another reason
than that there is nothing, it cannot be told what the path stands for, and neither can it
where a search comes upon a directory whose path is too long (`Refused`).
`expand_eq_error_iff` says that nothing else is in the way, and `exists_discover_iff` that a
list of paths stands for something where none of them is refused.

`Shows` says what a search comes across without a list of it.
-/
import Mathlib.Data.List.Forall2
import RoleNaming.Files.Discovery

namespace RoleNaming

/-! ## Runs over lists -/

section

variable {α β ε : Type} {f : α → Except ε β}

theorem bind_eq_ok_iff {x : Except ε α} {b : β} :
    x >>= f = .ok b ↔ ∃ a, x = .ok a ∧ f a = .ok b := by
  cases x <;> simp [bind, Except.bind]

theorem bind_eq_error_iff {x : Except ε α} {e : ε} :
    x >>= f = .error e ↔ x = .error e ∨ ∃ a, x = .ok a ∧ f a = .error e := by
  cases x <;> simp [bind, Except.bind]

theorem pure_eq_ok_iff {a b : α} : (pure a : Except ε α) = .ok b ↔ b = a := by
  simp [pure, Except.pure, eq_comm]

theorem pure_ne_error {a : α} {e : ε} : (pure a : Except ε α) ≠ .error e := by
  intro h
  cases h

theorem mapM_eq_ok_iff {xs : List α} {ys : List β} :
    xs.mapM f = .ok ys ↔ List.Forall₂ (fun x y => f x = .ok y) xs ys := by
  induction xs generalizing ys with
  | nil => rw [List.mapM_nil, pure_eq_ok_iff, List.forall₂_nil_left_iff]
  | cons x xs ih =>
    simp only [List.mapM_cons, bind_eq_ok_iff, pure_eq_ok_iff, ih, List.forall₂_cons_left_iff]
    constructor
    · intro ⟨y, hy, rest, hrest, h⟩
      exact ⟨y, rest, hy, hrest, h⟩
    · intro ⟨y, rest, hy, hrest, h⟩
      exact ⟨y, hy, rest, hrest, h⟩

/-- A run over a list fails as it does at the first element at which it fails. -/
theorem mapM_eq_error_iff {xs : List α} {e : ε} :
    xs.mapM f = .error e ↔ ∃ before x after, xs = before ++ x :: after ∧
      (∀ y ∈ before, ∃ b, f y = .ok b) ∧ f x = .error e := by
  induction xs with
  | nil => simp [pure_ne_error]
  | cons y ys ih =>
    simp only [List.mapM_cons, bind_eq_error_iff, pure_ne_error, and_false, exists_false,
      or_false, ih]
    constructor
    · intro h
      rcases h with hy | ⟨b, hb, before, x, after, rfl, hbefore, hx⟩
      · exact ⟨[], y, ys, rfl, List.forall_mem_nil _, hy⟩
      · exact ⟨y :: before, x, after, rfl, List.forall_mem_cons.2 ⟨⟨b, hb⟩, hbefore⟩, hx⟩
    · intro ⟨before, x, after, hsplit, hbefore, hx⟩
      cases before with
      | nil =>
        obtain ⟨rfl, -⟩ := List.cons.inj hsplit
        exact Or.inl hx
      | cons z before =>
        obtain ⟨rfl, rfl⟩ := List.cons.inj hsplit
        obtain ⟨⟨b, hb⟩, hbefore⟩ := List.forall_mem_cons.1 hbefore
        exact Or.inr ⟨b, hb, before, x, after, rfl, hbefore, hx⟩

end

namespace Files

/-! ## What a directory passes on -/

theorem mem_of_find? {entries : List Entry} {name : String} {e : Entry}
    (h : find? entries name = some e) : e ∈ entries ∧ e.name = name := by
  have hname := List.find?_some h
  exact ⟨List.mem_of_find?_eq_some h, by simpa using hname⟩

/-- A step needs a directory that may be searched.  It stays, goes up or goes down to the
entry of that name. -/
theorem Place.step_eq_ok_iff {place b : Place} {name : String} :
    place.step name = .ok b ↔ ∃ n access entries,
      place.here = .dir n access entries ∧ access.search = true ∧
        (name = "." ∧ b = place ∨ name = ".." ∧ b = place.up ∨
          name ≠ "." ∧ name ≠ ".." ∧ name.utf8ByteSize ≤ Path.nameLimit ∧
            ∃ e, find? entries name = some e ∧ b = ⟨e, place.here :: place.above⟩) := by
  constructor
  · intro h
    unfold Place.step at h
    split at h
    · cases h
    rename_i n access entries hhere
    cases hsearch : access.search with
    | false =>
      rw [hsearch, if_pos (by decide)] at h
      cases h
    | true =>
      refine ⟨n, access, entries, hhere, hsearch, ?_⟩
      rw [hsearch, if_neg (by decide)] at h
      by_cases hdot : name = "."
      · rw [if_pos hdot] at h
        exact Or.inl ⟨hdot, (Except.ok.inj h).symm⟩
      by_cases hup : name = ".."
      · rw [if_neg hdot, if_pos hup] at h
        exact Or.inr (Or.inl ⟨hup, (Except.ok.inj h).symm⟩)
      by_cases hlong : Path.nameLimit < name.utf8ByteSize
      · rw [if_neg hdot, if_neg hup, if_pos hlong] at h
        cases h
      rw [if_neg hdot, if_neg hup, if_neg hlong] at h
      cases hfind : find? entries name with
      | none =>
        rw [hfind] at h
        cases h
      | some e =>
        rw [hfind] at h
        have hb := (Except.ok.inj h).symm
        exact Or.inr (Or.inr ⟨hdot, hup, Nat.le_of_not_lt hlong, e, rfl, hb⟩)
  · intro ⟨n, access, entries, hhere, hsearch, hstep⟩
    unfold Place.step
    rw [hhere]
    simp only [hsearch, Bool.not_true, Bool.false_eq_true, if_false]
    rcases hstep with ⟨hname, rfl⟩ | ⟨rfl, rfl⟩ | ⟨hdot, hup, hlimit, e, hfind, rfl⟩
    · rw [if_pos hname]
    · rfl
    · rw [if_neg hdot, if_neg hup, if_neg (Nat.not_lt_of_le hlimit), hfind, hhere]

theorem Place.follow_append (place : Place) (names rest : List String) :
    place.follow (names ++ rest) = place.follow names >>= fun b => b.follow rest :=
  List.foldlM_append

theorem Place.follow_cons (place : Place) (name : String) (rest : List String) :
    place.follow (name :: rest) = place.step name >>= fun b => b.follow rest :=
  List.foldlM_cons

/-- What holds of the entry at a place and of the directories above it. -/
def Place.Has (P : Entry → Prop) (place : Place) : Prop := P place.here ∧ ∀ d ∈ place.above, P d

/-- Whether something holds of the current directory and of those above it. -/
def Tree.all (t : Tree) (f : Entry → Bool) : Bool := (t.start.here :: t.start.above).all f

theorem Tree.has_of_all {t : Tree} {f : Entry → Bool} (h : t.all f = true) :
    t.start.Has fun e => f e = true :=
  List.forall_mem_cons.1 (List.all_eq_true.1 h)

/-- A directory passes the property on to its entries. -/
def Inherited (P : Entry → Prop) : Prop :=
  ∀ name access entries, P (.dir name access entries) → ∀ e ∈ entries, P e

section

variable {P : Entry → Prop}

theorem Place.Has.up {place : Place} (h : place.Has P) : place.up.Has P := by
  obtain ⟨here, above⟩ := place
  cases above with
  | nil => exact h
  | cons d rest => exact ⟨h.2 d List.mem_cons_self, fun u hu => h.2 u (List.mem_cons_of_mem _ hu)⟩

theorem Place.Has.root {place : Place} (h : place.Has P) : place.root.Has P := by
  refine ⟨?_, List.forall_mem_nil _⟩
  show P (place.above.getLast?.getD place.here)
  cases hlast : place.above.getLast? with
  | none => exact h.1
  | some d => exact h.2 d (List.mem_of_getLast? hlast)

/-- A step keeps the property, and a name that leads down is that of an entry that has it. -/
theorem Inherited.of_step (hP : Inherited P) {place b : Place} {name : String} (hplace : place.Has P)
    (h : place.step name = .ok b) :
    b.Has P ∧ (name = "." ∨ name = ".." ∨ ∃ d, P d ∧ d.name = name) := by
  obtain ⟨n, access, entries, hhere, -, hstep⟩ := Place.step_eq_ok_iff.1 h
  rcases hstep with ⟨hname, rfl⟩ | ⟨hname, rfl⟩ | ⟨-, -, -, e, he, rfl⟩
  · exact ⟨hplace, Or.inl hname⟩
  · exact ⟨hplace.up, Or.inr (Or.inl hname)⟩
  · obtain ⟨hmem, hname⟩ := mem_of_find? he
    have hdir : P (.dir n access entries) := hhere ▸ hplace.1
    have he' : P e := hP n access entries hdir e hmem
    exact ⟨⟨he', List.forall_mem_cons.2 hplace⟩, Or.inr (Or.inr ⟨e, he', hname⟩)⟩

theorem Inherited.of_follow (hP : Inherited P) {names : List String} {place b : Place}
    (hplace : place.Has P) (h : place.follow names = .ok b) :
    b.Has P ∧ ∀ name ∈ names, name = "." ∨ name = ".." ∨ ∃ d, P d ∧ d.name = name := by
  induction names generalizing place with
  | nil =>
    obtain rfl : place = b := Except.ok.inj h
    exact ⟨hplace, List.forall_mem_nil _⟩
  | cons name rest ih =>
    rw [Place.follow_cons, bind_eq_ok_iff] at h
    obtain ⟨c, hc, hrest⟩ := h
    obtain ⟨hc', hname⟩ := hP.of_step hplace hc
    obtain ⟨hb, hnames⟩ := ih hc' hrest
    exact ⟨hb, List.forall_mem_cons.2 ⟨hname, hnames⟩⟩

theorem find_eq_ok_iff {t : Tree} {p : Path} {e : Entry} :
    t.find p = .ok e ↔
      p.isTooLong = false ∧ ∃ b, (t.origin p.anchor).follow p.steps = .ok b ∧ b.here = e := by
  unfold Tree.find
  cases p.isTooLong with
  | true => simp
  | false => cases (t.origin p.anchor).follow p.steps <;> simp [Except.map]

theorem Path.mem_steps {p : Path} {name : String} (h : name ∈ p.names) : name ∈ p.steps := by
  unfold Path.steps
  split
  · rename_i hempty
    rw [hempty.2] at h
    cases h
  · exact h

theorem Inherited.of_find (hP : Inherited P) {t : Tree} (ht : t.start.Has P) {p : Path}
    {e : Entry} (h : t.find p = .ok e) :
    P e ∧ ∀ name ∈ p.names, name = "." ∨ name = ".." ∨ ∃ d, P d ∧ d.name = name := by
  obtain ⟨-, b, hb, rfl⟩ := find_eq_ok_iff.1 h
  have horigin : (t.origin p.anchor).Has P := by
    cases p.anchor with
    | here => exact ht
    | root => exact ht.root
    | doubleRoot => exact ht.root
  obtain ⟨hhas, hnames⟩ := hP.of_follow horigin hb
  exact ⟨hhas.1, fun name hname => hnames name (Path.mem_steps hname)⟩

end

/-! ## What a search comes across -/

/-- From the directory `d` a search comes upon the entry `e` by the names: it lists what may
be listed, and goes down where it may pass through. -/
inductive Shows : Entry → List String → Entry → Prop where
  | here {name : String} {access : Access} {entries : List Entry} {e : Entry}
      (hlist : access.list = true) (he : e ∈ entries) :
      Shows (.dir name access entries) [e.name] e
  | down {name : String} {access : Access} {entries : List Entry} {d e : Entry}
      {names : List String} (hlist : access.list = true) (hsearch : access.search = true)
      (hd : d ∈ entries) (h : Shows d names e) :
      Shows (.dir name access entries) (d.name :: names) e

theorem mem_shownIn {search : Bool} {es : List Entry} {x : List String × Entry} :
    x ∈ Entry.shownIn search es ↔
      ∃ d ∈ es, x = ([d.name], d) ∨ search = true ∧ ∃ y ∈ d.shown, x = under d.name y := by
  induction es with
  | nil => simp [Entry.shownIn]
  | cons d es ih =>
    rw [Entry.shownIn, List.cons_append, List.mem_cons, List.mem_append, ih,
      List.exists_mem_cons_iff, or_assoc]
    cases search <;> simp [eq_comm]

theorem shows_of_mem_shown {names : List String} {d e : Entry} (h : (names, e) ∈ d.shown) :
    Shows d names e := by
  induction names generalizing d with
  | nil =>
    cases d with
    | file => simp [Entry.shown] at h
    | dir name access entries =>
      simp [Entry.shown, mem_shownIn, under] at h
  | cons name names ih =>
    cases d with
    | file => simp [Entry.shown] at h
    | dir n access entries =>
      rw [Entry.shown] at h
      split at h
      · rename_i hlist
        obtain ⟨c, hc, heq | ⟨hsearch, ⟨below, e'⟩, hy, heq⟩⟩ := mem_shownIn.1 h
        · cases heq
          exact .here hlist hc
        · cases heq
          exact .down hlist hsearch hc (ih hy)
      · cases h

theorem mem_shown_of_shows {names : List String} {d e : Entry} (h : Shows d names e) :
    (names, e) ∈ d.shown := by
  induction h with
  | here hlist he =>
    rw [Entry.shown, if_pos hlist]
    exact mem_shownIn.2 ⟨_, he, Or.inl rfl⟩
  | down hlist hsearch hd _ ih =>
    rw [Entry.shown, if_pos hlist]
    exact mem_shownIn.2 ⟨_, hd, Or.inr ⟨hsearch, _, ih, rfl⟩⟩

theorem mem_shown_iff {names : List String} {d e : Entry} :
    (names, e) ∈ d.shown ↔ Shows d names e :=
  ⟨shows_of_mem_shown, mem_shown_of_shows⟩

/-- What a directory passes on holds of every entry that a search comes upon, and of those on
the way. -/
theorem Inherited.of_shows {P : Entry → Prop} (hP : Inherited P) {d e : Entry}
    {names : List String} (h : Shows d names e) (hd : P d) :
    P e ∧ ∀ name ∈ names, ∃ c, P c ∧ c.name = name := by
  induction h with
  | here _ he =>
    have he' := hP _ _ _ hd _ he
    exact ⟨he', List.forall_mem_singleton.2 ⟨_, he', rfl⟩⟩
  | down _ _ hc _ ih =>
    have hc' := hP _ _ _ hd _ hc
    obtain ⟨he, hnames⟩ := ih hc'
    exact ⟨he, List.forall_mem_cons.2 ⟨⟨_, hc', rfl⟩, hnames⟩⟩

/-- The names that a directory stands for are those by which a search comes upon an entry that
is named like a Java file. -/
theorem mem_javaNames_iff {d : Entry} {names : List String} :
    names ∈ d.javaNames ↔ ∃ e, Shows d names e ∧ isJavaName e.name = true := by
  simp only [Entry.javaNames, OrderedSet.mem_ofList, List.mem_map, List.mem_filter]
  constructor
  · intro h
    obtain ⟨x, ⟨hx, hjava⟩, rfl⟩ := h
    exact ⟨x.2, mem_shown_iff.1 hx, hjava⟩
  · intro h
    obtain ⟨e, hshows, hjava⟩ := h
    exact ⟨(names, e), ⟨mem_shown_iff.2 hshows, hjava⟩, rfl⟩

/-! ## What a path stands for -/

/-- The search from the directory at `p` would enter a directory whose path is too long. -/
def TooDeep (p : Path) (x : List String × Entry) : Prop :=
  x.2.isFile = false ∧ (p.join x.1).isTooLong = true

instance (p : Path) (x : List String × Entry) : Decidable (TooDeep p x) :=
  inferInstanceAs (Decidable (_ ∧ _))

/-- It cannot be told what the path stands for, and the error says why. -/
inductive Refused (t : Tree) (p : Path) : Error → Prop where
  | lookup {why : ReadFault} (hnul : p.hasNul = false) (hfind : t.find p = .error why)
      (hwhy : why.isAbsence = false) : Refused t p (.lookup p.render why)
  | search {d : Entry} {before after : List (List String × Entry)} {x : List String × Entry}
      (hnul : p.hasNul = false) (hfind : t.find p = .ok d)
      (hshown : d.shown = before ++ x :: after) (hx : TooDeep p x)
      (hbefore : ∀ y ∈ before, ¬TooDeep p y) :
      Refused t p (.lookup (p.join x.1).render .tooLong)

theorem tooDeep?_eq_some_iff {d : Entry} {p q : Path} :
    d.tooDeep? p = some q ↔ ∃ before x after, d.shown = before ++ x :: after ∧ TooDeep p x ∧
      (∀ y ∈ before, ¬TooDeep p y) ∧ p.join x.1 = q := by
  simp only [Entry.tooDeep?, Option.map_eq_some_iff, List.find?_eq_some_iff_append, TooDeep,
    Bool.and_eq_true, Bool.not_eq_true']
  constructor
  · intro ⟨x, ⟨hx, before, after, hshown, hbefore⟩, hq⟩
    refine ⟨before, x, after, hshown, hx, ?_, hq⟩
    intro y hy htoo
    have h := hbefore y hy
    simp [htoo] at h
  · intro ⟨before, x, after, hshown, hx, hbefore, hq⟩
    refine ⟨x, ⟨hx, before, after, hshown, ?_⟩, hq⟩
    intro y hy
    have h := hbefore y hy
    simpa using h

theorem tooDeep?_eq_none_iff {d : Entry} {p : Path} :
    d.tooDeep? p = none ↔ ∀ x ∈ d.shown, ¬TooDeep p x := by
  simp [Entry.tooDeep?, TooDeep]

section

variable {t : Tree} {p : Path}

theorem expand_of_hasNul (hnul : p.hasNul = true) : t.expand p = .ok [p] := by
  rw [Tree.expand, if_pos hnul]

theorem expand_of_file {e : Entry} (hfind : t.find p = .ok e) (he : e.isFile = true) :
    t.expand p = .ok [p] := by
  unfold Tree.expand
  split
  · rfl
  cases e with
  | file name content => rw [hfind]
  | dir name access entries => cases he

theorem expand_of_absence {why : ReadFault} (hfind : t.find p = .error why)
    (hwhy : why.isAbsence = true) : t.expand p = .ok [p] := by
  unfold Tree.expand
  split
  · rfl
  simp only [hfind, hwhy, if_true]

theorem expand_of_fault {why : ReadFault} (hnul : p.hasNul = false)
    (hfind : t.find p = .error why) (hwhy : why.isAbsence = false) :
    t.expand p = .error (.lookup p.render why) := by
  simp [Tree.expand, hnul, hfind, hwhy]

theorem expand_of_directory {d : Entry} (hnul : p.hasNul = false) (hfind : t.find p = .ok d)
    (hd : d.isFile = false) :
    t.expand p =
      match d.tooDeep? p with
      | some q => .error (.lookup q.render .tooLong)
      | none => .ok (d.javaNames.map p.join) := by
  cases d with
  | file name content => cases hd
  | dir name access entries =>
    simp only [Tree.expand, hnul, hfind]
    cases (Entry.dir name access entries).tooDeep? p with
    | some q => rfl
    | none => rfl

/-- A path is refused, is a directory that can be searched, or stands for itself. -/
theorem expand_cases (t : Tree) (p : Path) :
    (∃ e, Refused t p e ∧ t.expand p = .error e) ∨
    (∃ d, p.hasNul = false ∧ t.find p = .ok d ∧ d.isFile = false ∧ (∀ x ∈ d.shown, ¬TooDeep p x) ∧
      t.expand p = .ok (d.javaNames.map p.join)) ∨
    (p.hasNul = true ∨ ∀ d, t.find p = .ok d → d.isFile = true) ∧ t.expand p = .ok [p] := by
  cases hnul : p.hasNul with
  | true => exact Or.inr (Or.inr ⟨Or.inl rfl, expand_of_hasNul hnul⟩)
  | false =>
    cases hfind : t.find p with
    | error why =>
      cases hwhy : why.isAbsence with
      | true =>
        refine Or.inr (Or.inr ⟨Or.inr ?_, expand_of_absence hfind hwhy⟩)
        intro d hd
        cases hd
      | false => exact Or.inl ⟨_, .lookup hnul hfind hwhy, expand_of_fault hnul hfind hwhy⟩
    | ok d =>
      cases hd : d.isFile with
      | true =>
        refine Or.inr (Or.inr ⟨Or.inr ?_, expand_of_file hfind hd⟩)
        intro d' hd'
        rw [← Except.ok.inj hd', hd]
      | false =>
        have hexpand := expand_of_directory hnul hfind hd
        cases hdeep : d.tooDeep? p with
        | some q =>
          rw [hdeep] at hexpand
          obtain ⟨before, x, after, hshown, hx, hbefore, rfl⟩ := tooDeep?_eq_some_iff.1 hdeep
          exact Or.inl ⟨_, .search hnul hfind hshown hx hbefore, hexpand⟩
        | none =>
          rw [hdeep] at hexpand
          exact Or.inr (Or.inl ⟨d, rfl, rfl, hd, tooDeep?_eq_none_iff.1 hdeep, hexpand⟩)

theorem Refused.expand {e : Error} (h : Refused t p e) : t.expand p = .error e := by
  cases h with
  | lookup hnul hfind hwhy => exact expand_of_fault hnul hfind hwhy
  | @search d before after x hnul hfind hshown hx hbefore =>
    have hd : d.isFile = false := by
      cases d with
      | file name content =>
        rw [Entry.shown] at hshown
        cases before <;> cases hshown
      | dir name access entries => rfl
    have hdeep := tooDeep?_eq_some_iff.2 ⟨before, x, after, hshown, hx, hbefore, rfl⟩
    rw [expand_of_directory hnul hfind hd, hdeep]

theorem expand_eq_error_iff {e : Error} : t.expand p = .error e ↔ Refused t p e := by
  constructor
  · intro h
    rcases expand_cases t p with ⟨e', hrefused, he'⟩ | ⟨d, -, -, -, -, hd⟩ | ⟨-, hp⟩
    · rw [he'] at h
      rwa [← Except.error.inj h]
    · rw [hd] at h
      cases h
    · rw [hp] at h
      cases h
  · exact Refused.expand

theorem expand_other (h : ∀ d, t.find p = .ok d → d.isFile = true) {part : List Path}
    (hpart : t.expand p = .ok part) : part = [p] := by
  rcases expand_cases t p with ⟨e, -, he⟩ | ⟨d, -, hfind, hd, -⟩ | ⟨-, hself⟩
  · rw [he] at hpart
    cases hpart
  · rw [h d hfind] at hd
    cases hd
  · rw [hself] at hpart
    exact (Except.ok.inj hpart).symm

theorem exists_expand_iff : (∃ part, t.expand p = .ok part) ↔ ∀ e, ¬Refused t p e := by
  simp only [← expand_eq_error_iff]
  cases t.expand p <;> simp

end

section

variable {t : Tree} {ps : List Path}

theorem discover_eq_ok_iff {found : List Path} :
    t.discover ps = .ok found ↔ ∃ parts, found = parts.flatten ∧
      List.Forall₂ (fun p part => t.expand p = .ok part) ps parts := by
  simp only [Tree.discover, bind_eq_ok_iff, pure_eq_ok_iff, mapM_eq_ok_iff]
  constructor
  · intro ⟨parts, hparts, hfound⟩
    exact ⟨parts, hfound, hparts⟩
  · intro ⟨parts, hfound, hparts⟩
    exact ⟨parts, hparts, hfound⟩

/-- The first path that is refused decides. -/
theorem discover_eq_error_iff {e : Error} :
    t.discover ps = .error e ↔ ∃ before p after, ps = before ++ p :: after ∧
      (∀ q ∈ before, ∀ e', ¬Refused t q e') ∧ Refused t p e := by
  simp only [Tree.discover, bind_eq_error_iff, pure_ne_error, and_false, exists_false, or_false,
    mapM_eq_error_iff, expand_eq_error_iff, exists_expand_iff]

theorem exists_discover_iff :
    (∃ found, t.discover ps = .ok found) ↔ ∀ p ∈ ps, ∀ e, ¬Refused t p e := by
  constructor
  · intro ⟨found, h⟩
    obtain ⟨parts, -, hparts⟩ := discover_eq_ok_iff.1 h
    have hfree : List.Forall₂ (fun p part => (∀ e, ¬Refused t p e) ∧ t.expand p = .ok part)
        ps parts :=
      hparts.imp fun p part hpart => ⟨exists_expand_iff.1 ⟨part, hpart⟩, hpart⟩
    exact ((List.forall₂_and_left ps parts).1 hfree).1
  · intro h
    cases hdiscover : t.discover ps with
    | ok found => exact ⟨found, rfl⟩
    | error e =>
      obtain ⟨before, p, after, rfl, -, hrefused⟩ := discover_eq_error_iff.1 hdiscover
      exact absurd hrefused (h p (List.mem_append_right _ List.mem_cons_self) e)

end

end Files
end RoleNaming
