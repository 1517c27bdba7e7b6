/-
Names without NUL characters.

No entry of a file system has a NUL character in its name.  So nothing is found at a path that
has one (`hasNul_of_find`), and a path without it never stands for one with it
(`hasNul_of_mem_expand`).  Reading a path as it is written neither brings a NUL character in
nor drops one.
-/
import RoleNaming.Proofs.Lookup

namespace RoleNaming
namespace Files

/-! ## The names of a tree -/

def nulFree (name : String) : Bool := !name.toList.contains (Char.ofNat 0)

/- Whether all names at and below an entry are free of NUL. -/
mutual
def Entry.nulFree : Entry → Bool
  | .file name _ => Files.nulFree name
  | .dir name _ entries => Files.nulFree name && Entry.nulFreeAll entries

def Entry.nulFreeAll : List Entry → Bool
  | [] => true
  | e :: es => e.nulFree && Entry.nulFreeAll es
end

/-- The names that a file system can give to files. -/
def Tree.nulFree (t : Tree) : Bool := t.all Entry.nulFree

theorem Entry.nulFreeAll_eq_true_iff {es : List Entry} :
    Entry.nulFreeAll es = true ↔ ∀ e ∈ es, e.nulFree = true := by
  induction es with
  | nil => simp [Entry.nulFreeAll]
  | cons e es ih => rw [Entry.nulFreeAll, Bool.and_eq_true, ih, List.forall_mem_cons]

theorem Entry.nulFree_name {e : Entry} (h : e.nulFree = true) : Files.nulFree e.name = true := by
  cases e with
  | file name content => exact h
  | dir name access entries =>
    rw [Entry.nulFree, Bool.and_eq_true] at h
    exact h.1

theorem inherited_nulFree : Inherited fun e => e.nulFree = true := by
  intro name access entries h
  rw [Entry.nulFree, Bool.and_eq_true] at h
  exact Entry.nulFreeAll_eq_true_iff.1 h.2

theorem hasNul_eq_false_iff {p : Path} :
    p.hasNul = false ↔ ∀ n ∈ p.names, nulFree n = true := by
  simp [Path.hasNul, nulFree]

theorem hasNul_of_find {t : Tree} (ht : t.nulFree = true) {p : Path} {e : Entry}
    (h : t.find p = .ok e) : p.hasNul = false := by
  rw [hasNul_eq_false_iff]
  intro name hname
  have hnames := (inherited_nulFree.of_find (Tree.has_of_all ht) h).2 name hname
  rcases hnames with rfl | rfl | ⟨d, hd, rfl⟩
  · decide
  · decide
  · exact Entry.nulFree_name hd

theorem hasNul_of_mem_expand {t : Tree} (ht : t.nulFree = true) {p q : Path} {part : List Path}
    (hp : p.hasNul = false) (h : t.expand p = .ok part) (hq : q ∈ part) : q.hasNul = false := by
  rcases expand_cases t p with ⟨e, -, he⟩ | ⟨d, -, hfind, -, -, hd⟩ | ⟨-, hself⟩
  · rw [he] at h
    cases h
  · rw [hd] at h
    obtain rfl := Except.ok.inj h
    obtain ⟨names, hnames, rfl⟩ := List.mem_map.1 hq
    obtain ⟨e, hshows, -⟩ := mem_javaNames_iff.1 hnames
    have hd' := (inherited_nulFree.of_find (Tree.has_of_all ht) hfind).1
    rw [hasNul_eq_false_iff] at hp ⊢
    refine List.forall_mem_append.2 ⟨hp, ?_⟩
    intro name hname
    obtain ⟨c, hc, rfl⟩ := (inherited_nulFree.of_shows hshows hd').2 name hname
    exact Entry.nulFree_name hc
  · rw [hself] at h
    obtain rfl := Except.ok.inj h
    rw [List.mem_singleton.1 hq]
    exact hp

/-! ## Paths as they are written -/

theorem mem_of_mem_pieces {sep c : Char} {cs p : List Char} (hp : p ∈ Path.pieces sep cs)
    (hc : c ∈ p) : c ∈ cs := by
  fun_induction Path.pieces sep cs generalizing p with
  | case1 =>
    rw [List.mem_singleton.1 hp] at hc
    cases hc
  | case2 cs ih =>
    cases List.mem_cons.1 hp with
    | inl hnil => rw [hnil] at hc; cases hc
    | inr hrest => exact List.mem_cons_of_mem _ (ih hrest hc)
  | case3 d cs hd hnil ih =>
    rw [List.mem_singleton.1 hp, List.mem_singleton] at hc
    rw [hc]
    exact List.mem_cons_self
  | case4 d cs hd q qs hpieces ih =>
    rw [hpieces] at ih
    cases List.mem_cons.1 hp with
    | inl hfirst =>
      rw [hfirst] at hc
      cases List.mem_cons.1 hc with
      | inl hd => rw [hd]; exact List.mem_cons_self
      | inr hq => exact List.mem_cons_of_mem _ (ih List.mem_cons_self hq)
    | inr hrest => exact List.mem_cons_of_mem _ (ih (List.mem_cons_of_mem _ hrest) hc)

theorem hasNul_parse {s : String} (h : nulFree s = true) : (Path.parse s).hasNul = false := by
  rw [hasNul_eq_false_iff]
  intro n hn
  obtain ⟨p, hp, rfl⟩ := List.mem_map.1 (List.mem_of_mem_filter hn)
  simp only [nulFree, Bool.not_eq_true', List.contains_eq_mem, decide_eq_false_iff_not,
    String.toList_ofList] at h ⊢
  exact fun hnul => h (mem_of_mem_pieces hp hnul)

theorem hasNul_of_mem_parse {paths : List String} (h : ∀ s ∈ paths, nulFree s = true) :
    ∀ p ∈ paths.map Path.parse, p.hasNul = false :=
  List.forall_mem_map.2 fun s hs => hasNul_parse (h s hs)

theorem exists_piece {sep c : Char} (hsep : c ≠ sep) {cs : List Char} (hc : c ∈ cs) :
    ∃ p ∈ Path.pieces sep cs, c ∈ p := by
  fun_induction Path.pieces sep cs with
  | case1 => cases hc
  | case2 cs ih =>
    obtain ⟨p, hp, hcp⟩ := ih ((List.mem_cons.1 hc).resolve_left hsep)
    exact ⟨p, List.mem_cons_of_mem _ hp, hcp⟩
  | case3 d cs hd hnil ih =>
    cases List.mem_cons.1 hc with
    | inl h => exact ⟨[d], List.mem_singleton_self _, List.mem_singleton.2 h⟩
    | inr h =>
      obtain ⟨p, hp, -⟩ := ih h
      rw [hnil] at hp
      cases hp
  | case4 d cs hd q qs hpieces ih =>
    rw [hpieces] at ih
    cases List.mem_cons.1 hc with
    | inl h => exact ⟨d :: q, List.mem_cons_self, h ▸ List.mem_cons_self⟩
    | inr h =>
      obtain ⟨p, hp, hcp⟩ := ih h
      cases List.mem_cons.1 hp with
      | inl hfirst => exact ⟨d :: q, List.mem_cons_self, List.mem_cons_of_mem _ (hfirst ▸ hcp)⟩
      | inr hrest => exact ⟨p, List.mem_cons_of_mem _ hrest, hcp⟩

/-- Reading a path keeps a NUL character: the name that holds it is none of those that say
nothing. -/
theorem hasNul_parse_of_nul {s : String} (h : nulFree s = false) :
    (Path.parse s).hasNul = true := by
  have hnul : Char.ofNat 0 ∈ s.toList := by simpa [nulFree] using h
  have hslash : Char.ofNat 0 ≠ '/' := by decide
  obtain ⟨p, hp, hc⟩ := exists_piece hslash hnul
  have hname : nulFree (String.ofList p) = false := by simpa [nulFree] using hc
  have hkept : (String.ofList p != "" && String.ofList p != ".") = true := by
    rw [Bool.and_eq_true, bne_iff_ne, bne_iff_ne]
    constructor
    · intro hempty
      rw [hempty] at hname
      exact absurd hname (by decide)
    · intro hdot
      rw [hdot] at hname
      exact absurd hname (by decide)
  rw [Path.hasNul, List.any_eq_true]
  refine ⟨String.ofList p, List.mem_filter.2 ⟨List.mem_map_of_mem hp, hkept⟩, ?_⟩
  simpa [nulFree] using hname

/-! ### A name that is too long -/

theorem pieces_of_not_mem {sep : Char} {cs : List Char} (h : sep ∉ cs) :
    Path.pieces sep cs = [cs] := by
  induction cs with
  | nil => rfl
  | cons c cs ih =>
    rw [List.mem_cons, not_or] at h
    rw [Path.pieces, if_neg fun hc => h.1 hc.symm, ih h.2]

/-- A name is a path of its own. -/
theorem parse_name {s : String} (hslash : '/' ∉ s.toList) (hempty : s ≠ "") (hdot : s ≠ ".") :
    Path.parse s = ⟨.here, [s]⟩ := by
  have hanchor : s.toList.takeWhile (fun c => c == '/') = [] := by
    cases hs : s.toList with
    | nil => rfl
    | cons c cs =>
      rw [hs, List.mem_cons, not_or] at hslash
      rw [List.takeWhile_cons_of_neg]
      intro hc
      exact hslash.1 (beq_iff_eq.1 hc).symm
  rw [Path.parse, Path.anchorOf, hanchor, pieces_of_not_mem hslash]
  simp [hempty, hdot]

section

variable {t : Tree} {n : String} {access : Access} {entries : List Entry} {name : String}

theorem ne_of_long_name {short : String} (hlong : Path.nameLimit < name.utf8ByteSize)
    (hshort : short.utf8ByteSize ≤ Path.nameLimit) : name ≠ short := by
  intro h
  rw [h] at hlong
  omega

theorem parse_long_name (hslash : '/' ∉ name.toList)
    (hlong : Path.nameLimit < name.utf8ByteSize) : Path.parse name = ⟨.here, [name]⟩ :=
  parse_name hslash (ne_of_long_name hlong (by decide)) (ne_of_long_name hlong (by decide))

theorem find_long_name (hhere : t.start.here = .dir n access entries)
    (hsearch : access.search = true) (hslash : '/' ∉ name.toList)
    (hlong : Path.nameLimit < name.utf8ByteSize) :
    t.find (Path.parse name) = .error .tooLong := by
  have hdot : name ≠ "." := ne_of_long_name hlong (by decide)
  have hup : name ≠ ".." := ne_of_long_name hlong (by decide)
  have hstep : t.start.step name = .error .tooLong := by
    simp only [Place.step, hhere, hsearch, hdot, hup, hlong, Bool.not_true, Bool.false_eq_true,
      if_false, if_true]
  rw [parse_long_name hslash hlong]
  unfold Tree.find
  split
  · rfl
  · show (t.start.follow [name]).map Place.here = _
    rw [Place.follow_cons, hstep]
    rfl

/-- Where the current directory may be searched, a name that is too long is refused. -/
theorem refused_long_name (hhere : t.start.here = .dir n access entries)
    (hsearch : access.search = true) (hslash : '/' ∉ name.toList)
    (hlong : Path.nameLimit < name.utf8ByteSize) (hnul : nulFree name = true) :
    Refused t (Path.parse name) (.lookup name .tooLong) := by
  have hrender : (Path.parse name).render = name := by
    have hempty : name ≠ "" := ne_of_long_name hlong (by decide)
    rw [parse_long_name hslash hlong]
    simp [Path.render, Anchor.text, hempty]
  have hrefused : Refused t (Path.parse name) (.lookup (Path.parse name).render .tooLong) :=
    .lookup (hasNul_parse hnul) (find_long_name hhere hsearch hslash hlong) rfl
  rwa [hrender] at hrefused

end

end Files
end RoleNaming
