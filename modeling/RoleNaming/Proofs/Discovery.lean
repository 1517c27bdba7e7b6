/-
What a list of paths stands for.

`discover_lists` is the theorem.  The paths are taken one after the other.  A directory stands
for all that a search from it comes upon and that is named like a Java file, each once, in the
order of the names along the way; every other path stands for itself.  Where a directory is
open, that is all that lies below it, at any depth.

A list with a path of which it cannot be told what it stands for stands for nothing.
`long_name_not_listed` shows it for a name that is too long.

The names are sorted as lists, not as the texts that they are printed as: `a!/B.java` comes
behind `a/B.java`, although `!` is less than `/`.
-/
import RoleNaming.Proofs.Directory

namespace RoleNaming
namespace Files

theorem isJavaName_iff {name : String} :
    isJavaName name = true ↔ ".java".toList <:+ name.toList :=
  List.isSuffixOf_iff_suffix

/-! ## The order of paths -/

/-- The components of a path: where it starts, unless that is the current directory, and its
names. -/
def Path.components (p : Path) : List String :=
  match p.anchor with
  | .here => p.names
  | .root | .doubleRoot => p.anchor.text :: p.names

theorem Path.components_join (p : Path) (names : List String) :
    (p.join names).components = p.components ++ names := by
  obtain ⟨anchor, own⟩ := p
  cases anchor with
  | here => rfl
  | root => rfl
  | doubleRoot => rfl

/-! ## What a path stands for -/

/-- `part` lists what a search from the directory `d` at `p` comes upon and is named like a
Java file: nothing else, each once and in increasing order. -/
structure Lists (p : Path) (d : Entry) (part : List Path) : Prop where
  mem_iff : ∀ q, q ∈ part ↔
    ∃ names e, Shows d names e ∧ ".java".toList <:+ e.name.toList ∧ q = p.join names
  once : ∀ q ∈ part, part.count q = 1
  increasing : part.Pairwise fun q r => q.components < r.components

/-- What a path stands for: a directory for what a search from it comes upon, any other path
for itself. -/
structure StandsFor (t : Tree) (p : Path) (part : List Path) : Prop where
  directory : ∀ d, p.hasNul = false → t.find p = .ok d → d.isFile = false → Lists p d part
  other : (p.hasNul = true ∨ ∀ d, t.find p = .ok d → d.isFile = true) → part = [p]

section

variable {t : Tree} {p : Path} {d : Entry}

theorem increasing_map_join_javaNames :
    (d.javaNames.map p.join).Pairwise fun q r => q.components < r.components := by
  rw [List.pairwise_map]
  refine (OrderedSet.increasing_ofList _).imp ?_
  intro a b hab
  rw [Path.components_join, Path.components_join]
  exact List.append_left_lt hab

theorem lists_map_join_javaNames : Lists p d (d.javaNames.map p.join) := by
  refine ⟨?_, ?_, increasing_map_join_javaNames⟩
  · intro q
    rw [mem_map_join_javaNames]
    constructor
    · intro ⟨⟨names, e⟩, hx, hjava, hq⟩
      exact ⟨names, e, mem_shown_iff.1 hx, isJavaName_iff.1 hjava, hq⟩
    · intro ⟨names, e, hshows, hjava, hq⟩
      exact ⟨(names, e), mem_shown_iff.2 hshows, isJavaName_iff.2 hjava, hq⟩
  · intro q hq
    have hnodup : ((d.javaNames.map p.join).map Path.components).Nodup :=
      (List.pairwise_map.2 increasing_map_join_javaNames).nodup
    exact List.count_eq_one_of_mem hnodup.of_map hq

theorem standsFor_of_expand {part : List Path} (h : t.expand p = .ok part) :
    StandsFor t p part := by
  constructor
  · intro d hnul hfind hd
    obtain ⟨-, rfl⟩ := (expand_directory hnul hfind hd).1 h
    exact lists_map_join_javaNames
  · intro hother
    rcases hother with hnul | hother
    · rw [expand_of_hasNul hnul] at h
      exact (Except.ok.inj h).symm
    · exact expand_other hother h

end

/-- A list of paths stands for what its paths stand for, one after the other, and for nothing
where it cannot be told what one of them stands for.  In a tree that a file system can hold, no
two entries of a directory share the names that lead to them, and these are found as far as
they are followed; an open directory shows all that lies below it. -/
theorem discover_lists (t : Tree) (paths : List String) :
    ((∃ found, t.discover (paths.map Path.parse) = .ok found) ↔
      ∀ path ∈ paths, ∀ e, ¬Refused t (Path.parse path) e) ∧
    (∀ found, t.discover (paths.map Path.parse) = .ok found →
      ∃ parts, found = parts.flatten ∧
        List.Forall₂ (fun path part => StandsFor t (Path.parse path) part) paths parts) ∧
    (t.proper = true → ∀ p d, t.find p = .ok d →
      (∀ names e found, Leads d names e → t.find (p.join names) = .ok found → found = e) ∧
      (∀ names e e', Leads d names e → Leads d names e' → e = e') ∧
      (d.isOpen = true → ∀ names e, (Shows d names e ↔ Leads d names e) ∧
        (Leads d names e → (p.join names).isTooLong = false →
          t.find (p.join names) = .ok e))) := by
  refine ⟨?_, ?_, ?_⟩
  · rw [exists_discover_iff, List.forall_mem_map]
  · intro found hfound
    obtain ⟨parts, rfl, hparts⟩ := discover_eq_ok_iff.1 hfound
    rw [List.forall₂_map_left_iff] at hparts
    exact ⟨parts, rfl, hparts.imp fun path part => standsFor_of_expand⟩
  · intro ht p d hd
    refine ⟨?_, ?_, ?_⟩
    · intro names e found hleads hfound
      exact hleads.find ht hd hfound
    · intro names e e' h h'
      exact h.unique h' (proper_of_find ht hd)
    · intro hopen names e
      refine ⟨⟨Shows.leads, fun h => h.shows hopen⟩, ?_⟩
      intro hleads hshort
      exact hleads.find_of_isOpen ht hd hopen hshort

/-! ### Names that the separator comes between

Below the directory `d` lie the files `a/B.java` and `a!/.java`; the path `gone` leads
nowhere. -/

namespace Separated

def file : Entry := .file ".java" (.ok Checker.Calls.source)

def directory : Entry :=
  .dir "d" .full
    [.dir "a!" .full [file],
      .dir "a" .full [.file "B.java" (.ok Checker.Calls.source),
        .file "notes" (.ok Checker.Calls.source)]]

def tree : Tree := .ofEntries [directory]

def paths : List String := ["d", "gone"]

theorem find_directory : tree.find (Path.parse "d") = .ok directory := by
  rfl

theorem leads : Leads directory ["a!", ".java"] file :=
  .down (.head _) (.here (e := file) (.head _))

theorem discover_eq : tree.discover (paths.map Path.parse) =
    .ok [⟨.here, ["d", "a", "B.java"]⟩, ⟨.here, ["d", "a!", ".java"]⟩, ⟨.here, ["gone"]⟩] := by
  decide +kernel

end Separated

theorem discover_lists_separated :
    (Separated.tree.proper = true ∧
      Separated.tree.find (Path.parse "d") = .ok Separated.directory ∧
      Separated.directory.isOpen = true ∧
      Leads Separated.directory ["a!", ".java"] Separated.file) ∧
    Separated.tree.find ((Path.parse "d").join ["a!", ".java"]) = .ok Separated.file ∧
    ∃ part, Separated.tree.discover (Separated.paths.map Path.parse) =
        .ok (part ++ [Path.parse "gone"]) ∧
      (Path.parse "d").join ["a!", ".java"] ∈ part := by
  have hproper : Separated.tree.proper = true := by decide +kernel
  have hopen : Separated.directory.isOpen = true := by decide +kernel
  have hshort : ((Path.parse "d").join ["a!", ".java"]).isTooLong = false := by decide +kernel
  obtain ⟨-, hlists, hleads⟩ := discover_lists Separated.tree Separated.paths
  obtain ⟨-, -, hshown⟩ := hleads hproper _ _ Separated.find_directory
  obtain ⟨hshows, hfind⟩ := hshown hopen ["a!", ".java"] Separated.file
  refine ⟨⟨hproper, Separated.find_directory, hopen, Separated.leads⟩,
    hfind Separated.leads hshort, ?_⟩
  obtain ⟨parts, hparts, hstands⟩ := hlists _ Separated.discover_eq
  obtain ⟨part, rest, hfirst, hrest, rfl⟩ := List.forall₂_cons_left_iff.1 hstands
  obtain ⟨last, nothing, hlast, hnothing, rfl⟩ := List.forall₂_cons_left_iff.1 hrest
  obtain rfl := List.forall₂_nil_left_iff.1 hnothing
  have hgone : last = [Path.parse "gone"] := by
    refine hlast.other (Or.inr ?_)
    intro d hd
    have hmissing : Separated.tree.find (Path.parse "gone") = .error .missing := rfl
    rw [hmissing] at hd
    cases hd
  refine ⟨part, ?_, ?_⟩
  · rw [Separated.discover_eq, hparts, hgone]
    rfl
  · have hpart := hfirst.directory _ (by decide) Separated.find_directory rfl
    exact (hpart.mem_iff _).2 ⟨_, _, hshows.2 Separated.leads, by decide, rfl⟩

/-- A name that is too long leads to no directory, and still no list that it stands in stands
for anything. -/
theorem long_name_not_listed :
    (∀ d, Tree.empty.find (Path.parse Checker.Overlong.name) ≠ .ok d) ∧
      ∃ e, Tree.empty.discover ([Checker.Overlong.name].map Path.parse) = .error e := by
  constructor
  · intro d hd
    rw [Tree.empty, Checker.Overlong.find_name] at hd
    cases hd
  · exact ⟨_, discover_eq_error_iff.2 ⟨[], _, [], rfl, List.forall_mem_nil _,
      Checker.Overlong.refused_name []⟩⟩

end Files
end RoleNaming
