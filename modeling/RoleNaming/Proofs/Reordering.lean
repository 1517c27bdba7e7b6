/-
The order of the declarations of a file.

What a file can name is read off its declarations from the first to the last, and a later one
may take the place of an earlier one.  `ofRoot_reordered` says how far the order matters: only
among the package declarations, and among the imports of one simple name.  Imports that bring
in no types may be left out altogether.

One case is about trees and not about files.  Where the root is itself a type declaration, its
name is the first of its children in that field, and other children may come first
(`declared_type_reordered`).
-/
import RoleNaming.Proofs.Comments.Stripped
import RoleNaming.Proofs.Denotation

namespace RoleNaming

open Syntax

namespace Visibility

/-! ## Other orders -/

def isPackage (n : Node) : Bool := n.kind == "package_declaration"

/-- Whether a declaration imports a type by the simple name given. -/
def importsAs (bytes : Bytes) (simple : String) (n : Node) : Bool :=
  (importedType? bytes n).any fun q => Text.simpleName q == simple

/-- The declarations `ds` are those of `cs` in another order.  The package declarations keep
their order, and so do the imports of each simple name. -/
structure Reordered (bytes : Bytes) (cs ds : List Node) : Prop where
  perm : ds.Perm cs
  packages : ds.filter isPackage = cs.filter isPackage
  imports : ∀ simple, ds.filter (importsAs bytes simple) = cs.filter (importsAs bytes simple)

/-- The children that are asked for the root's own name keep their order.  They are asked only
of a root that is a type declaration. -/
def KeepsName (root : Label) (cs ds : List Node) : Prop :=
  typeDeclarationKinds.contains root.kind = true →
    (ds.filter fun n => n.label.field == some "name") =
      cs.filter fun n => n.label.field == some "name"

/-- The files have the same package and the same imports. -/
structure SameHead (v w : Visibility) : Prop where
  package : w.package = v.package
  imported : ∀ simple, w.imported? simple = v.imported? simple
  onDemand : w.onDemand = v.onDemand

/-- An import that brings in no types: a static one, or one without a target. -/
def IsIdleImport (n : Node) : Prop :=
  n.kind = "import_declaration" ∧
    ((∃ c ∈ n.children, c.kind = "static") ∨
      ∀ c ∈ n.namedChildren, c.kind ≠ "scoped_identifier" ∧ c.kind ≠ "identifier")

section

variable {bytes : Bytes} {cs ds : List Node}

/-! ## Package and imports -/

theorem packageNames_of_not_isPackage {n : Node} (h : ¬isPackage n = true) :
    packageNames bytes n = [] :=
  if_neg fun hkind => h (beq_iff_eq.2 hkind)

theorem flatMap_packageNames_filter (bytes : Bytes) (cs : List Node) :
    (cs.filter isPackage).flatMap (packageNames bytes) = cs.flatMap (packageNames bytes) := by
  induction cs with
  | nil => rfl
  | cons c cs ih =>
    by_cases hc : isPackage c = true
    · rw [List.filter_cons_of_pos hc, List.flatMap_cons, List.flatMap_cons, ih]
    · rw [List.filter_cons_of_neg hc, List.flatMap_cons, ih, packageNames_of_not_isPackage hc,
        List.nil_append]

theorem filePackage_reordered (h : Reordered bytes cs ds) (l : Label) :
    filePackage bytes (.mk l ds) = filePackage bytes (.mk l cs) := by
  show (ds.flatMap (packageNames bytes)).getLast?.getD "" = (cs.flatMap _).getLast?.getD ""
  rw [← flatMap_packageNames_filter bytes ds, h.packages, flatMap_packageNames_filter]

/-- The imports of a simple name are those of the declarations that import it. -/
theorem filter_importedTypes (bytes : Bytes) (l : Label) (cs : List Node) (simple : String) :
    ((importedTypes bytes (.mk l cs)).filter fun q => Text.simpleName q == simple) =
      (cs.filter (importsAs bytes simple)).filterMap (importedType? bytes) := by
  show ((cs.filterMap (importedType? bytes)).filter _) = _
  rw [List.filter_filterMap, List.filterMap_filter]
  congr 1
  funext n
  unfold importsAs
  cases importedType? bytes n with
  | none => rfl
  | some q => rfl

theorem imported?_reordered (h : Reordered bytes cs ds) (l : Label) (simple : String) :
    (ofRoot bytes (.mk l ds)).imported? simple = (ofRoot bytes (.mk l cs)).imported? simple := by
  rw [imported?_ofRoot, imported?_ofRoot, filter_importedTypes, filter_importedTypes, h.imports]

/-! ## Packages imported on demand -/

theorem increasing_onDemand_add {v : Visibility} (h : v.onDemand.Pairwise (· < ·))
    (heading : Heading) : (v.add heading).onDemand.Pairwise (· < ·) := by
  cases heading with
  | package p => exact h
  | typeImport q => exact h
  | onDemand p => exact OrderedSet.increasing_insert p h

theorem increasing_onDemand_foldl_add (hs : List Heading) {v : Visibility}
    (h : v.onDemand.Pairwise (· < ·)) : (hs.foldl add v).onDemand.Pairwise (· < ·) := by
  induction hs generalizing v with
  | nil => exact h
  | cons heading hs ih => exact ih (increasing_onDemand_add h heading)

theorem increasing_onDemand_ofRoot (bytes : Bytes) (root : Node) :
    (ofRoot bytes root).onDemand.Pairwise (· < ·) :=
  increasing_onDemand_foldl_add (Heading.ofRoot bytes root) .nil

theorem onDemand_reordered (h : Reordered bytes cs ds) (l : Label) :
    (ofRoot bytes (.mk l ds)).onDemand = (ofRoot bytes (.mk l cs)).onDemand := by
  apply OrderedSet.eq_of_mem_iff (increasing_onDemand_ofRoot _ _) (increasing_onDemand_ofRoot _ _)
  intro p
  rw [mem_onDemand_ofRoot, mem_onDemand_ofRoot]
  exact (h.perm.filterMap (importedPackage? bytes)).mem_iff

/-! ## Declared types -/

theorem mem_declared_iff_within {root : Node} {simple : String} :
    simple ∈ (ofRoot bytes root).declared ↔
      ∃ n : Node, n.Within root ∧ declaredType? bytes n = some simple := by
  show simple ∈ declaredTypes bytes root ↔ _
  rw [declaredTypes, OrderedSet.mem_ofList, List.mem_filterMap]
  simp only [Node.mem_descendants]

/-- A type that a tree declares is the root's own or is declared below one of the children. -/
theorem mem_declared_mk_iff {l : Label} {simple : String} :
    simple ∈ (ofRoot bytes (.mk l cs)).declared ↔
      declaredType? bytes (.mk l cs) = some simple ∨
        ∃ c ∈ cs, ∃ n : Node, n.Within c ∧ declaredType? bytes n = some simple := by
  rw [mem_declared_iff_within]
  constructor
  · intro ⟨n, hn, hsimple⟩
    cases hn with
    | self => exact Or.inl hsimple
    | @child _ c hc hn => exact Or.inr ⟨c, hc, n, hn, hsimple⟩
  · intro h
    rcases h with hsimple | ⟨c, hc, n, hn, hsimple⟩
    · exact ⟨_, .self, hsimple⟩
    · exact ⟨n, .child hc hn, hsimple⟩

theorem declaredType?_of_keepsName {l : Label} (h : KeepsName l cs ds) :
    declaredType? bytes (.mk l ds) = declaredType? bytes (.mk l cs) := by
  unfold declaredType?
  by_cases hkind : typeDeclarationKinds.contains l.kind = true
  · have hname : (Node.mk l ds).child? "name" = (Node.mk l cs).child? "name" := by
      show (ds.find? fun n => n.label.field == some "name") = cs.find? _
      rw [← List.head?_filter, h hkind, List.head?_filter]
    show (if typeDeclarationKinds.contains l.kind then _ else _) =
      if typeDeclarationKinds.contains l.kind then _ else _
    rw [if_pos hkind, if_pos hkind, hname]
  · exact (if_neg hkind).trans (if_neg hkind).symm

theorem increasing_declared_ofRoot (bytes : Bytes) (root : Node) :
    (ofRoot bytes root).declared.Pairwise (· < ·) :=
  OrderedSet.increasing_ofList _

theorem declared_reordered (hperm : ds.Perm cs) {l : Label} (hname : KeepsName l cs ds) :
    (ofRoot bytes (.mk l ds)).declared = (ofRoot bytes (.mk l cs)).declared := by
  apply OrderedSet.eq_of_mem_iff (increasing_declared_ofRoot _ _) (increasing_declared_ofRoot _ _)
  intro simple
  rw [mem_declared_mk_iff, mem_declared_mk_iff, declaredType?_of_keepsName hname]
  simp only [hperm.mem_iff]

/-! ## Imports left out -/

theorem ofNode_of_isIdleImport {n : Node} (h : IsIdleImport n) : Heading.ofNode bytes n = [] := by
  obtain ⟨hkind, hidle⟩ := h
  have hpackage : n.kind ≠ "package_declaration" := by
    rw [hkind]
    decide
  rw [Heading.ofNode, if_neg hpackage, if_pos hkind, Heading.ofImport]
  rcases hidle with ⟨c, hc, hstatic⟩ | htarget
  · have hany : Heading.isStatic n = true :=
      List.any_eq_true.2 ⟨c, hc, beq_iff_eq.2 hstatic⟩
    rw [if_pos hany]
  · have hnone : n.namedChildren.find? Heading.isTarget = none := by
      rw [List.find?_eq_none]
      intro c hc
      obtain ⟨hscoped, hplain⟩ := htarget c hc
      simp [Heading.isTarget, hscoped, hplain]
    rw [hnone]
    exact ite_self []

theorem sameHead_thinned (h : Thinned IsIdleImport (· = ·) cs ds) (l : Label) :
    SameHead (ofRoot bytes (.mk l cs)) (ofRoot bytes (.mk l ds)) := by
  have hheadings : Heading.ofRoot bytes (.mk l ds) = Heading.ofRoot bytes (.mk l cs) := by
    refine (h.flatMap (fun a b hab => ?_) fun a ha => ofNode_of_isIdleImport ha).symm
    rw [hab]
  have htables : (Heading.ofRoot bytes (.mk l ds)).foldl add empty =
      (Heading.ofRoot bytes (.mk l cs)).foldl add empty := by
    rw [hheadings]
  have hpackage := congrArg package htables
  have himported := fun simple => congrArg (fun v => imported? v simple) htables
  have honDemand := congrArg onDemand htables
  exact ⟨hpackage, himported, honDemand⟩

end

/-- In another order the declarations of a file give it the same package and the same imports,
and the same declared types if a root that declares a type keeps its own name.  Without some of
the imports that bring in no types, package and imports are the same as well. -/
theorem ofRoot_reordered (bytes : Bytes) (l : Label) (cs : List Node) :
    (∀ ds, Reordered bytes cs ds →
      SameHead (ofRoot bytes (.mk l cs)) (ofRoot bytes (.mk l ds)) ∧
        (KeepsName l cs ds →
          (ofRoot bytes (.mk l ds)).declared = (ofRoot bytes (.mk l cs)).declared)) ∧
    ∀ ds, Thinned IsIdleImport (· = ·) cs ds →
      SameHead (ofRoot bytes (.mk l cs)) (ofRoot bytes (.mk l ds)) := by
  constructor
  · intro ds h
    refine ⟨⟨?_, imported?_reordered h l, onDemand_reordered h l⟩, declared_reordered h.perm⟩
    rw [package_ofRoot, package_ofRoot, filePackage_reordered h l]
  · intro ds h
    exact sameHead_thinned h l

/-! ### A declaration between two imports

The file `import x.C;class D{}import a.C;`, with the type declaration moved to the front; and
the two imports with a static one between them and without it. -/

namespace Moved

def bytes : Bytes := "import x.C;class D{}import a.C;".toUTF8.toList

def importAt (start : Nat) : Node :=
  .onFirstLine "import_declaration" none start (start + 11)
    [.onFirstLine "scoped_identifier" none (start + 7) (start + 10) []]

def declared : Node :=
  .onFirstLine "class_declaration" none 11 20
    [.onFirstLine "identifier" "name" 17 18 [], .onFirstLine "class_body" "body" 18 20 []]

def idle : Node :=
  .onFirstLine "import_declaration" none 11 20
    [.onFirstLine "static" none 11 16 [], .onFirstLine "scoped_identifier" none 17 20 []]

def label : Label := ⟨0, "program", true, none, 0, 31, 0, 0⟩

def file (declarations : List Node) : Visibility := ofRoot bytes (.mk label declarations)

theorem reordered :
    Reordered bytes [importAt 0, declared, importAt 20] [declared, importAt 0, importAt 20] := by
  refine ⟨.swap _ _ _, rfl, ?_⟩
  intro simple
  have hdeclared : importsAs bytes simple declared = false := rfl
  simp only [List.filter_cons, hdeclared, Bool.false_eq_true, if_false]

theorem thinned :
    Thinned IsIdleImport (· = ·) [importAt 0, idle, importAt 20] [importAt 0, importAt 20] :=
  .keep rfl (.drop ⟨rfl, Or.inl ⟨_, .head _, rfl⟩⟩ (.keep rfl .nil))

end Moved

theorem ofRoot_reordered_moved :
    Reordered Moved.bytes [Moved.importAt 0, Moved.declared, Moved.importAt 20]
        [Moved.declared, Moved.importAt 0, Moved.importAt 20] ∧
      (Moved.file [Moved.declared, Moved.importAt 0, Moved.importAt 20]).imported? "C" =
        some "a.C" ∧
      (Moved.file [Moved.declared, Moved.importAt 0, Moved.importAt 20]).declared = ["D"] ∧
      Thinned IsIdleImport (· = ·) [Moved.importAt 0, Moved.idle, Moved.importAt 20]
        [Moved.importAt 0, Moved.importAt 20] ∧
      (Moved.file [Moved.importAt 0, Moved.importAt 20]).imported? "C" = some "a.C" := by
  have hlabel : KeepsName Moved.label [Moved.importAt 0, Moved.declared, Moved.importAt 20]
      [Moved.declared, Moved.importAt 0, Moved.importAt 20] :=
    fun hkind => absurd hkind (by decide)
  obtain ⟨hhead, hdeclared⟩ :=
    (ofRoot_reordered Moved.bytes Moved.label _).1 _ Moved.reordered
  have hthinned := (ofRoot_reordered Moved.bytes Moved.label _).2 _ Moved.thinned
  refine ⟨Moved.reordered, (hhead.imported "C").trans ?_, (hdeclared hlabel).trans ?_,
    Moved.thinned, (hthinned.imported "C").trans ?_⟩
  all_goals decide +kernel

/-! ### A root with two names

A tree over `AB` whose root is a type declaration, both letters in the field of its name. -/

namespace TwoNames

def bytes : Bytes := "AB".toUTF8.toList

def first : Node := .onFirstLine "identifier" "name" 0 1 []

def second : Node := .onFirstLine "identifier" "name" 1 2 []

def label : Label := ⟨0, "class_declaration", true, none, 0, 2, 0, 0⟩

end TwoNames

/-- The root declares the type that comes first among its children. -/
theorem declared_type_reordered :
    Reordered TwoNames.bytes [TwoNames.first, TwoNames.second]
        [TwoNames.second, TwoNames.first] ∧
      (ofRoot TwoNames.bytes (.mk TwoNames.label [TwoNames.first, TwoNames.second])).declared =
        ["A"] ∧
      (ofRoot TwoNames.bytes (.mk TwoNames.label [TwoNames.second, TwoNames.first])).declared =
        ["B"] :=
  ⟨⟨.swap _ _ _, rfl, fun _ => rfl⟩, by decide +kernel, by decide +kernel⟩

end Visibility
end RoleNaming
