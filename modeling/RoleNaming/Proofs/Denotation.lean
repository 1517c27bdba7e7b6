/-
Which written types denote a qualified name.

A file is read once for its package, its imports and the types it declares, and
`Visibility.denotes` then decides by a cascade of tests.  `denotes_iff` gives the
verdict straight from the tree, without the tables in between: what the imports at
the head of the file say, of which the last one of a simple name holds; which types
the file declares at any depth; and its package.  `denotes_declared_iff` looks at the
simple names that the file declares itself: no package counts for them any more.
-/
import Mathlib.Data.List.Basic
import RoleNaming.Proofs.QualifiedName
import RoleNaming.Proofs.Tree
import RoleNaming.Visibility

namespace RoleNaming

open Syntax

namespace Visibility

/-! ## What the tree says

The names that stand at the head of a file, each read off one child of the root. -/

/-- A name, qualified or not, without its white space. -/
def targetOf? (bytes : Bytes) (n : Node) : Option String :=
  (n.namedChildren.find? fun c => c.kind == "scoped_identifier" || c.kind == "identifier").map
    fun c => Text.squeeze (c.text bytes)

def importedType? (bytes : Bytes) (n : Node) : Option String :=
  if n.kind = "import_declaration" ∧ (∀ c ∈ n.children, c.kind ≠ "static") ∧
      ∀ c ∈ n.children, c.kind ∉ ["asterisk", "*"] then
    targetOf? bytes n
  else none

def importedPackage? (bytes : Bytes) (n : Node) : Option String :=
  if n.kind = "import_declaration" ∧ (∀ c ∈ n.children, c.kind ≠ "static") ∧
      ∃ c ∈ n.children, c.kind ∈ ["asterisk", "*"] then
    targetOf? bytes n
  else none

def packageNames (bytes : Bytes) (n : Node) : List String :=
  if n.kind = "package_declaration" then
    (n.namedChildren.filter fun c => c.kind == "scoped_identifier" || c.kind == "identifier").map
      fun c => Text.squeeze (c.text bytes)
  else []

def importedTypes (bytes : Bytes) (root : Node) : List String :=
  root.children.filterMap (importedType? bytes)

def importedPackages (bytes : Bytes) (root : Node) : List String :=
  root.children.filterMap (importedPackage? bytes)

/-- The package of a file: the last name it is given, and empty without one. -/
def filePackage (bytes : Bytes) (root : Node) : String :=
  (root.children.flatMap (packageNames bytes)).getLast?.getD ""

/-- Some type declaration of the tree, at whatever depth, has a name that reads
`simple`. -/
def DeclaresType (bytes : Bytes) (root : Node) (simple : String) : Prop :=
  ∃ n : Node, n.Within root ∧
    n.kind ∈ ["class_declaration", "interface_declaration", "enum_declaration",
      "record_declaration", "annotation_type_declaration"] ∧
    ∃ name, n.child? "name" = some name ∧ name.text bytes = simple

/-! ## What the tables hold

Reading one heading more is the step; a whole head of a file is a run of such
steps, and a later step wins. -/

end Visibility

namespace Heading

def type? : Heading → Option String
  | .typeImport q => some q
  | _ => none

def onDemand? : Heading → Option String
  | .onDemand p => some p
  | _ => none

def package? : Heading → Option String
  | .package p => some p
  | _ => none

end Heading

namespace Visibility

theorem lookup_filter_ne (entries : List (String × String)) {s simple : String} (h : s ≠ simple) :
    (entries.filter fun e => e.1 != s).lookup simple = entries.lookup simple := by
  induction entries with
  | nil => rfl
  | cons e entries ih =>
    obtain ⟨k, q⟩ := e
    by_cases hk : k = s
    · have hne : (simple == k) = false := by
        rw [hk]
        exact beq_eq_false_iff_ne.2 (Ne.symm h)
      rw [List.filter_cons_of_neg (by simp [hk]), ih, List.lookup_cons, hne]
    · rw [List.filter_cons_of_pos (by simp [hk]), List.lookup_cons, List.lookup_cons, ih]

theorem imported?_add (simple : String) (v : Visibility) (h : Heading) :
    (v.add h).imported? simple =
      (h.type?.filter fun q => Text.simpleName q == simple).or (v.imported? simple) := by
  cases h with
  | package p => rfl
  | onDemand p => rfl
  | typeImport q =>
    show ((Text.simpleName q, q) :: v.typeImports.filter fun e => e.1 != Text.simpleName q).lookup
      simple = ((some q).filter fun q => Text.simpleName q == simple).or (v.imported? simple)
    rw [List.lookup_cons, Bool.beq_comm, Option.filter_some]
    by_cases hs : Text.simpleName q = simple
    · rw [beq_iff_eq.2 hs]
      rfl
    · rw [beq_eq_false_iff_ne.2 hs, lookup_filter_ne _ hs]
      rfl

theorem package_add (v : Visibility) (h : Heading) :
    some (v.add h).package = h.package?.or (some v.package) := by
  cases h <;> rfl

theorem mem_onDemand_add (v : Visibility) (h : Heading) (p : String) :
    p ∈ (v.add h).onDemand ↔ h.onDemand? = some p ∨ p ∈ v.onDemand := by
  cases h with
  | package q => simp [add, Heading.onDemand?]
  | typeImport q => simp [add, Heading.onDemand?]
  | onDemand q => simp [add, Heading.onDemand?, eq_comm]

/-- A part of the tables that every heading either writes or leaves holds what was
written last. -/
theorem foldl_add_last {α : Type} (part : Visibility → Option α) (write : Heading → Option α)
    (hstep : ∀ v h, part (v.add h) = (write h).or (part v)) (hs : List Heading) (v : Visibility) :
    part (hs.foldl add v) = (hs.filterMap write).getLast?.or (part v) := by
  induction hs generalizing v with
  | nil => rfl
  | cons h hs ih =>
    rw [List.foldl_cons, ih, hstep, List.filterMap_cons]
    cases write h with
    | none => rfl
    | some a =>
      rw [List.getLast?_cons]
      cases (hs.filterMap write).getLast? <;> rfl

theorem mem_onDemand_foldl_add (hs : List Heading) (v : Visibility) (p : String) :
    p ∈ (hs.foldl add v).onDemand ↔ p ∈ hs.filterMap Heading.onDemand? ∨ p ∈ v.onDemand := by
  induction hs generalizing v with
  | nil => simp
  | cons h hs ih =>
    rw [List.foldl_cons, ih, mem_onDemand_add, List.filterMap_cons]
    cases h.onDemand? with
    | none => simp
    | some q => simp [eq_comm, or_left_comm, or_assoc]

/-! ## From the tree to the tables -/

theorem isStatic_eq_false_iff {n : Node} :
    (∀ c ∈ n.children, c.kind ≠ "static") ↔ Heading.isStatic n = false := by
  simp [Heading.isStatic]

theorem isOnDemand_eq_true_iff {n : Node} :
    (∃ c ∈ n.children, c.kind ∈ ["asterisk", "*"]) ↔ Heading.isOnDemand n = true := by
  simp [Heading.isOnDemand]

theorem isOnDemand_eq_false_iff {n : Node} :
    (∀ c ∈ n.children, c.kind ∉ ["asterisk", "*"]) ↔ Heading.isOnDemand n = false := by
  simp [Heading.isOnDemand]

/-- What one node at the head of a file says.  Of the three parts one at most is not
empty. -/
theorem ofNode_eq (bytes : Bytes) (n : Node) :
    Heading.ofNode bytes n =
      (packageNames bytes n).map .package ++ (importedPackage? bytes n).toList.map .onDemand ++
        (importedType? bytes n).toList.map .typeImport := by
  unfold Heading.ofNode packageNames importedPackage? importedType?
  by_cases hpackage : n.kind = "package_declaration"
  · simp only [hpackage, String.reduceEq, false_and, if_true, if_false, Option.toList_none,
      List.map_nil, List.append_nil, List.map_map]
    rfl
  by_cases himport : n.kind = "import_declaration"
  · have htarget : targetOf? bytes n =
        (n.namedChildren.find? Heading.isTarget).map fun c => Text.squeeze (c.text bytes) := rfl
    simp only [himport, String.reduceEq, true_and, if_true, if_false, List.map_nil,
      List.nil_append, isStatic_eq_false_iff, isOnDemand_eq_true_iff, isOnDemand_eq_false_iff,
      Heading.ofImport, htarget]
    cases Heading.isStatic n <;> cases Heading.isOnDemand n <;>
      cases n.namedChildren.find? Heading.isTarget <;> rfl
  · simp [hpackage, himport]

theorem filterMap_type?_ofRoot (bytes : Bytes) (root : Node) :
    (Heading.ofRoot bytes root).filterMap Heading.type? = importedTypes bytes root := by
  rw [Heading.ofRoot, importedTypes, List.filterMap_flatMap, List.filterMap_eq_flatMap_toList]
  congr 1
  funext n
  rw [ofNode_eq]
  simp [List.filterMap_map, Function.comp_def, Heading.type?]

theorem filterMap_onDemand?_ofRoot (bytes : Bytes) (root : Node) :
    (Heading.ofRoot bytes root).filterMap Heading.onDemand? = importedPackages bytes root := by
  rw [Heading.ofRoot, importedPackages, List.filterMap_flatMap, List.filterMap_eq_flatMap_toList]
  congr 1
  funext n
  rw [ofNode_eq]
  simp [List.filterMap_map, Function.comp_def, Heading.onDemand?]

theorem filterMap_package?_ofRoot (bytes : Bytes) (root : Node) :
    (Heading.ofRoot bytes root).filterMap Heading.package? =
      root.children.flatMap (packageNames bytes) := by
  rw [Heading.ofRoot, List.filterMap_flatMap]
  congr 1
  funext n
  rw [ofNode_eq]
  simp [List.filterMap_map, Function.comp_def, Heading.package?]

theorem imported?_ofRoot (bytes : Bytes) (root : Node) (simple : String) :
    (ofRoot bytes root).imported? simple =
      ((importedTypes bytes root).filter fun q => Text.simpleName q == simple).getLast? := by
  have h := foldl_add_last (fun v => v.imported? simple) _ (imported?_add simple)
    (Heading.ofRoot bytes root) empty
  rw [← List.filter_filterMap, filterMap_type?_ofRoot] at h
  exact h.trans (Option.or_none ..)

theorem package_ofRoot (bytes : Bytes) (root : Node) :
    (ofRoot bytes root).package = filePackage bytes root := by
  have h := foldl_add_last (fun v => some v.package) Heading.package? package_add
    (Heading.ofRoot bytes root) empty
  rw [filterMap_package?_ofRoot] at h
  apply Option.some.inj
  rw [filePackage, ← Option.or_some]
  exact h

theorem mem_onDemand_ofRoot {bytes : Bytes} {root : Node} {p : String} :
    p ∈ (ofRoot bytes root).onDemand ↔ p ∈ importedPackages bytes root := by
  have h := mem_onDemand_foldl_add (Heading.ofRoot bytes root) empty p
  rw [filterMap_onDemand?_ofRoot] at h
  exact h.trans (or_iff_left List.not_mem_nil)

theorem mem_declared_ofRoot {bytes : Bytes} {root : Node} {simple : String} :
    simple ∈ (ofRoot bytes root).declared ↔ DeclaresType bytes root simple := by
  show simple ∈ declaredTypes bytes root ↔ _
  rw [declaredTypes, OrderedSet.mem_ofList, List.mem_filterMap]
  constructor
  · rintro ⟨n, hn, hname⟩
    unfold declaredType? at hname
    split at hname
    · rename_i hkind
      obtain ⟨name, hchild, htext⟩ := Option.map_eq_some_iff.1 hname
      exact ⟨n, Node.mem_descendants.1 hn, List.contains_iff_mem.1 hkind, name, hchild, htext⟩
    · cases hname
  · rintro ⟨n, hn, hkind, name, hchild, htext⟩
    have hkind' : typeDeclarationKinds.contains n.kind = true := List.contains_iff_mem.2 hkind
    refine ⟨n, Node.mem_descendants.2 hn, ?_⟩
    rw [declaredType?, if_pos hkind', hchild, Option.map_some, htext]

/-! ## The verdict -/

theorem ne_empty_of_denotes {v : Visibility} {written q : String}
    (h : v.denotes written q = true) : written ≠ "" := by
  intro hempty
  rw [hempty] at h
  cases h

/-- The cascade of tests as one condition on the tables. -/
theorem denotes_eq_true_iff (v : Visibility) {written q : String} (hwritten : written ≠ "") :
    v.denotes written q = true ↔
      Text.squeeze written = q ∨
      Text.squeeze written = Text.simpleName q ∧
        (v.imported? (Text.simpleName q) = some q ∨
          v.imported? (Text.simpleName q) = none ∧ Text.simpleName q ∉ v.declared ∧
          (Text.packageOf q ∈ v.onDemand ∨ Text.packageOf q = v.package ∨
            Text.packageOf q = implicitPackage)) := by
  unfold denotes
  rw [if_neg hwritten]
  by_cases hfull : Text.squeeze written = q
  · simp [hfull]
  by_cases hsimple : Text.squeeze written = Text.simpleName q
  · have hne : Text.simpleName q ≠ q := fun h => hfull (hsimple.trans h)
    cases himport : v.imported? (Text.simpleName q) with
    | some x => simp [hsimple, himport, hne]
    | none =>
      by_cases hdeclared : Text.simpleName q ∈ v.declared
      · simp [hsimple, himport, hne, hdeclared]
      · simp [hsimple, himport, hne, hdeclared, or_assoc]
  · simp [hfull, hsimple]

theorem denotes_dots (v : Visibility) {q : String} (hq : Text.IsQualified q.toList) (t : String) :
    v.denotes (t ++ "...") q = false := by
  have hne : t ++ "..." ≠ "" := by
    intro h
    have h' := congrArg String.toList h
    simp at h'
  rw [← Bool.not_eq_true, denotes_eq_true_iff v hne]
  rintro (h | ⟨h, -⟩)
  · exact Text.squeeze_dots_ne hq t h
  · exact Text.squeeze_dots_ne_simpleName q t h

/-- A written type denotes the qualified name itself; and it denotes it by its simple
name when the last import of that simple name says so or when, without such an
import, no type of the file takes the name and the package is visible as a whole. -/
theorem denotes_iff (bytes : Bytes) (root : Node) {written q package simple : String}
    (hwritten : written ≠ "") (hq : Text.IsCut q package simple) :
    (ofRoot bytes root).denotes written q = true ↔
      Text.squeeze written = q ∨
      Text.squeeze written = simple ∧
        (((importedTypes bytes root).filter fun x => Text.simpleName x == simple).getLast? =
            some q ∨
          (∀ x ∈ importedTypes bytes root, Text.simpleName x ≠ simple) ∧
          ¬DeclaresType bytes root simple ∧
          (package ∈ importedPackages bytes root ∨ package = filePackage bytes root ∨
            package = "java.lang")) := by
  obtain ⟨rfl, rfl⟩ := Text.isCut_iff.1 hq
  have hnone : (ofRoot bytes root).imported? (Text.simpleName q) = none ↔
      ∀ x ∈ importedTypes bytes root, Text.simpleName x ≠ Text.simpleName q := by
    rw [imported?_ofRoot, List.getLast?_eq_none_iff, List.filter_eq_nil_iff]
    simp only [beq_iff_eq, ne_eq]
  rw [denotes_eq_true_iff _ hwritten, hnone, imported?_ofRoot, package_ofRoot,
    mem_onDemand_ofRoot, mem_declared_ofRoot]
  rfl

/-! ### A simple name imported twice

The file `import x.C;import a.C;`: the second import takes the name over. -/

namespace Twice

def bytes : Bytes := "import x.C;import a.C;".toUTF8.toList

def importAt (start : Nat) : Node :=
  .onFirstLine "import_declaration" none start (start + 11)
    [.onFirstLine "scoped_identifier" none (start + 7) (start + 10) []]

def root : Node := .onFirstLine "program" none 0 22 [importAt 0, importAt 11]

end Twice

theorem denotes_iff_twice :
    (" C" ≠ "" ∧ Text.IsCut "a.C" "a" "C" ∧ Text.IsCut "x.C" "x" "C") ∧
      (ofRoot Twice.bytes Twice.root).denotes " C" "a.C" = true ∧
      ¬(ofRoot Twice.bytes Twice.root).denotes " C" "x.C" = true := by
  have hw : " C" ≠ "" := by decide
  have ha : Text.IsCut "a.C" "a" "C" := ⟨by decide, Or.inl rfl⟩
  have hx : Text.IsCut "x.C" "x" "C" := ⟨by decide, Or.inl rfl⟩
  have hlast : ((importedTypes Twice.bytes Twice.root).filter fun x =>
      Text.simpleName x == "C").getLast? = some "a.C" := by decide +kernel
  refine ⟨⟨hw, ha, hx⟩, ?_, ?_⟩
  · rw [denotes_iff _ _ hw ha]
    exact Or.inr ⟨by decide +kernel, Or.inl hlast⟩
  · rw [denotes_iff _ _ hw hx, hlast]
    rintro (h | ⟨-, h | ⟨h, -⟩⟩)
    · exact absurd h (by decide +kernel)
    · exact absurd h (by decide)
    · exact absurd (h "a.C" (by decide +kernel)) (by decide +kernel)

/-! ## Types that the file declares -/

/-- A type that the file declares hides the packages from which its simple name could be
taken.  What still gets past it is an import of the very name. -/
theorem denotes_declared_iff (bytes : Bytes) (root : Node) {written q package simple : String}
    (hq : Text.IsCut q package simple) (hdot : '.' ∈ q.toList)
    (hwritten : Text.squeeze written = simple) (hdeclared : DeclaresType bytes root simple) :
    (ofRoot bytes root).denotes written q = true ↔
      written ≠ "" ∧
        ((importedTypes bytes root).filter fun x => Text.simpleName x == simple).getLast? =
          some q := by
  obtain ⟨rfl, rfl⟩ := Text.isCut_iff.1 hq
  have hne : Text.simpleName q ≠ q := by
    intro h
    apply hq.1
    rw [h]
    exact hdot
  by_cases hempty : written = ""
  · simp [denotes, hempty]
  rw [denotes_eq_true_iff _ hempty, imported?_ofRoot, mem_declared_ofRoot, hwritten]
  constructor
  · rintro (h | ⟨-, h | ⟨-, h, -⟩⟩)
    · exact absurd h hne
    · exact ⟨hempty, h⟩
    · exact absurd hdeclared h
  · rintro ⟨-, h⟩
    exact Or.inr ⟨rfl, Or.inl h⟩

/-! ### An import and a nested type of one name

The file `import a.` `;class A{class C{}}`, with a name or an asterisk at byte 9. -/

namespace Nested

def bytes (imported : String) : Bytes :=
  ("import a." ++ imported ++ ";class A{class C{}}").toUTF8.toList

def inner : Node :=
  .onFirstLine "class_declaration" none 19 28
    [.onFirstLine "identifier" "name" 25 26 [], .onFirstLine "class_body" "body" 26 28 []]

def body : Node := .onFirstLine "class_body" "body" 18 29 [inner]

def outer : Node :=
  .onFirstLine "class_declaration" none 11 29 [.onFirstLine "identifier" "name" 17 18 [], body]

def root (target : List Node) : Node :=
  .onFirstLine "program" none 0 29 [.onFirstLine "import_declaration" none 0 11 target, outer]

/-- The target `a.C`. -/
def single : List Node := [.onFirstLine "scoped_identifier" none 7 10 []]

/-- The target `a.*`. -/
def onDemand : List Node :=
  [.onFirstLine "identifier" none 7 8 [], .onFirstLine "asterisk" none 9 10 []]

theorem inner_within (target : List Node) : inner.Within (root target) := by
  have houter : outer ∈ (root target).children := .tail _ (.head _)
  have hbody : body ∈ outer.children := .tail _ (.head _)
  have hinner : inner ∈ body.children := .head _
  exact .child houter (.child hbody (.child hinner .self))

end Nested

theorem denotes_declared_iff_onDemand :
    (Text.IsCut "a.C" "a" "C" ∧ '.' ∈ "a.C".toList ∧ Text.squeeze " C" = "C" ∧
      DeclaresType (Nested.bytes "*") (Nested.root Nested.onDemand) "C") ∧
      "a" ∈ importedPackages (Nested.bytes "*") (Nested.root Nested.onDemand) ∧
      ¬(ofRoot (Nested.bytes "*") (Nested.root Nested.onDemand)).denotes " C" "a.C" = true := by
  have hq : Text.IsCut "a.C" "a" "C" := ⟨by decide, Or.inl rfl⟩
  have hdot : '.' ∈ "a.C".toList := by decide
  have hwritten : Text.squeeze " C" = "C" := by decide +kernel
  have hdeclared : DeclaresType (Nested.bytes "*") (Nested.root Nested.onDemand) "C" :=
    ⟨Nested.inner, Nested.inner_within _, by decide, _, rfl, by decide +kernel⟩
  refine ⟨⟨hq, hdot, hwritten, hdeclared⟩, by decide +kernel, ?_⟩
  rw [denotes_declared_iff _ _ hq hdot hwritten hdeclared]
  decide +kernel

/-- The nested type `C` does not hide the `C` that is imported by its name. -/
theorem imported_name_denotes_declared :
    DeclaresType (Nested.bytes "C") (Nested.root Nested.single) "C" ∧
      Text.simpleName "a.C" = "C" ∧ Text.squeeze "C" = "C" ∧
      (ofRoot (Nested.bytes "C") (Nested.root Nested.single)).denotes "C" "a.C" = true :=
  ⟨⟨Nested.inner, Nested.inner_within _, by decide, _, rfl, by decide +kernel⟩,
    by decide +kernel, by decide +kernel, by decide +kernel⟩

end Visibility
end RoleNaming
