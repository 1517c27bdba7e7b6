/-
Context types that a file can name.

A configuration is refused for a blank in its context type, and of white space it refuses
nothing else.  A file compares types with all white space taken out, on its own side only.
`accepted_denotes_itself_iff` says what follows for the context types that lie in between:
one with a tab in it is accepted, does not denote itself, and is denoted by nothing that can
be written in a file, so that every context parameter of a public method is reported.
-/
import RoleNaming.Config
import RoleNaming.Proofs.Denotation
import RoleNaming.Proofs.MethodRule

namespace RoleNaming

open Syntax View

/-! ## Texts without white space -/

namespace Text

def BlankFree (s : String) : Prop := ∀ c ∈ s.toList, isBlank c = false

instance (s : String) : Decidable (BlankFree s) :=
  decidable_of_iff ((s.toList.all fun c => !isBlank c) = true) (by simp [BlankFree])

theorem blankFree_squeeze (s : String) : BlankFree (squeeze s) := by
  intro c hc
  rw [toList_squeeze, List.mem_filter] at hc
  simpa using hc.2

theorem squeeze_eq_self_iff {s : String} : squeeze s = s ↔ BlankFree s := by
  constructor
  · intro h
    rw [← h]
    exact blankFree_squeeze s
  · intro h
    apply String.toList_injective
    rw [toList_squeeze, List.filter_eq_self]
    intro c hc
    rw [h c hc]
    rfl

theorem BlankFree.append {s t : String} (hs : BlankFree s) (ht : BlankFree t) :
    BlankFree (s ++ t) := by
  intro c hc
  rw [String.toList_append, List.mem_append] at hc
  exact hc.elim (hs c) (ht c)

/-- A name of blank-free parts is blank-free. -/
theorem BlankFree.of_parts {q : String} (hpackage : BlankFree (packageOf q))
    (hsimple : BlankFree (simpleName q)) : BlankFree q := by
  have hdot : BlankFree "." := by decide
  rcases (isCut_self q).2 with h | ⟨-, h⟩
  · rw [h]
    exact (hpackage.append hdot).append hsimple
  · rw [h]
    exact hsimple

/-- With its white space taken out, a name is its own simple name only if there was none:
a dot would have stayed. -/
theorem blankFree_of_squeeze_eq_simpleName {q : String} (h : squeeze q = simpleName q) :
    BlankFree q := by
  have hcut := isCut_self q
  have hdot : '.' ∉ q.toList := by
    intro hmem
    apply hcut.1
    rw [← h, toList_squeeze, List.mem_filter]
    exact ⟨hmem, by decide⟩
  rcases hcut.2 with hq | ⟨-, hq⟩
  · apply absurd _ hdot
    rw [hq]
    simp
  · rw [← squeeze_eq_self_iff, h]
    exact hq.symm

end Text

/-! ## Names that a file denotes -/

namespace Visibility

theorem denotes_self_iff (v : Visibility) {q : String} (hq : q ≠ "") :
    v.denotes q q = true ↔ Text.BlankFree q := by
  rw [denotes_eq_true_iff v hq, Text.squeeze_eq_self_iff]
  constructor
  · intro h
    rcases h with h | ⟨h, -⟩
    · exact h
    · exact Text.blankFree_of_squeeze_eq_simpleName h
  · exact Or.inl

section

variable {bytes : Bytes} {root : Node}

theorem blankFree_targetOf? {n : Node} {q : String} (h : targetOf? bytes n = some q) :
    Text.BlankFree q := by
  obtain ⟨c, -, rfl⟩ := Option.map_eq_some_iff.1 h
  exact Text.blankFree_squeeze _

theorem blankFree_of_mem_importedTypes {q : String} (h : q ∈ importedTypes bytes root) :
    Text.BlankFree q := by
  obtain ⟨n, -, hn⟩ := List.mem_filterMap.1 h
  unfold importedType? at hn
  split at hn
  · exact blankFree_targetOf? hn
  · cases hn

theorem blankFree_of_mem_importedPackages {p : String} (h : p ∈ importedPackages bytes root) :
    Text.BlankFree p := by
  obtain ⟨n, -, hn⟩ := List.mem_filterMap.1 h
  unfold importedPackage? at hn
  split at hn
  · exact blankFree_targetOf? hn
  · cases hn

theorem blankFree_filePackage (bytes : Bytes) (root : Node) :
    Text.BlankFree (filePackage bytes root) := by
  unfold filePackage
  cases hlast : (root.children.flatMap (packageNames bytes)).getLast? with
  | none => decide
  | some p =>
    obtain ⟨n, -, hp⟩ := List.mem_flatMap.1 (List.mem_of_getLast? hlast)
    unfold packageNames at hp
    split at hp
    · obtain ⟨c, -, rfl⟩ := List.mem_map.1 hp
      exact Text.blankFree_squeeze _
    · cases hp

/-- Whatever a file can compare with a name has no white space. -/
theorem blankFree_of_denotes {written q : String}
    (h : (ofRoot bytes root).denotes written q = true) : Text.BlankFree q := by
  rw [denotes_eq_true_iff _ (ne_empty_of_denotes h), imported?_ofRoot, package_ofRoot,
    mem_onDemand_ofRoot] at h
  rcases h with hfull | ⟨hsimple, himport | ⟨-, -, hpackage⟩⟩
  · rw [← hfull]
    exact Text.blankFree_squeeze _
  · exact blankFree_of_mem_importedTypes (List.mem_filter.1 (List.mem_of_getLast? himport)).1
  · apply Text.BlankFree.of_parts
    · rcases hpackage with honDemand | hown | himplicit
      · exact blankFree_of_mem_importedPackages honDemand
      · rw [hown]
        exact blankFree_filePackage bytes root
      · rw [himplicit]
        decide
    · rw [← hsimple]
      exact Text.blankFree_squeeze _

end

end Visibility

/-! ## Context parameters -/

namespace Rule

theorem ListenerPart.id_of_mem {path : String} {m : Method} {part : List Issue}
    (h : ListenerPart path m part) {i : Issue} (hi : i ∈ part) :
    i.id = "MethodNameIsIncoherent" := by
  by_cases hsaid : Speaks "listener" m.name
  · rw [h.said hsaid i hi]
    rfl
  · rw [h.unsaid hsaid i hi]
    rfl

/-- A method with a context parameter is reported for its type exactly if it is public and
the type does not denote the context type. -/
theorem exists_contextAccess_iff {f : FileView} {s : Site} {m : Method} {p : Parameter}
    (hm : Method.ofNode? f.bytes s.node = some m) (hp : IsFirstContext m.parameters p)
    (contextType : String) :
    (∃ i ∈ visit f contextType s, i.id = "ContextAccess") ↔
      ¬IsPrivate s.node ∧ f.visibility.denotes p.type contextType = false := by
  by_cases hprivate : IsPrivate s.node
  · have hsilent : visit f contextType s = [] := by
      rw [visit_of_method hm, (isPrivate_iff hm).2 hprivate, Bool.or_true, if_pos rfl]
    rw [hsilent]
    exact iff_of_false (fun ⟨_, hi, _⟩ => List.not_mem_nil hi) fun h => h.1 hprivate
  · have hparams : m.parameters ≠ [] := by
      obtain ⟨before, after, hsplit, -⟩ := hp
      rw [hsplit]
      exact List.append_ne_nil_of_right_ne_nil _ (List.cons_ne_nil p after)
    have hreport := report_of_public hm hparams hprivate contextType
    have hcontext := hreport.context.access_iff
    have hunique : (∃ q, IsFirstContext m.parameters q ∧
        f.visibility.denotes q.type contextType = false) ↔
          f.visibility.denotes p.type contextType = false := by
      constructor
      · intro ⟨q, hq, hdenotes⟩
        have heq := (isFirstContext_iff.1 hq).symm.trans (isFirstContext_iff.1 hp)
        rwa [Option.some.inj heq] at hdenotes
      · intro hdenotes
        exact ⟨p, hp, hdenotes⟩
    rw [hreport.visit_eq, and_iff_right hprivate, ← hunique, ← hcontext]
    constructor
    · intro ⟨i, hi, hid⟩
      rcases List.mem_append.1 hi with hi | hi
      · rw [hreport.listener.id_of_mem hi] at hid
        exact absurd hid (by decide)
      · exact ⟨i, hi, hid⟩
    · intro ⟨i, hi, hid⟩
      exact ⟨i, List.mem_append_right _ hi, hid⟩

end Rule

namespace Config

open Rule

/-- An accepted context type denotes itself if and only if it has no white space at all.  With
some in it, no written type denotes it in any file, and a parameter written exactly like it is
reported in every public method; without, such a parameter is never reported. -/
theorem accepted_denotes_itself_iff {c : Config} (hc : c.validate = .ok ()) :
    (∀ v : Visibility, v.denotes c.contextType c.contextType = true ↔
      Text.BlankFree c.contextType) ∧
    (¬Text.BlankFree c.contextType → ∀ (bytes : Bytes) (root : Node) (written : String),
      (Visibility.ofRoot bytes root).denotes written c.contextType = false) ∧
    ∀ (f : FileView) (s : Site) (m : Method) (p : Parameter),
      Method.ofNode? f.bytes s.node = some m → IsFirstContext m.parameters p →
      p.type = c.contextType →
      ((∃ i ∈ visit f c.contextType s, i.id = "ContextAccess") ↔
        ¬IsPrivate s.node ∧ ¬Text.BlankFree c.contextType) := by
  have hself := fun v : Visibility => v.denotes_self_iff (contextType_of_validate hc).1
  refine ⟨hself, ?_, ?_⟩
  · intro hblank bytes root written
    rw [← Bool.not_eq_true]
    exact fun hdenotes => hblank (Visibility.blankFree_of_denotes hdenotes)
  · intro f s m p hm hp htype
    rw [exists_contextAccess_iff hm hp, htype, ← hself f.visibility, Bool.not_eq_true]

/-! ### A parameter written like the context type

The declaration `void f(` `context)`, where the parameter has the four characters given as
its type and these are the context type. -/

namespace Verbatim

def bytes (type : String) : Bytes := ("void f(" ++ type ++ " context)").toUTF8.toList

def param : Node :=
  .onFirstLine "formal_parameter" none 7 19
    [.onFirstLine "scoped_type_identifier" "type" 7 11 [],
     .onFirstLine "identifier" "name" 12 19 []]

def method : Node :=
  .onFirstLine "method_declaration" none 0 20
    [.onFirstLine "void_type" "type" 0 4 [],
     .onFirstLine "identifier" "name" 5 6 [],
     .onFirstLine "formal_parameters" "parameters" 6 20 [param]]

def site : Site := .top method

def file (type : String) : FileView := .ofSource ⟨bytes type, method, false⟩ "A.java"

def view (type : String) : Method :=
  ⟨Text.lowercase ((.onFirstLine "identifier" "name" 5 6 [] : Node).text (bytes type)),
    parametersOf (bytes type) (method.child? "parameters"), false, method⟩

def config (type : String) : Config := ⟨[], none, type⟩

theorem ofNode?_method (type : String) : Method.ofNode? (bytes type) method = some (view type) :=
  rfl

end Verbatim

theorem accepted_denotes_itself_iff_qualified :
    (Verbatim.config "aa.C").validate = .ok () ∧ Text.BlankFree "aa.C" ∧
      (Verbatim.file "aa.C").visibility.denotes "aa.C" "aa.C" = true ∧
      (Verbatim.view "aa.C").parameters.map written = [("context", "aa.C")] ∧
      ¬∃ i ∈ visit (Verbatim.file "aa.C") "aa.C" Verbatim.site, i.id = "ContextAccess" := by
  have hc : (Verbatim.config "aa.C").validate = .ok () := rfl
  have hblank : Text.BlankFree "aa.C" := by decide
  obtain ⟨hself, -, hreport⟩ := accepted_denotes_itself_iff hc
  have hparams : (Verbatim.view "aa.C").parameters.map written =
      [("context", "aa.C")] := by decide +kernel
  obtain ⟨p, hsingle, hp⟩ := List.map_eq_singleton_iff.1 hparams
  obtain ⟨hname, htype⟩ := Prod.mk.inj hp
  have hfirst : IsFirstContext (Verbatim.view "aa.C").parameters p := by
    refine ⟨[], [], hsingle, ?_, List.forall_mem_nil _⟩
    rw [hname]
    decide
  refine ⟨hc, hblank, (hself _).2 hblank, hparams, ?_⟩
  have hiff := hreport (Verbatim.file "aa.C") Verbatim.site (Verbatim.view "aa.C") p
    (Verbatim.ofNode?_method "aa.C") hfirst htype
  intro h
  exact (hiff.1 h).2 hblank

/-- With a tab in it the context type is accepted, and the parameter that is written exactly
like it is reported as wrongly typed. -/
theorem tab_accepted_and_reported :
    (Verbatim.config "a.\tC").validate = .ok () ∧
      (Verbatim.file "a.\tC").visibility.denotes "a.\tC" "a.\tC" = false ∧
      (Verbatim.view "a.\tC").parameters.map written = [("context", "a.\tC")] ∧
      visit (Verbatim.file "a.\tC") "a.\tC" Verbatim.site =
        [.atNode Catalog.contextAccess Verbatim.method
          "This code does not mention parameter of type a.\tC" "A.java"] :=
  ⟨rfl, by decide +kernel, by decide +kernel, by decide +kernel⟩

end Config
end RoleNaming
