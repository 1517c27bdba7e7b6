/-
More evidence about types.

Whether a written type denotes the context type is asked with opposite intentions: a context
parameter is reported if it does not, an argument is reported if it does.  The more types a
file can name, the fewer parameters and the more arguments are reported.  `visit_widened`
says so for every method and every call, and that nothing else changes: the one problem that
can go or come stands at the end of the report.
-/
import RoleNaming.Proofs.CallRule
import RoleNaming.Proofs.Denotation

namespace RoleNaming

open Syntax View

/-! ## What a file can name -/

namespace Visibility

/-- The file `w` can name all that `v` can.  Both have the same package and import the same
types by name; `w` imports more packages and declares fewer types that hide them. -/
structure Widens (v w : Visibility) : Prop where
  package : w.package = v.package
  imported : ∀ simple, w.imported? simple = v.imported? simple
  onDemand : v.onDemand ⊆ w.onDemand
  declared : w.declared ⊆ v.declared

section

variable {v w : Visibility} {q : String}

theorem Widens.denotes (h : v.Widens w) {written : String} (hv : v.denotes written q = true) :
    w.denotes written q = true := by
  have hwritten := ne_empty_of_denotes hv
  rw [denotes_eq_true_iff _ hwritten] at hv ⊢
  rw [h.imported, h.package]
  rcases hv with hfull | ⟨hsimple, himport | ⟨hnone, hfree, hpackage⟩⟩
  · exact Or.inl hfull
  · exact Or.inr ⟨hsimple, Or.inl himport⟩
  · refine Or.inr ⟨hsimple, Or.inr ⟨hnone, fun hmem => hfree (h.declared hmem), ?_⟩⟩
    rcases hpackage with honDemand | hother
    · exact Or.inl (h.onDemand honDemand)
    · exact Or.inr hother

theorem Widens.denotes? (h : v.Widens w) {written : Option String}
    (hv : v.denotes? written q = true) : w.denotes? written q = true := by
  cases written with
  | none => cases hv
  | some t => exact h.denotes hv

end

end Visibility

/-! ## Reports that differ in one entry -/

/-- The second list is the first, or the first with `x` behind it. -/
def GainsAtMost {α : Type} (x : α) (short long : List α) : Prop :=
  long = short ∨ long = short ++ [x]

namespace GainsAtMost

variable {α β : Type} {x : α} {short long : List α}

theorem refl (x : α) (l : List α) : GainsAtMost x l l := Or.inl rfl

theorem append_left (h : GainsAtMost x short long) (front : List α) :
    GainsAtMost x (front ++ short) (front ++ long) := by
  rcases h with h | h
  · exact Or.inl (congrArg (front ++ ·) h)
  · right
    rw [h, List.append_assoc]

theorem map (h : GainsAtMost x short long) (f : α → β) :
    GainsAtMost (f x) (short.map f) (long.map f) := by
  rcases h with h | h
  · exact Or.inl (congrArg (List.map f) h)
  · right
    rw [h, List.map_append]
    rfl

theorem sublist (h : GainsAtMost x short long) : short.Sublist long := by
  rcases h with h | h
  · rw [h]
  · rw [h]
    exact List.sublist_append_left short [x]

end GainsAtMost

/-! ## The two rules -/

namespace Rule

section

variable {v w : Visibility}

/-- The type of a context parameter that is denoted already stays so. -/
theorem checkContext_widened (h : v.Widens w) (contextType : String) (m : Method) :
    GainsAtMost (.contextMistyped contextType) (checkContext w contextType m)
      (checkContext v contextType m) := by
  unfold checkContext
  cases m.parameters.find? fun p => Text.mentions contextWord p.name with
  | none => exact .refl _ _
  | some p =>
    show GainsAtMost _ (if w.denotes p.type contextType then _ else _)
      (if v.denotes p.type contextType then _ else _)
    by_cases hv : v.denotes p.type contextType = true
    · rw [if_pos hv, if_pos (h.denotes hv)]
      exact .refl _ _
    · rw [if_neg hv]
      by_cases hw : w.denotes p.type contextType = true
      · rw [if_pos hw]
        exact Or.inr rfl
      · rw [if_neg hw]
        exact .refl _ _

/-- An argument that speaks of a context hides the types of all arguments, in both files. -/
theorem checkArguments_widened (h : v.Widens w) (bytes : Bytes) (contextType : String)
    (args : List Argument) :
    GainsAtMost (.contextTypePassed contextType) (checkArguments bytes v contextType args)
      (checkArguments bytes w contextType args) := by
  unfold checkArguments
  by_cases hpassed : (args.any fun a => Text.mentions contextWord a.text) = true
  · rw [if_pos hpassed, if_pos hpassed]
    exact .refl _ _
  rw [if_neg hpassed, if_neg hpassed]
  by_cases hv : (args.any fun a => v.denotes? (Scope.exprType bytes a.site) contextType) = true
  · have hw : (args.any fun a => w.denotes? (Scope.exprType bytes a.site) contextType) = true := by
      rw [List.any_eq_true] at hv ⊢
      obtain ⟨a, ha, hdenotes⟩ := hv
      exact ⟨a, ha, h.denotes? hdenotes⟩
    rw [if_pos hv, if_pos hw]
    exact .refl _ _
  · rw [if_neg hv]
    by_cases hw : (args.any fun a =>
        w.denotes? (Scope.exprType bytes a.site) contextType) = true
    · rw [if_pos hw]
      exact Or.inr rfl
    · rw [if_neg hw]
      exact .refl _ _

theorem checkMethod_widened (h : v.Widens w) (contextType : String) (m : Method) :
    GainsAtMost (.contextMistyped contextType) (checkMethod w contextType m)
      (checkMethod v contextType m) := by
  unfold checkMethod
  split
  · exact .refl _ _
  · exact (checkContext_widened h contextType m).append_left _

theorem checkCall_widened (h : v.Widens w) (bytes : Bytes) (contextType : String) (c : Call) :
    GainsAtMost (.contextTypePassed contextType) (checkCall bytes v contextType c)
      (checkCall bytes w contextType c) := by
  unfold checkCall
  cases c.name with
  | none => exact .refl _ _
  | some name =>
    show GainsAtMost _ (if c.arguments.isEmpty then _ else _) (if c.arguments.isEmpty then _ else _)
    split
    · exact .refl _ _
    · exact (checkArguments_widened h bytes contextType c.arguments).append_left _

end

/-! ## Visits -/

theorem findings_of_method {f : FileView} {s : Site} {m : Method}
    (hm : Method.ofNode? f.bytes s.node = some m) (contextType : String) :
    findings f contextType s = checkMethod f.visibility contextType m := by
  rw [findings, hm]

theorem visit_method_widened {f : FileView} {w : Visibility} (h : f.visibility.Widens w)
    {s : Site} {m : Method} (hm : Method.ofNode? f.bytes s.node = some m) (contextType : String) :
    GainsAtMost (Finding.issue s.node f.path (.contextMistyped contextType))
      (visit { f with visibility := w } contextType s) (visit f contextType s) := by
  have hw : findings { f with visibility := w } contextType s = checkMethod w contextType m :=
    findings_of_method (f := { f with visibility := w }) hm contextType
  rw [visit, visit, findings_of_method hm, hw]
  exact (checkMethod_widened h contextType m).map _

theorem visit_call_widened {f : FileView} {w : Visibility} (h : f.visibility.Widens w)
    {s : Site} {c : Call} (hc : Call.ofSite? f.bytes s = some c) (contextType : String) :
    GainsAtMost (Finding.issue s.node f.path (.contextTypePassed contextType))
      (visit f contextType s) (visit { f with visibility := w } contextType s) := by
  have hw : visit { f with visibility := w } contextType s =
      callIssues { f with visibility := w } contextType c :=
    visit_of_call (f := { f with visibility := w }) hc contextType
  rw [visit_of_call hc, hw, ← (parts_of_ofSite? hc).2.2]
  exact (checkCall_widened h f.bytes contextType c).map _

/-- When a file comes to name more types, a visit to a method reports the same or leaves out
the problem of a wrongly typed context parameter, and a visit to a call reports the same or
adds the problem of an argument that has the context type. -/
theorem visit_widened {f : FileView} {w : Visibility} (h : f.visibility.Widens w)
    (contextType : String) (s : Site) :
    let wide : FileView := { f with visibility := w }
    (s.node.kind = "method_declaration" ∨ s.node.kind = "constructor_declaration" →
      (visit wide contextType s).Sublist (visit f contextType s) ∧
        GainsAtMost
          (.atNode Catalog.contextAccess s.node
            ("This code does not mention parameter of type " ++ contextType) f.path)
          (visit wide contextType s) (visit f contextType s)) ∧
    (s.node.kind = "method_invocation" ∨ s.node.kind = "object_creation_expression" ∨
        s.node.kind = "explicit_constructor_invocation" →
      (visit f contextType s).Sublist (visit wide contextType s) ∧
        GainsAtMost
          (.atNode Catalog.contextAccess s.node
            ("This code mentions parameter of type " ++ contextType) f.path)
          (visit f contextType s) (visit wide contextType s)) := by
  intro wide
  constructor
  · intro hkind
    have hmethod : methodKinds.contains s.node.kind = true := by
      rcases hkind with hkind | hkind <;> rw [hkind] <;> rfl
    have hgains := visit_method_widened h (s := s) (if_pos hmethod) contextType
    exact ⟨hgains.sublist, hgains⟩
  · intro hkind
    have hcall : callKinds.contains s.node.kind = true := by
      rcases hkind with hkind | hkind | hkind <;> rw [hkind] <;> rfl
    have hgains := visit_call_widened h (s := s) (if_pos hcall) contextType
    exact ⟨hgains.sublist, hgains⟩

/-! ### A type that comes into view

The declaration `void f(C context)` and the call `f((C)x)`, in a file that imports nothing and
in one that imports the package `a` on demand. -/

namespace InView

def wide : Visibility := { Visibility.empty with onDemand := ["a"] }

def method : Site :=
  .top (.onFirstLine "method_declaration" none 0 17
    [.onFirstLine "void_type" "type" 0 4 [],
     .onFirstLine "identifier" "name" 5 6 [],
     .onFirstLine "formal_parameters" "parameters" 6 17
      [.onFirstLine "formal_parameter" none 7 16
        [.onFirstLine "type_identifier" "type" 7 8 [],
         .onFirstLine "identifier" "name" 9 16 []]]])

def call : Site :=
  .top (.onFirstLine "method_invocation" none 0 7
    [.onFirstLine "identifier" "name" 0 1 [],
     .onFirstLine "argument_list" "arguments" 1 7
      [.onFirstLine "cast_expression" none 2 6
        [.onFirstLine "type_identifier" "type" 3 4 [],
         .onFirstLine "identifier" "value" 5 6 []]]])

def file (text : String) (v : Visibility) : FileView := ⟨"A.java", text.toUTF8.toList, v⟩

theorem widens : Visibility.empty.Widens wide :=
  ⟨rfl, fun _ => rfl, List.nil_subset _, List.Subset.refl _⟩

end InView

theorem visit_widened_onDemand :
    let context := InView.file "void f(C context)"
    let passed := InView.file "f((C)x)"
    Visibility.empty.Widens InView.wide ∧
      InView.method.node.kind = "method_declaration" ∧
      InView.call.node.kind = "method_invocation" ∧
      visit (context .empty) "a.C" InView.method =
        visit (context InView.wide) "a.C" InView.method ++
          [.atNode Catalog.contextAccess InView.method.node
            "This code does not mention parameter of type a.C" "A.java"] ∧
      visit (passed InView.wide) "a.C" InView.call =
        visit (passed .empty) "a.C" InView.call ++
          [.atNode Catalog.contextAccess InView.call.node
            "This code mentions parameter of type a.C" "A.java"] := by
  intro context passed
  have hmethod := (visit_widened (f := context .empty) InView.widens "a.C" InView.method).1
  have hcall := (visit_widened (f := passed .empty) InView.widens "a.C" InView.call).2
  refine ⟨InView.widens, rfl, rfl, ?_, ?_⟩
  · exact (hmethod (Or.inl rfl)).2.resolve_left (by decide +kernel)
  · exact (hcall (Or.inl rfl)).2.resolve_left (by decide +kernel)

end Rule
end RoleNaming
