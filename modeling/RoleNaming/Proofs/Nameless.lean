/-
Declarations without a name.

A tree of damaged source has declarations whose name is missing.  They declare nothing, so that
it should make no difference to any name whether they are there.  A missing name reads as the
empty text, and names are compared as texts; `exprType_without_nameless` says what this comes
to.  A name that reads as something never means a declaration without a name.  A name that the
parser made up reads as nothing, and it does (`nameless_declaration_meant`).
-/
import RoleNaming.Proofs.Declaration

namespace RoleNaming
namespace Scope

open Syntax

/-! ## Declarations with a name -/

namespace Declaration

/-- The node that holds the name. -/
def nameNode? : Declaration → Option Node
  | .declarator _ n | .formal n | .forEach n | .caught n | .resource n => n.child? "name"
  | .spread _ n | .inferred n => some n

theorem name_eq_text? (bytes : Bytes) (d : Declaration) :
    d.name bytes = Node.text? bytes d.nameNode? := by
  cases d with
  | declarator | formal | forEach | caught | resource => rfl
  | spread | inferred => rfl

def IsNamed (d : Declaration) : Prop := d.nameNode?.isSome = true

instance : DecidablePred IsNamed := fun d => inferInstanceAs (Decidable (d.nameNode?.isSome = true))

theorem name_of_not_isNamed (bytes : Bytes) {d : Declaration} (h : ¬d.IsNamed) :
    d.name bytes = "" := by
  have hnone : d.nameNode? = none := by simpa [IsNamed] using h
  rw [name_eq_text?, hnone]
  rfl

end Declaration

/-! ## Look-ups that pass over the others -/

/-- The declarations that a name can mean, in the order in which they are asked. -/
def candidates (s : Site) : List Declaration :=
  s.above.flatMap (Declaration.ofScope s.node.start)

/-- The declaration that a name means when those without a name are left out. -/
def namedBinder? (bytes : Bytes) (s : Site) : Option Declaration :=
  ((candidates s).filter fun d => decide d.IsNamed).find? fun d =>
    d.name bytes == s.node.text bytes

theorem name_of_binder? {bytes : Bytes} {s : Site} {d : Declaration}
    (h : binder? bytes s = some d) : d.name bytes = s.node.text bytes := by
  obtain ⟨hname, -⟩ := List.find?_eq_some_iff_append.1 h
  exact beq_iff_eq.1 hname

/-- The first declaration of the name stays the first when nameless ones before it go. -/
theorem namedBinder?_eq_binder? {bytes : Bytes} {s : Site}
    (h : ∀ d, binder? bytes s = some d → d.IsNamed) : namedBinder? bytes s = binder? bytes s := by
  unfold namedBinder?
  rw [List.find?_filter]
  cases hd : binder? bytes s with
  | none =>
    rw [List.find?_eq_none]
    intro d hmem hboth
    have hname : (d.name bytes == s.node.text bytes) = true := (of_decide_eq_true hboth).2
    exact List.find?_eq_none.1 hd d hmem hname
  | some d =>
    rw [List.find?_eq_some_iff_append]
    obtain ⟨hname, before, after, hsplit, hbefore⟩ := List.find?_eq_some_iff_append.1 hd
    refine ⟨?_, before, after, hsplit, ?_⟩
    · have hnamed := h d hd
      simp [hnamed, hname]
    · intro e he
      have hother := hbefore e he
      simp only [Bool.not_eq_true'] at hother
      simp [hother]

/-- A name that is no text meets the first declaration whose name is missing or no text. -/
theorem binder?_of_empty {bytes : Bytes} {s : Site} (h : s.node.text bytes = "") :
    binder? bytes s =
      (candidates s).find? fun d => !decide d.IsNamed || d.name bytes == "" := by
  unfold binder?
  rw [h]
  congr 1
  funext d
  by_cases hnamed : d.IsNamed
  · simp [hnamed]
  · simp [hnamed, d.name_of_not_isNamed bytes hnamed]

/-- Declarations without a name make no difference to a name that reads as something, and none
is what it means.  A name that reads as nothing means the first declaration whose name is
missing or reads as nothing; where that one has a name, the others make no difference. -/
theorem exprType_without_nameless (bytes : Bytes) {s : Site} (hname : s.node.kind = "identifier") :
    (s.node.text bytes ≠ "" →
      (∀ d, binder? bytes s = some d → d.IsNamed) ∧
        exprType bytes s = (namedBinder? bytes s).bind (Declaration.type bytes)) ∧
    (s.node.text bytes = "" →
      exprType bytes s =
          ((candidates s).find? fun d => !decide d.IsNamed || d.name bytes == "").bind
            (Declaration.type bytes) ∧
        ((∀ d, binder? bytes s = some d → d.IsNamed) →
          exprType bytes s = (namedBinder? bytes s).bind (Declaration.type bytes))) := by
  have htype := exprType_eq_bind_binder? bytes hname
  constructor
  · intro htext
    have hnamed : ∀ d, binder? bytes s = some d → d.IsNamed := by
      intro d hd
      refine Classical.byContradiction fun hnot => htext ?_
      rw [← name_of_binder? hd, d.name_of_not_isNamed bytes hnot]
    refine ⟨hnamed, ?_⟩
    rw [namedBinder?_eq_binder? hnamed, htype]
  · intro hempty
    constructor
    · rw [htype, binder?_of_empty hempty]
    · intro hnamed
      rw [namedBinder?_eq_binder? hnamed, htype]

/-! ### A field without a name

The body `{C;D c;c}`, with a field `C` that has no name and a field `D c`, and a use of a name
behind them. -/

namespace Unnamed

def bytes : Bytes := "{C;D c;c}".toUTF8.toList

def unnamed : Node :=
  .onFirstLine "field_declaration" none 1 3
    [.onFirstLine "type_identifier" "type" 1 2 [],
     .onFirstLine "variable_declarator" "declarator" 2 2 []]

/-- A name from the byte 7 to the byte `stop`; the empty one is what a parser makes up. -/
def use (stop : Nat) : Node := .onFirstLine "identifier" none 7 stop []

def root (stop : Nat) : Node :=
  .onFirstLine "class_body" none 0 9 [unnamed, Hidden.declared "field_declaration" 3, use stop]

def site (stop : Nat) : Site := (Site.top (root stop)).under (use stop)

end Unnamed

theorem exprType_without_nameless_field :
    (Unnamed.site 8).node.kind = "identifier" ∧
      (Unnamed.site 8).node.text Unnamed.bytes ≠ "" ∧
      exprType Unnamed.bytes (Unnamed.site 8) = some "D" := by
  have htext : (Unnamed.site 8).node.text Unnamed.bytes ≠ "" := by decide +kernel
  refine ⟨rfl, htext, ?_⟩
  rw [((exprType_without_nameless Unnamed.bytes rfl).1 htext).2]
  decide +kernel

/-- The made-up name means the field without a name: it has that field's type, and without that
field it has none. -/
theorem nameless_declaration_meant :
    (∃ d, binder? Unnamed.bytes (Unnamed.site 7) = some d ∧ ¬d.IsNamed) ∧
      exprType Unnamed.bytes (Unnamed.site 7) = some "C" ∧
      (namedBinder? Unnamed.bytes (Unnamed.site 7)).bind (Declaration.type Unnamed.bytes) =
        none := by
  have h : (binder? Unnamed.bytes (Unnamed.site 7)).map (fun d => decide d.IsNamed) =
      some false := by decide +kernel
  obtain ⟨d, hd, hnot⟩ := Option.map_eq_some_iff.1 h
  exact ⟨⟨d, hd, of_decide_eq_false hnot⟩, by decide +kernel, by decide +kernel⟩

end Scope
end RoleNaming
