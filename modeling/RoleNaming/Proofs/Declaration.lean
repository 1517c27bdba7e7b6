/-
The declaration that a name means.

Environments hold names and types and forget where they come from.  Here the declarations
themselves are listed, in the order in which they are asked, and `binder?` is the first
that has the name.  `exprType_eq_bind_binder?` says that the type of a name is the type
that this declaration gives it.
-/
import RoleNaming.Proofs.Environment

namespace RoleNaming
namespace Scope

open Syntax

/-- A declaration of one name, with the nodes it is read from. -/
inductive Declaration where
  /-- A local variable, a field or a variable of a counting loop: one declarator of a
  declaration, which may have several. -/
  | declarator (declaration declarator : Node)
  /-- A parameter with a type. -/
  | formal (param : Node)
  /-- A name below a parameter for any number of arguments. -/
  | spread (param name : Node)
  /-- A parameter without a type. -/
  | inferred (name : Node)
  /-- The variable of a loop over a collection. -/
  | forEach (loop : Node)
  | caught (param : Node)
  | resource (resource : Node)

namespace Declaration

def name (bytes : Bytes) : Declaration → String
  | .declarator _ n | .formal n | .forEach n | .caught n | .resource n =>
    n.fieldText bytes "name"
  | .spread _ n | .inferred n => n.text bytes

def type (bytes : Bytes) : Declaration → Known
  | .declarator declaration n =>
    if (n.child? "dimensions").isSome then none
    else writtenType bytes (declaration.child? "type")
  | .formal n | .forEach n | .resource n => writtenType bytes (n.child? "type")
  | .spread _ _ | .inferred _ => none
  | .caught param => writtenType bytes (param.namedChildren.find? fun t => t.kind == "catch_type")

def entry (bytes : Bytes) (d : Declaration) : String × Known := (d.name bytes, d.type bytes)

/-! ## The declarations of a scope -/

def ofVariables (declaration : Node) : List Declaration :=
  (declaration.namedChildren.filter fun c => c.kind == "variable_declarator").map
    (.declarator declaration)

def ofParameter (param : Node) : List Declaration :=
  if param.kind = "formal_parameter" then [.formal param]
  else if param.kind = "identifier" then [.inferred param]
  else if param.kind = "spread_parameter" then
    (param.descendants.filter fun n => n.kind == "identifier").map (.spread param)
  else []

def ofParameters (params : Node) : List Declaration :=
  if params.kind = "identifier" then [.inferred params]
  else params.namedChildren.flatMap ofParameter

/-- All that a node declares, in its own order, for a use at the byte `before`. -/
def ofScope (before : Nat) (scope : Node) : List Declaration :=
  match Form.ofKind? scope.kind with
  | some .block =>
    ((scope.namedChildren.takeWhile fun c => c.start < before).filter fun c =>
      c.kind == "local_variable_declaration").flatMap ofVariables
  | some .members =>
    (scope.namedChildren.filter fun c =>
      c.kind == "field_declaration" || c.kind == "constant_declaration").flatMap ofVariables
  | some .callable => (scope.child? "parameters").toList.flatMap ofParameters
  | some .forLoop =>
    ((scope.child? "init").toList.filter fun c =>
      c.kind == "local_variable_declaration").flatMap ofVariables
  | some .forEach => [.forEach scope]
  | some .handler =>
    (scope.namedChildren.filter fun c => c.kind == "catch_formal_parameter").map .caught
  | some .resources => ((scope.child? "resources").toList.flatMap Node.namedChildren).map .resource
  | none => []

/-! ## Declarations and bindings -/

theorem map_entry_ofVariables (bytes : Bytes) (declaration : Node) :
    (ofVariables declaration).map (entry bytes) = declarators bytes declaration :=
  List.map_map

theorem map_entry_ofParameter (bytes : Bytes) (param : Node) :
    (ofParameter param).map (entry bytes) = parameter bytes param := by
  unfold ofParameter parameter
  split
  · rfl
  split
  · rfl
  split
  · exact List.map_map
  · rfl

theorem map_entry_flatMap_ofVariables (bytes : Bytes) (ns : List Node) :
    (ns.flatMap ofVariables).map (entry bytes) = ns.flatMap (declarators bytes) := by
  simp only [List.map_flatMap, map_entry_ofVariables]

theorem map_entry_ofParameters (bytes : Bytes) (callable : Node) :
    ((callable.child? "parameters").toList.flatMap ofParameters).map (entry bytes) =
      parameters bytes callable := by
  unfold parameters
  cases callable.child? "parameters" with
  | none => rfl
  | some ps =>
    rw [Option.toList_some, List.flatMap_singleton, ofParameters]
    by_cases h : ps.kind = "identifier"
    · simp only [h, if_true]
      rfl
    · simp only [h, if_false, List.map_flatMap, map_entry_ofParameter]

theorem map_entry_ofInit (bytes : Bytes) (loop : Node) :
    (((loop.child? "init").toList.filter fun c =>
        c.kind == "local_variable_declaration").flatMap ofVariables).map (entry bytes) =
      forVariables bytes loop := by
  rw [map_entry_flatMap_ofVariables]
  unfold forVariables
  cases loop.child? "init" with
  | none => rfl
  | some init =>
    by_cases h : init.kind = "local_variable_declaration"
    · simp [h]
    · simp [h]

theorem map_entry_ofResources (bytes : Bytes) (guarded : Node) :
    (((guarded.child? "resources").toList.flatMap Node.namedChildren).map .resource).map
        (entry bytes) = resourceVariables bytes guarded := by
  unfold resourceVariables
  cases guarded.child? "resources" with
  | none => rfl
  | some resources =>
    rw [Option.toList_some, List.flatMap_singleton, List.map_map]
    rfl

end Declaration

/-- A scope says of a name what its first declaration of that name says. -/
theorem lookup_eq_find? (bytes : Bytes) (scope : Node) (name : String) (before : Nat) :
    lookup bytes scope name before =
      ((Declaration.ofScope before scope).find? fun d => d.name bytes == name).map
        (Declaration.type bytes) := by
  rw [← lookup_map (Declaration.ofScope before scope)]
  show _ = ((Declaration.ofScope before scope).map (Declaration.entry bytes)).lookup name
  unfold lookup Declaration.ofScope
  cases Form.ofKind? scope.kind with
  | none => rfl
  | some form =>
    cases form with
    | block =>
      rw [Declaration.map_entry_flatMap_ofVariables]
      exact (lookup_locals ..).symm
    | members =>
      rw [Declaration.map_entry_flatMap_ofVariables]
      exact (lookup_fields ..).symm
    | callable =>
      rw [Declaration.map_entry_ofParameters]
      exact (lookup_parameters ..).symm
    | forLoop =>
      rw [Declaration.map_entry_ofInit]
      exact (lookup_forVariables ..).symm
    | forEach => exact (lookup_forEachVariable ..).symm
    | handler =>
      rw [List.map_map]
      exact (lookup_caught ..).symm
    | resources =>
      rw [Declaration.map_entry_ofResources]
      exact (lookup_resourceVariables ..).symm

/-! ## All scopes above a name -/

/-- The declaration that the name at a site means: the first of its name, the nearest
scope asked first. -/
def binder? (bytes : Bytes) (s : Site) : Option Declaration :=
  (s.above.flatMap (Declaration.ofScope s.node.start)).find? fun d =>
    d.name bytes == s.node.text bytes

theorem exprType_eq_bind_binder? (bytes : Bytes) {s : Site} (h : s.node.kind = "identifier") :
    exprType bytes s = (binder? bytes s).bind (Declaration.type bytes) := by
  have hscopes : (s.above.findSome? fun scope =>
      lookup bytes scope (s.node.text bytes) s.node.start) =
      (binder? bytes s).map (Declaration.type bytes) := by
    rw [binder?, List.find?_flatMap, List.map_findSome?]
    congr 1
    funext scope
    exact lookup_eq_find? ..
  rw [exprType_identifier bytes h, resolveName, hscopes]
  cases binder? bytes s <;> rfl

end Scope
end RoleNaming
