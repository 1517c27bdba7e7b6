/-
Names resolved from the root down.

`resolveName` asks the scopes above a name one after the other, the innermost
first, and stops at the first that declares it.  The other reading of the same
rules goes down: every scope puts its bindings in front of what is in scope
already, and a name means its first entry.  `exprType_eq_typeOf_environment` says
that the two readings give every name of a file the same type.

The bindings of a scope depend on the place of use in one way only: a block shows
the variables declared before it.
-/
import RoleNaming.Proofs.Tree
import RoleNaming.Scope.ExprType

namespace RoleNaming
namespace Scope

open Syntax

/-- Names with their types as far as these are known, the nearest declaration
first. -/
abbrev Environment := List (String × Known)

/-- The type of a name.  Its first entry decides, with a known type or without. -/
def Environment.typeOf (env : Environment) (name : String) : Known := (env.lookup name).join

/-! ## The bindings of a scope -/

/-- The variables of one declaration.  One with dimensions after its name is an
array, whose type is not written in one place. -/
def declarators (bytes : Bytes) (declaration : Node) : Environment :=
  (declaration.namedChildren.filter fun c => c.kind == "variable_declarator").map fun c =>
    (c.fieldText bytes "name",
      if (c.child? "dimensions").isSome then none
      else writtenType bytes (declaration.child? "type"))

/-- The local variables of a block, up to the first statement that starts at the
byte `before` or later. -/
def locals (bytes : Bytes) (before : Nat) (block : Node) : Environment :=
  ((block.namedChildren.takeWhile fun c => c.start < before).filter fun c =>
    c.kind == "local_variable_declaration").flatMap (declarators bytes)

def fields (bytes : Bytes) (body : Node) : Environment :=
  (body.namedChildren.filter fun c =>
    c.kind == "field_declaration" || c.kind == "constant_declaration").flatMap (declarators bytes)

/-- What one parameter binds.  A parameter for any number of arguments binds every
name below it. -/
def parameter (bytes : Bytes) (param : Node) : Environment :=
  if param.kind = "formal_parameter" then
    [(param.fieldText bytes "name", writtenType bytes (param.child? "type"))]
  else if param.kind = "identifier" then [(param.text bytes, none)]
  else if param.kind = "spread_parameter" then
    (param.descendants.filter fun n => n.kind == "identifier").map fun n => (n.text bytes, none)
  else []

def parameters (bytes : Bytes) (callable : Node) : Environment :=
  match callable.child? "parameters" with
  | none => []
  | some ps =>
    if ps.kind = "identifier" then [(ps.text bytes, none)]
    else ps.namedChildren.flatMap (parameter bytes)

def forVariables (bytes : Bytes) (loop : Node) : Environment :=
  match loop.child? "init" with
  | none => []
  | some init => if init.kind = "local_variable_declaration" then declarators bytes init else []

def forEachVariable (bytes : Bytes) (loop : Node) : Environment :=
  [(loop.fieldText bytes "name", writtenType bytes (loop.child? "type"))]

def caught (bytes : Bytes) (handler : Node) : Environment :=
  (handler.namedChildren.filter fun c => c.kind == "catch_formal_parameter").map fun c =>
    (c.fieldText bytes "name",
      writtenType bytes (c.namedChildren.find? fun t => t.kind == "catch_type"))

def resourceVariables (bytes : Bytes) (guarded : Node) : Environment :=
  match guarded.child? "resources" with
  | none => []
  | some resources =>
    resources.namedChildren.map fun r =>
      (r.fieldText bytes "name", writtenType bytes (r.child? "type"))

/-- All that a node binds, in its own order, for a use at the byte `before`. -/
def bindings (bytes : Bytes) (before : Nat) (scope : Node) : Environment :=
  if scope.kind ∈ ["block", "constructor_body", "switch_block_statement_group"] then
    locals bytes before scope
  else if scope.kind ∈ ["class_body", "interface_body", "enum_body_declarations"] then
    fields bytes scope
  else if scope.kind ∈ ["method_declaration", "constructor_declaration", "lambda_expression"] then
    parameters bytes scope
  else if scope.kind = "for_statement" then forVariables bytes scope
  else if scope.kind = "enhanced_for_statement" then forEachVariable bytes scope
  else if scope.kind = "catch_clause" then caught bytes scope
  else if scope.kind = "try_with_resources_statement" then resourceVariables bytes scope
  else []

/-- What is in scope at the end of a way down through the given nodes. -/
def environment (bytes : Bytes) (before : Nat) (way : List Node) : Environment :=
  way.foldl (fun env scope => bindings bytes before scope ++ env) []

/-! ## Looking up in bindings -/

theorem lookup_map {α : Type} (xs : List α) (key : α → String) (type : α → Known)
    (name : String) :
    (xs.map fun c => (key c, type c)).lookup name = (xs.find? fun c => key c == name).map type := by
  induction xs with
  | nil => rfl
  | cons c xs ih =>
    rw [List.map_cons, List.lookup_cons, List.find?_cons, ih, Bool.beq_comm]
    by_cases h : (key c == name) = true <;> simp [h]

theorem lookup_filter_map (xs : List Node) (p : Node → Bool) (key : Node → String)
    (type : Node → Known) (name : String) :
    ((xs.filter p).map fun c => (key c, type c)).lookup name =
      (xs.find? fun c => p c && key c == name).map type := by
  rw [lookup_map, List.find?_filter]
  simp only [Bool.decide_and, Bool.decide_eq_true]

theorem lookup_flatMap (xs : List Node) (f : Node → Environment) (name : String) :
    (xs.flatMap f).lookup name = xs.findSome? fun c => (f c).lookup name := by
  induction xs with
  | nil => rfl
  | cons c xs ih =>
    rw [List.flatMap_cons, List.lookup_append, List.findSome?_cons, ih]
    cases (f c).lookup name <;> rfl

theorem lookup_filter_flatMap (xs : List Node) (p : Node → Bool) (f : Node → Environment)
    (name : String) :
    ((xs.filter p).flatMap f).lookup name =
      xs.findSome? fun c => if p c then (f c).lookup name else none := by
  rw [lookup_flatMap]
  induction xs with
  | nil => rfl
  | cons c xs ih =>
    by_cases h : p c = true
    · rw [List.filter_cons_of_pos h, List.findSome?_cons, List.findSome?_cons, ih, if_pos h]
    · rw [List.filter_cons_of_neg h, List.findSome?_cons, ih, if_neg h]

theorem lookup_pair (key name : String) (type : Known) :
    List.lookup name [(key, type)] = if key = name then some type else none := by
  rw [List.lookup_cons, List.lookup_nil, Bool.beq_comm]
  by_cases h : key = name
  · simp [h]
  · simp [h, beq_eq_false_iff_ne.2 h]

/-! ## One scope

Each question to a scope is a look-up in the bindings of that scope. -/

theorem lookup_declarators (bytes : Bytes) (declaration : Node) (name : String) :
    (declarators bytes declaration).lookup name = lookupVariables bytes declaration name :=
  lookup_filter_map ..

theorem lookup_locals (bytes : Bytes) (before : Nat) (block : Node) (name : String) :
    (locals bytes before block).lookup name = lookupLocals bytes block name before := by
  rw [locals, lookup_filter_flatMap]
  simp only [lookup_declarators, beq_iff_eq, lookupLocals]

theorem lookup_fields (bytes : Bytes) (body : Node) (name : String) :
    (fields bytes body).lookup name = lookupFields bytes body name := by
  rw [fields, lookup_filter_flatMap]
  simp only [lookup_declarators, Bool.or_eq_true, beq_iff_eq, lookupFields]

/-- A parameter for any number of arguments binds its names without a type, so that
it only matters whether one of them is asked for. -/
theorem lookup_untyped (xs : List Node) (p : Node → Bool) (key : Node → String) (name : String) :
    ((xs.filter p).map fun c => (key c, (none : Known))).lookup name =
      if xs.any fun c => p c && key c == name then some none else none := by
  rw [lookup_filter_map]
  by_cases h : (xs.any fun c => p c && key c == name) = true
  · rw [if_pos h]
    obtain ⟨c, hc⟩ := Option.isSome_iff_exists.1 (List.find?_isSome.2 (List.any_eq_true.1 h))
    rw [hc, Option.map_some]
  · rw [if_neg h]
    rw [List.any_eq_true] at h
    rw [Option.map_eq_none_iff, List.find?_eq_none]
    intro c hc hp
    exact h ⟨c, hc, hp⟩

theorem lookup_parameter (bytes : Bytes) (param : Node) (name : String) :
    (parameter bytes param).lookup name = lookupParameter bytes param name := by
  unfold parameter lookupParameter
  split
  · simp only [lookup_pair, isNamed, beq_iff_eq]
  split
  · exact lookup_pair ..
  split
  · exact lookup_untyped ..
  · rfl

theorem lookup_parameters (bytes : Bytes) (callable : Node) (name : String) :
    (parameters bytes callable).lookup name =
      lookupParameters bytes (callable.child? "parameters") name := by
  unfold parameters lookupParameters
  cases callable.child? "parameters" with
  | none => rfl
  | some ps =>
    by_cases h : ps.kind = "identifier"
    · simp only [h, if_true]
      exact lookup_pair ..
    · simp only [h, if_false, lookup_flatMap, lookup_parameter]

theorem lookup_forVariables (bytes : Bytes) (loop : Node) (name : String) :
    (forVariables bytes loop).lookup name = lookupForLoop bytes loop name := by
  unfold forVariables lookupForLoop
  cases loop.child? "init" with
  | none => rfl
  | some init =>
    by_cases h : init.kind = "local_variable_declaration"
    · simp [h, lookup_declarators]
    · simp [h]

theorem lookup_forEachVariable (bytes : Bytes) (loop : Node) (name : String) :
    (forEachVariable bytes loop).lookup name = lookupForEach bytes loop name := by
  simp [forEachVariable, lookupForEach, lookup_pair, isNamed]

theorem lookup_caught (bytes : Bytes) (handler : Node) (name : String) :
    (caught bytes handler).lookup name = lookupHandler bytes handler name := by
  rw [caught, lookup_filter_map]
  rfl

theorem lookup_resourceVariables (bytes : Bytes) (guarded : Node) (name : String) :
    (resourceVariables bytes guarded).lookup name = lookupResources bytes guarded name := by
  unfold resourceVariables lookupResources
  cases guarded.child? "resources" with
  | none => rfl
  | some resources => exact lookup_map ..

/-- A scope declares a name as its first binding of it. -/
theorem lookup_bindings (bytes : Bytes) (before : Nat) (scope : Node) (name : String) :
    (bindings bytes before scope).lookup name = lookup bytes scope name before := by
  unfold bindings lookup Form.ofKind?
  simp only [List.contains_iff_mem]
  split
  · exact lookup_locals ..
  split
  · exact lookup_fields ..
  split
  · exact lookup_parameters ..
  split
  · exact lookup_forVariables ..
  split
  · exact lookup_forEachVariable ..
  split
  · exact lookup_caught ..
  split
  · exact lookup_resourceVariables ..
  · rfl

/-! ## All scopes above a name -/

theorem lookup_foldl_bindings (bytes : Bytes) (before : Nat) (way : List Node)
    (env : Environment) (name : String) :
    (way.foldl (fun env scope => bindings bytes before scope ++ env) env).lookup name =
      (way.reverse.findSome? fun scope => lookup bytes scope name before).or (env.lookup name) := by
  induction way generalizing env with
  | nil => rfl
  | cons scope way ih =>
    rw [List.foldl_cons, ih, List.lookup_append, lookup_bindings, List.reverse_cons,
      List.findSome?_append, List.findSome?_singleton, Option.or_assoc]

/-- Going down and going up find the same declaration: what is put in front last is
asked first. -/
theorem lookup_environment (bytes : Bytes) (before : Nat) (scopes : List Node) (name : String) :
    (environment bytes before scopes.reverse).lookup name =
      scopes.findSome? fun scope => lookup bytes scope name before := by
  rw [environment, lookup_foldl_bindings, List.reverse_reverse, List.lookup_nil, Option.or_none]

/-- Without parentheses around it, an expression is its own bare form. -/
theorem exprType_eq_bareType (bytes : Bytes) {s : Site}
    (h : s.node.kind ≠ "parenthesized_expression") : exprType bytes s = bareType bytes s := by
  obtain ⟨⟨l, cs⟩, above⟩ := s
  have hbare : bare above (.mk l cs) = some ⟨.mk l cs, above⟩ := by
    rw [bare]
    exact if_neg h
  show (bare above (.mk l cs)).bind (bareType bytes) = _
  rw [hbare, Option.bind_some]

theorem exprType_identifier (bytes : Bytes) {s : Site} (h : s.node.kind = "identifier") :
    exprType bytes s = resolveName bytes (s.node.text bytes) s.node.start s.above := by
  have hkind : s.node.kind ≠ "parenthesized_expression" := by
    rw [h]
    decide
  rw [exprType_eq_bareType bytes hkind, bareType]
  simp [h]

/-- The type of every name of a file is that of its first entry in the environment
built on the way from the root down to it. -/
theorem exprType_eq_typeOf_environment {src : Source} {s : Site} (hs : s ∈ src.sites)
    (hname : s.node.kind = "identifier") :
    src.root.Descends s.above.reverse s.node ∧
      exprType src.bytes s =
        (environment src.bytes s.node.start s.above.reverse).typeOf (s.node.text src.bytes) := by
  constructor
  · exact Site.descends_of_below (Source.mem_sites_iff.1 hs)
  · rw [exprType_identifier src.bytes hname, resolveName, Environment.typeOf, lookup_environment]

/-! ### A name with three declarations

The body `{C c;m(D c){c;E c;}}`: at the first statement of the method the parameter
hides the field, and the local variable is still to come. -/

namespace Hidden

def use : Node := .onFirstLine "identifier" none 12 13 []

def statement : Node := .onFirstLine "expression_statement" none 12 14 [use]

def declared (declaration : String) (start : Nat) : Node :=
  .onFirstLine declaration none start (start + 4)
    [.onFirstLine "type_identifier" (some "type") start (start + 1) [],
     .onFirstLine "variable_declarator" (some "declarator") (start + 2) (start + 3)
      [.onFirstLine "identifier" (some "name") (start + 2) (start + 3) []]]

def block : Node :=
  .onFirstLine "block" (some "body") 11 19
    [statement, declared "local_variable_declaration" 14]

def method : Node :=
  .onFirstLine "method_declaration" none 5 19
    [.onFirstLine "formal_parameters" (some "parameters") 6 11
      [.onFirstLine "formal_parameter" none 7 10
        [.onFirstLine "type_identifier" (some "type") 7 8 [],
         .onFirstLine "identifier" (some "name") 9 10 []]],
     block]

def root : Node :=
  .onFirstLine "class_body" none 0 20 [declared "field_declaration" 1, method]

def source : Source := ⟨"{C c;m(D c){c;E c;}}".toUTF8.toList, root, false⟩

def site : Site := ⟨use, [statement, block, method, root]⟩

theorem site_mem : site ∈ source.sites := by
  have hm : method ∈ root.children := .tail _ (.head _)
  have hb : block ∈ method.children := .tail _ (.head _)
  have hs : statement ∈ block.children := .head _
  have hu : use ∈ statement.children := .head _
  have h : Site.Below (.top root) (.top root) := .self
  exact Source.mem_sites_iff.2 ((((h.under hm).under hb).under hs).under hu)

end Hidden

theorem exprType_eq_typeOf_environment_hidden :
    Hidden.site ∈ Hidden.source.sites ∧ Hidden.site.node.kind = "identifier" ∧
      environment Hidden.source.bytes Hidden.site.node.start Hidden.site.above.reverse =
        [("c", some "D"), ("c", some "C")] ∧
      exprType Hidden.source.bytes Hidden.site = some "D" := by
  have h := exprType_eq_typeOf_environment Hidden.site_mem rfl
  refine ⟨Hidden.site_mem, rfl, by decide +kernel, ?_⟩
  rw [h.2]
  decide +kernel

end Scope
end RoleNaming
