/-
The declared type of an expression, as far as the file shows it: names of
variables, parameters and fields, fields of `this`, casts and object creations.
Calls, literals and inferred types stay unknown.
-/
import RoleNaming.Scope.Lookup
import RoleNaming.Text.Search

namespace RoleNaming
namespace Scope

open Syntax

/-- Comments of every sort. -/
def isComment (n : Node) : Bool := Text.endsIn "comment" n.kind

/-- Ask the scopes one after the other, the innermost first.  The first that
declares the name decides, even without knowing a type. -/
def resolveName (bytes : Bytes) (name : String) (before : Nat) (scopes : List Node) : Known :=
  (scopes.findSome? fun s => lookup bytes s name before).join

/-- Ask the nearest type body and no other. -/
def resolveField (bytes : Bytes) (name : String) (scopes : List Node) : Known :=
  match scopes.find? fun s => Form.ofKind? s.kind == some .members with
  | some body => (lookupFields bytes body name).join
  | none => none

/- The expression inside any number of parentheses.  Parentheses around nothing
hold no expression. -/
mutual
def bare (above : List Node) : Node → Option Site
  | .mk l cs =>
    if l.kind = "parenthesized_expression" then bareFirst (.mk l cs :: above) cs
    else some ⟨.mk l cs, above⟩

def bareFirst (above : List Node) : List Node → Option Site
  | [] => none
  | c :: cs => if c.named && !isComment c then bare above c else bareFirst above cs
end

/-- The type of an expression without parentheses around it. -/
def bareType (bytes : Bytes) (s : Site) : Known :=
  let n := s.node
  if n.kind = "cast_expression" ∨ n.kind = "object_creation_expression" then
    writtenType bytes (n.child? "type")
  else if n.kind = "identifier" then
    resolveName bytes (n.text bytes) n.start s.above
  else if n.kind = "field_access" then
    match n.child? "object", n.child? "field" with
    | some object, some field =>
      if object.kind = "this" then resolveField bytes (field.text bytes) s.above else none
    | _, _ => none
  else none

/-- The type of an expression. -/
def exprType (bytes : Bytes) (s : Site) : Known :=
  (bare s.above s.node).bind (bareType bytes)

end Scope
end RoleNaming
