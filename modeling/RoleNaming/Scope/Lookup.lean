/-
What the scopes of a file declare.  A scope is a node whose declarations can be
seen from below it; asked for a name it says nothing, or that it declares the
name, with the type when one is known.  A declaration of unknown type still
hides the declarations further out.
-/
import RoleNaming.Syntax.Site
import RoleNaming.Text.Blank

namespace RoleNaming
namespace Scope

open Syntax

/-- How a kind of node brings names into scope. -/
inductive Form where
  /-- Local variables, each from its declaration on. -/
  | block
  /-- Fields and constants, everywhere inside. -/
  | members
  /-- Parameters. -/
  | callable
  /-- The variables of a counting loop. -/
  | forLoop
  /-- The variable of a loop over a collection. -/
  | forEach
  /-- The caught exception. -/
  | handler
  /-- The resources of a guarded block. -/
  | resources
  deriving DecidableEq, Repr

namespace Form

def ofKind? (kind : String) : Option Form :=
  if ["block", "constructor_body", "switch_block_statement_group"].contains kind then
    some .block
  else if ["class_body", "interface_body", "enum_body_declarations"].contains kind then
    some .members
  else if ["method_declaration", "constructor_declaration", "lambda_expression"].contains kind then
    some .callable
  else if kind = "for_statement" then some .forLoop
  else if kind = "enhanced_for_statement" then some .forEach
  else if kind = "catch_clause" then some .handler
  else if kind = "try_with_resources_statement" then some .resources
  else none

end Form

/-- The type of a declared name, when it is known. -/
abbrev Known := Option String

/-- The type a node writes, without white space.  An inferred type is not
known. -/
def writtenType (bytes : Bytes) (n : Option Node) : Known :=
  let t := Text.squeeze (Node.text? bytes n)
  if t = "" ∨ t = "var" then none else some t

/-- Whether a node's name field reads `name`.  A missing name reads as the empty
text. -/
def isNamed (bytes : Bytes) (name : String) (n : Node) : Bool := n.fieldText bytes "name" == name

/-- Look among the variables of one declaration.  Dimensions after the name make
the variable an array, whose type is not written in one place. -/
def lookupVariables (bytes : Bytes) (declaration : Node) (name : String) : Option Known :=
  (declaration.namedChildren.find? fun c =>
      c.kind == "variable_declarator" && isNamed bytes name c).map fun c =>
    if (c.child? "dimensions").isSome then none
    else writtenType bytes (declaration.child? "type")

/-- Look among the local variables of a block, as far as they are declared
before the byte `before`.  The search ends at the first statement that starts
there or later. -/
def lookupLocals (bytes : Bytes) (block : Node) (name : String) (before : Nat) : Option Known :=
  (block.namedChildren.takeWhile fun c => c.start < before).findSome? fun c =>
    if c.kind = "local_variable_declaration" then lookupVariables bytes c name else none

/-- Look among the fields and constants of a type's body. -/
def lookupFields (bytes : Bytes) (body : Node) (name : String) : Option Known :=
  body.namedChildren.findSome? fun c =>
    if c.kind = "field_declaration" ∨ c.kind = "constant_declaration" then
      lookupVariables bytes c name
    else none

/-- Ask one parameter.  A parameter list without types holds bare names, and a
variable number of arguments arrives as an array. -/
def lookupParameter (bytes : Bytes) (param : Node) (name : String) : Option Known :=
  if param.kind = "formal_parameter" then
    if isNamed bytes name param then some (writtenType bytes (param.child? "type")) else none
  else if param.kind = "identifier" then
    if param.text bytes = name then some none else none
  else if param.kind = "spread_parameter" then
    if param.descendants.any fun n => n.kind == "identifier" && n.text bytes == name then
      some none
    else none
  else none

/-- Look among the parameters of a method, constructor or lambda.  A lambda may
have a single bare name in the place of a list. -/
def lookupParameters (bytes : Bytes) (params : Option Node) (name : String) : Option Known :=
  match params with
  | none => none
  | some ps =>
    if ps.kind = "identifier" then
      if ps.text bytes = name then some none else none
    else
      ps.namedChildren.findSome? fun p => lookupParameter bytes p name

/-- Ask a counting loop. -/
def lookupForLoop (bytes : Bytes) (loop : Node) (name : String) : Option Known :=
  match loop.child? "init" with
  | some init =>
    if init.kind = "local_variable_declaration" then lookupVariables bytes init name else none
  | none => none

/-- Ask a loop over a collection. -/
def lookupForEach (bytes : Bytes) (loop : Node) (name : String) : Option Known :=
  if isNamed bytes name loop then some (writtenType bytes (loop.child? "type")) else none

/-- Ask a handler for the exception it names. -/
def lookupHandler (bytes : Bytes) (handler : Node) (name : String) : Option Known :=
  (handler.namedChildren.find? fun c =>
      c.kind == "catch_formal_parameter" && isNamed bytes name c).map fun c =>
    writtenType bytes (c.namedChildren.find? fun t => t.kind == "catch_type")

/-- Ask a guarded block for its resources. -/
def lookupResources (bytes : Bytes) (guarded : Node) (name : String) : Option Known :=
  match guarded.child? "resources" with
  | some resources =>
    (resources.namedChildren.find? (isNamed bytes name)).map fun r =>
      writtenType bytes (r.child? "type")
  | none => none

/-- What a node declares `name` as, for a use at the byte `before`. -/
def lookup (bytes : Bytes) (scope : Node) (name : String) (before : Nat) : Option Known :=
  match Form.ofKind? scope.kind with
  | some .block => lookupLocals bytes scope name before
  | some .members => lookupFields bytes scope name
  | some .callable => lookupParameters bytes (scope.child? "parameters") name
  | some .forLoop => lookupForLoop bytes scope name
  | some .forEach => lookupForEach bytes scope name
  | some .handler => lookupHandler bytes scope name
  | some .resources => lookupResources bytes scope name
  | none => none

end Scope
end RoleNaming
