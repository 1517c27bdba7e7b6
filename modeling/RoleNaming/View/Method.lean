/-
Methods and constructors as the rules see them.
-/
import RoleNaming.Syntax.Site
import RoleNaming.Text.Lowercase

namespace RoleNaming

open Syntax

namespace View

/-- A parameter with its name in lower case and its type as written. -/
structure Parameter where
  name : String
  type : String
  node : Node

/-- A method or constructor with its name in lower case. -/
structure Method where
  name : String
  parameters : List Parameter
  isPrivate : Bool
  node : Node

def methodKinds : List String := ["method_declaration", "constructor_declaration"]

/-- Whether the first list of modifiers holds the given one. -/
def hasModifier (n : Node) (modifier : String) : Bool :=
  match n.children.find? fun c => c.kind == "modifiers" with
  | some ms => ms.children.any fun m => m.kind == modifier
  | none => false

/-- The name of a parameter that takes a variable number of arguments: that of
its declarator, or else its last bare name. -/
def spreadName? (param : Node) : Option Node :=
  match param.namedChildren.find? fun c => c.kind == "variable_declarator" with
  | some declarator => declarator.child? "name"
  | none => (param.namedChildren.filter fun c => c.kind == "identifier").getLast?

/-- The type of the single arguments of such a parameter. -/
def spreadType? (param : Node) : Option Node :=
  param.namedChildren.find? fun c => !(c.kind == "modifiers" || c.kind == "variable_declarator")

/-- The name node and the written type of a parameter.  Receiver parameters and
comments are no parameters. -/
def parameterParts? (bytes : Bytes) (param : Node) : Option (Option Node × String) :=
  if param.kind = "formal_parameter" then
    let type := param.fieldText bytes "type"
    let type := if (param.child? "dimensions").isSome then type ++ "[]" else type
    some (param.child? "name", type)
  else if param.kind = "spread_parameter" then
    some (spreadName? param, Node.text? bytes (spreadType? param) ++ "...")
  else none

/-- A parameter, when it has a name. -/
def Parameter.ofNode? (bytes : Bytes) (param : Node) : Option Parameter :=
  match parameterParts? bytes param with
  | some (some name, type) => some ⟨Text.lowercase (name.text bytes), type, param⟩
  | _ => none

/-- The parameters of a list, in order. -/
def parametersOf (bytes : Bytes) : Option Node → List Parameter
  | some params => params.namedChildren.filterMap (Parameter.ofNode? bytes)
  | none => []

/-- The method or constructor that a node declares. -/
def Method.ofNode? (bytes : Bytes) (n : Node) : Option Method :=
  if methodKinds.contains n.kind then
    some
      { name := Text.lowercase (n.fieldText bytes "name")
        parameters := parametersOf bytes (n.child? "parameters")
        isPrivate := hasModifier n "private"
        node := n }
  else none

end View
end RoleNaming
