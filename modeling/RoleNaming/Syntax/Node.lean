/-
Syntax trees as the parser delivers them: labelled nodes with their children in
source order.  A tree need not fit the grammar or the source, so every access
to a part of a node may come back empty.
-/
import RoleNaming.Text.Utf8

namespace RoleNaming

abbrev Bytes := List UInt8

namespace Syntax

/-- What the parser says of one node.  Positions are zero-based; `row` and `col`
are taken as given and not computed from the source. -/
structure Label where
  /-- The node's place in the parser's listing.  It names the node in answers and
  plays no part in the checks. -/
  number : Nat
  kind : String
  named : Bool
  field : Option String
  start : Nat
  stop : Nat
  row : Nat
  col : Nat
  deriving DecidableEq, Repr

inductive Node where
  | mk (label : Label) (children : List Node)
  deriving Repr

namespace Node

def label : Node → Label
  | .mk l _ => l

def children : Node → List Node
  | .mk _ cs => cs

def number (n : Node) : Nat := n.label.number

def kind (n : Node) : String := n.label.kind

def named (n : Node) : Bool := n.label.named

def start (n : Node) : Nat := n.label.start

def stop (n : Node) : Nat := n.label.stop

/-- The children that the grammar names; the others are its punctuation and
keywords. -/
def namedChildren (n : Node) : List Node := n.children.filter Node.named

/-- The first child in the given field, named or not. -/
def child? (n : Node) (field : String) : Option Node :=
  n.children.find? fun c => c.label.field == some field

/-- The source of a node, read as UTF-8. -/
def text (bytes : Bytes) (n : Node) : String :=
  String.ofList (Text.Utf8.decode (Text.slice bytes n.start n.stop))

/-- The source of a node that may be absent; an absent node reads as the empty
text. -/
def text? (bytes : Bytes) : Option Node → String
  | some n => n.text bytes
  | none => ""

/-- The source of a node's field. -/
def fieldText (bytes : Bytes) (n : Node) (field : String) : String :=
  text? bytes (n.child? field)

/-! ## Size -/

/- The number of nodes of a tree and of a list of trees.  It bounds the walk
that keeps a stack of pending trees. -/
mutual
def size : Node → Nat
  | .mk _ cs => sizes cs + 1

def sizes : List Node → Nat
  | [] => 0
  | c :: cs => size c + sizes cs
end

theorem size_eq (n : Node) : n.size = sizes n.children + 1 := by
  cases n with
  | mk l cs => simp [size, children]

theorem sizes_append (a b : List Node) : sizes (a ++ b) = sizes a + sizes b := by
  induction a with
  | nil => simp [sizes]
  | cons c cs ih =>
    simp only [List.cons_append, sizes, ih]
    omega

end Node

end Syntax
end RoleNaming
