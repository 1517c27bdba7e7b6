/-
How far the variables of a statement reach.

The resources of a guarded block are variables of that block, and the variable of a loop over
a collection is one of the loop's body.  The handlers behind the block and the collection are
outside: a name there means what it would mean if the statement had no variables.  A look-up
does not ask from which child of the statement it comes, and so it also finds the variables
from outside.  `exprType_outside` says when this makes a difference: exactly for a name that
nothing inside the handler or the collection declares and that one of the variables has.
-/
import RoleNaming.Proofs.Declaration

namespace RoleNaming
namespace Scope

open Syntax

/-! ## Statements with variables -/

/-- A child of a statement to which the variables of the statement do not reach: a handler
behind a guarded block, or the collection that a loop goes over. -/
def IsOutside (statement c : Node) : Prop :=
  statement.kind = "try_with_resources_statement" ∧ c ∈ statement.children ∧
      (c.kind = "catch_clause" ∨ c.kind = "finally_clause") ∨
    statement.kind = "enhanced_for_statement" ∧ statement.child? "value" = some c

/-- The nodes that hold name and type of the variables, in order. -/
def ownVariables (statement : Node) : List Node :=
  if statement.kind = "enhanced_for_statement" then [statement]
  else (statement.child? "resources").toList.flatMap Node.namedChildren

theorem IsOutside.mem_children {statement c : Node} (h : IsOutside statement c) :
    c ∈ statement.children := by
  rcases h with ⟨-, hc, -⟩ | ⟨-, hc⟩
  · exact hc
  · exact List.mem_of_find?_eq_some hc

theorem lookup_eq_find?_ownVariables {statement c : Node} (h : IsOutside statement c)
    (bytes : Bytes) (name : String) (before : Nat) :
    lookup bytes statement name before =
      ((ownVariables statement).find? (isNamed bytes name)).map fun v =>
        writtenType bytes (v.child? "type") := by
  unfold lookup ownVariables
  rcases h with ⟨hkind, -⟩ | ⟨hkind, -⟩
  · rw [hkind]
    show lookupResources bytes statement name = _
    unfold lookupResources
    cases statement.child? "resources" with
    | none => rfl
    | some resources => simp
  · rw [hkind]
    show lookupForEach bytes statement name = _
    unfold lookupForEach
    by_cases hname : isNamed bytes name statement = true
    · simp [hname]
    · simp [hname]

/-! ## A scope among others -/

theorem lookup_eq_none_iff {bytes : Bytes} {scope : Node} {name : String} {before : Nat} :
    lookup bytes scope name before = none ↔
      ∀ d ∈ Declaration.ofScope before scope, d.name bytes ≠ name := by
  rw [lookup_eq_find?, Option.map_eq_none_iff, List.find?_eq_none]
  simp only [beq_iff_eq, ne_eq]

section

variable {bytes : Bytes} {name : String} {before : Nat} {scope : Node} {inner outer : List Node}

/-- A scope that does not declare the name may as well be left out. -/
theorem resolveName_of_silent (h : lookup bytes scope name before = none) :
    resolveName bytes name before (inner ++ scope :: outer) =
      resolveName bytes name before (inner ++ outer) := by
  rw [resolveName, resolveName, List.findSome?_append, List.findSome?_append,
    List.findSome?_cons, h]

/-- Behind a scope that declares the name, no other is asked. -/
theorem resolveName_of_declared (h : ∃ scope ∈ inner, lookup bytes scope name before ≠ none)
    (rest : List Node) :
    resolveName bytes name before (inner ++ rest) = resolveName bytes name before inner := by
  obtain ⟨k, hk⟩ : ∃ k, (inner.findSome? fun s => lookup bytes s name before) = some k := by
    apply Option.ne_none_iff_exists'.1
    intro hnone
    obtain ⟨scope, hmem, hne⟩ := h
    exact hne (List.findSome?_eq_none_iff.1 hnone scope hmem)
  rw [resolveName, resolveName, List.findSome?_append, hk, Option.some_or]

theorem resolveName_of_undeclared (h : ∀ scope ∈ inner, lookup bytes scope name before = none)
    (rest : List Node) :
    resolveName bytes name before (inner ++ rest) = resolveName bytes name before rest := by
  rw [resolveName, resolveName, List.findSome?_append, List.findSome?_eq_none_iff.2 h,
    Option.none_or]

end

/-! ## Names outside -/

/-- The name gets through the scopes `inner` and meets the variable `v` of the statement. -/
structure Captured (bytes : Bytes) (n : Node) (inner : List Node) (statement v : Node) : Prop where
  undeclared : ∀ scope ∈ inner, ∀ d ∈ Declaration.ofScope n.start scope,
    d.name bytes ≠ n.text bytes
  first : (ownVariables statement).find? (isNamed bytes (n.text bytes)) = some v

/-- A name outside has the type it would have if the statement had no variables, unless one of
them captures it.  Then it has the type of that variable, and what it should have only if the
two happen to be the same. -/
theorem exprType_outside {src : Source} {t s : Site} {c : Node} (ht : t ∈ src.sites)
    (hc : IsOutside t.node c) (hs : Site.Below (t.under c) s) (hname : s.node.kind = "identifier") :
    s ∈ src.sites ∧ ∃ inner, s.above = inner ++ t.node :: t.above ∧
      ((¬∃ v, Captured src.bytes s.node inner t.node v) →
        exprType src.bytes s =
          resolveName src.bytes (s.node.text src.bytes) s.node.start (inner ++ t.above)) ∧
      ∀ v, Captured src.bytes s.node inner t.node v →
        exprType src.bytes s = writtenType src.bytes (v.child? "type") ∧
          (exprType src.bytes s =
              resolveName src.bytes (s.node.text src.bytes) s.node.start (inner ++ t.above) ↔
            writtenType src.bytes (v.child? "type") =
              resolveName src.bytes (s.node.text src.bytes) s.node.start t.above) := by
  have hbelow := Source.mem_sites_iff.1 ht
  refine ⟨Source.mem_sites_iff.2 ((hbelow.under hc.mem_children).trans hs), ?_⟩
  obtain ⟨inner, habove⟩ := hs.exists_above
  refine ⟨inner, habove, ?_, ?_⟩
  · intro hfree
    rw [exprType_identifier src.bytes hname, habove]
    show resolveName _ _ _ (inner ++ t.node :: t.above) = _
    by_cases hdeclared : ∃ scope ∈ inner,
        lookup src.bytes scope (s.node.text src.bytes) s.node.start ≠ none
    · rw [resolveName_of_declared hdeclared, resolveName_of_declared hdeclared]
    · apply resolveName_of_silent
      rw [lookup_eq_find?_ownVariables hc, Option.map_eq_none_iff,
        Option.eq_none_iff_forall_ne_some]
      intro v hv
      refine hfree ⟨v, fun scope hscope => lookup_eq_none_iff.1 ?_, hv⟩
      exact Classical.byContradiction fun hne => hdeclared ⟨scope, hscope, hne⟩
  · intro v hv
    have hinner : ∀ scope ∈ inner,
        lookup src.bytes scope (s.node.text src.bytes) s.node.start = none :=
      fun scope hscope => lookup_eq_none_iff.2 (hv.undeclared scope hscope)
    have htype : exprType src.bytes s = writtenType src.bytes (v.child? "type") := by
      rw [exprType_identifier src.bytes hname, habove]
      show resolveName _ _ _ (inner ++ t.node :: t.above) = _
      rw [resolveName_of_undeclared hinner, resolveName, List.findSome?_cons,
        lookup_eq_find?_ownVariables hc, hv.first]
      rfl
    refine ⟨htype, ?_⟩
    rw [htype, resolveName_of_undeclared hinner]

/-! ### A variable seen from outside

The body `{C c;m(){` `}}` with a field `c`, and in the method a guarded block or a loop with a
variable `c`. -/

namespace Reached

def root (statement : Node) : Node :=
  .onFirstLine "class_body" none 0 37
    [Hidden.declared "field_declaration" 1,
     .onFirstLine "method_declaration" none 5 36 [.onFirstLine "block" "body" 8 36 [statement]]]

def site (statement : Node) : Site :=
  let block : Node := .onFirstLine "block" "body" 8 36 [statement]
  ⟨statement, [block, .onFirstLine "method_declaration" none 5 36 [block], root statement]⟩

theorem site_mem (bytes : Bytes) (statement : Node) :
    site statement ∈ (⟨bytes, root statement, false⟩ : Source).sites := by
  have h : Site.Below (.top (root statement)) (.top (root statement)) := .self
  exact Source.mem_sites_iff.2 (((h.under (.tail _ (.head _))).under (.head _)).under (.head _))

/-! The guarded block `try(D c=d){}catch(E` `){c;}`, where the exception has the name given. -/

def guardedBytes (caught : String) : Bytes :=
  ("\x7bC c;m()\x7btry(D c=d)\x7b\x7dcatch(E " ++ caught ++ ")\x7bc;\x7d\x7d\x7d").toUTF8.toList

def use : Node := .onFirstLine "identifier" none 32 33 []

def block : Node :=
  .onFirstLine "block" "body" 31 35 [.onFirstLine "expression_statement" none 32 34 [use]]

def caught : Node :=
  .onFirstLine "catch_formal_parameter" none 27 30
    [.onFirstLine "catch_type" none 27 28 [], .onFirstLine "identifier" "name" 29 30 []]

def handler : Node := .onFirstLine "catch_clause" none 21 35 [caught, block]

def resource : Node :=
  .onFirstLine "resource" none 13 18
    [.onFirstLine "type_identifier" "type" 13 14 [], .onFirstLine "identifier" "name" 15 16 []]

def guarded : Node :=
  .onFirstLine "try_with_resources_statement" none 9 35
    [.onFirstLine "resource_specification" "resources" 12 19 [resource],
     .onFirstLine "block" "body" 19 21 [],
     handler]

def guardedSource (caught : String) : Source := ⟨guardedBytes caught, root guarded, false⟩

def useSite : Site :=
  let inside := ((site guarded).under handler).under block
  (inside.under (.onFirstLine "expression_statement" none 32 34 [use])).under use

theorem isOutside_handler : IsOutside guarded handler :=
  Or.inl ⟨rfl, .tail _ (.tail _ (.head _)), Or.inl rfl⟩

theorem below_handler : Site.Below ((site guarded).under handler) useSite :=
  ((Site.Below.self.under (.tail _ (.head _))).under (.head _)).under (.head _)

/-! The loop `for(D c:c);`. -/

def loopBytes : Bytes := "{C c;m(){for(D c:c);}}".toUTF8.toList

def collection : Node := .onFirstLine "identifier" "value" 17 18 []

def loop : Node :=
  .onFirstLine "enhanced_for_statement" none 9 20
    [.onFirstLine "type_identifier" "type" 13 14 [], .onFirstLine "identifier" "name" 15 16 [],
     collection]

def loopSource : Source := ⟨loopBytes, root loop, false⟩

theorem isOutside_collection : IsOutside loop collection := Or.inr ⟨rfl, rfl⟩

end Reached

/-- The exception `c` is nearer than the resource, and the name in the handler means it. -/
theorem exprType_outside_caught :
    Reached.site Reached.guarded ∈ (Reached.guardedSource "c").sites ∧
      IsOutside Reached.guarded Reached.handler ∧
      Site.Below ((Reached.site Reached.guarded).under Reached.handler) Reached.useSite ∧
      Reached.useSite.node.kind = "identifier" ∧
      exprType (Reached.guardedSource "c").bytes Reached.useSite = some "E" := by
  have ht : Reached.site Reached.guarded ∈ (Reached.guardedSource "c").sites :=
    Reached.site_mem _ _
  refine ⟨ht, Reached.isOutside_handler, Reached.below_handler, rfl, ?_⟩
  obtain ⟨-, inner, habove, hfree, -⟩ :=
    exprType_outside ht Reached.isOutside_handler Reached.below_handler rfl
  obtain rfl : Reached.useSite.above.take 3 = inner := List.append_cancel_right habove
  rw [hfree]
  · decide +kernel
  · intro ⟨v, hv⟩
    refine hv.undeclared Reached.handler (.tail _ (.tail _ (.head _))) (.caught Reached.caught)
      (.head _) ?_
    decide +kernel

/-- The resource and the variable of the loop are found from outside, where the name means the
field `C c`: left out of the look-up, the statements make no difference to it. -/
theorem variables_seen_from_outside :
    (Reached.site Reached.guarded ∈ (Reached.guardedSource "e").sites ∧
      IsOutside Reached.guarded Reached.handler ∧
      Site.Below ((Reached.site Reached.guarded).under Reached.handler) Reached.useSite ∧
      Reached.useSite.above = Reached.useSite.above.take 3 ++
        Reached.guarded :: (Reached.site Reached.guarded).above ∧
      exprType (Reached.guardedBytes "e") Reached.useSite = some "D" ∧
      resolveName (Reached.guardedBytes "e") (Reached.use.text (Reached.guardedBytes "e"))
        Reached.use.start
        (Reached.useSite.above.take 3 ++ (Reached.site Reached.guarded).above) = some "C") ∧
    Reached.site Reached.loop ∈ Reached.loopSource.sites ∧
      IsOutside Reached.loop Reached.collection ∧
      exprType Reached.loopBytes ((Reached.site Reached.loop).under Reached.collection) =
        some "D" ∧
      resolveName Reached.loopBytes (Reached.collection.text Reached.loopBytes)
        Reached.collection.start (Reached.site Reached.loop).above = some "C" := by
  refine ⟨⟨Reached.site_mem _ _, Reached.isOutside_handler, Reached.below_handler, rfl, ?_, ?_⟩,
    Reached.site_mem _ _, Reached.isOutside_collection, ?_, ?_⟩
  all_goals decide +kernel

end Scope
end RoleNaming
