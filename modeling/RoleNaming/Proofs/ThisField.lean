/-
Fields named with and without `this`.

A plain name is looked for in every scope around it, a field of `this` in the nearest type body
and nowhere else.  `exprType_field_of_this` says that the two ways meet: where nothing between
a name and the type body declares the name, and the body does, the name means what the field of
`this` means, from whatever methods, blocks or lambdas the two are used.  A field of `this`
takes its type from the declarations of that one body, and it has none if the name is declared
anywhere else.
-/
import RoleNaming.Proofs.Extent
import RoleNaming.Proofs.Hygiene

namespace RoleNaming
namespace Scope

open Syntax

/-! ## Fields of the nearest type body -/

def IsTypeBody (n : Node) : Prop :=
  n.kind ∈ ["class_body", "interface_body", "enum_body_declarations"]

instance (n : Node) : Decidable (IsTypeBody n) :=
  inferInstanceAs (Decidable (n.kind ∈ ["class_body", "interface_body", "enum_body_declarations"]))

/-- The nearest type body around a site is `body`, with the nodes `inner` in between. -/
structure Enclosed (s : Site) (inner : List Node) (body : Node) : Prop where
  above : ∃ outer, s.above = inner ++ body :: outer
  isTypeBody : IsTypeBody body
  nearest : ∀ scope ∈ inner, ¬IsTypeBody scope

/-- The node at the site is a field access on `this`, to the field `name`. -/
def IsFieldOfThis (bytes : Bytes) (s : Site) (name : String) : Prop :=
  s.node.kind = "field_access" ∧
    ∃ object field, s.node.child? "object" = some object ∧ object.kind = "this" ∧
      s.node.child? "field" = some field ∧ field.text bytes = name

/-- The name has an entry, with a known type or without.  A declaration without a name has
been entered under the empty text. -/
def Environment.Binds (env : Environment) (name : String) : Prop := ∃ entry ∈ env, entry.1 = name

instance (env : Environment) (name : String) : Decidable (env.Binds name) :=
  decidable_of_iff ((env.any fun entry => entry.1 == name) = true) (by simp [Environment.Binds])

/-- The declarations of fields and constants that stand in a type body itself. -/
def fieldDeclarations (body : Node) : List Node :=
  body.namedChildren.filter fun c =>
    c.kind == "field_declaration" || c.kind == "constant_declaration"

theorem fields_eq (bytes : Bytes) (body : Node) :
    fields bytes body = (fieldDeclarations body).flatMap (declarators bytes) := rfl

theorem lookup_eq_none_iff_not_binds {env : Environment} {name : String} :
    env.lookup name = none ↔ ¬env.Binds name := by
  rw [List.lookup_eq_none_iff]
  constructor
  · intro h ⟨entry, hentry, hname⟩
    have hne := h entry hentry
    rw [hname] at hne
    simp at hne
  · intro h entry hentry
    rw [bne_iff_ne]
    exact fun hname => h ⟨entry, hentry, hname.symm⟩

theorem isTypeBody_iff {n : Node} : IsTypeBody n ↔ Form.ofKind? n.kind = some .members := by
  constructor
  · exact ofKind?_of_mem_members
  · intro h
    refine Classical.byContradiction fun hnot => ?_
    have hkinds : ¬["class_body", "interface_body", "enum_body_declarations"].contains n.kind =
        true := fun hmem => hnot (List.contains_iff_mem.1 hmem)
    rw [Form.ofKind?, if_neg hkinds] at h
    repeat' split at h
    all_goals cases h

section

variable {bytes : Bytes} {s : Site} {inner : List Node} {body : Node} {name : String}

theorem resolveField_of_enclosed (h : Enclosed s inner body) (bytes : Bytes) (name : String) :
    resolveField bytes name s.above = (fields bytes body).typeOf name := by
  obtain ⟨outer, habove⟩ := h.above
  have hinner : (inner.find? fun n => Form.ofKind? n.kind == some .members) = none := by
    rw [List.find?_eq_none]
    intro scope hscope hmembers
    exact h.nearest scope hscope (isTypeBody_iff.2 (beq_iff_eq.1 hmembers))
  have hbody : (Form.ofKind? body.kind == some .members) = true :=
    beq_iff_eq.2 (isTypeBody_iff.1 h.isTypeBody)
  rw [resolveField, habove, List.find?_append, hinner, Option.none_or,
    List.find?_cons, hbody, Environment.typeOf, lookup_fields]

theorem exprType_of_isFieldOfThis (hf : IsFieldOfThis bytes s name)
    (h : Enclosed s inner body) : exprType bytes s = (fields bytes body).typeOf name := by
  obtain ⟨hkind, object, field, hobject, hthis, hfield, hname⟩ := hf
  have hbare : s.node.kind ≠ "parenthesized_expression" := by
    rw [hkind]
    decide
  rw [exprType_eq_bareType bytes hbare, bareType, ← resolveField_of_enclosed h, ← hname]
  simp [hkind, hobject, hthis, hfield]

/-- A name that nothing nearer declares means the field of the type body. -/
theorem exprType_of_undeclared (hkind : s.node.kind = "identifier")
    (hname : s.node.text bytes = name) (h : Enclosed s inner body)
    (hinner : ∀ scope ∈ inner, ¬(bindings bytes s.node.start scope).Binds name)
    (hbody : (fields bytes body).Binds name) :
    exprType bytes s = (fields bytes body).typeOf name := by
  obtain ⟨outer, habove⟩ := h.above
  have hsilent : ∀ scope ∈ inner, lookup bytes scope name s.node.start = none := by
    intro scope hscope
    rw [← lookup_bindings, lookup_eq_none_iff_not_binds]
    exact hinner scope hscope
  have hlookup : lookup bytes body name s.node.start = (fields bytes body).lookup name := by
    rw [lookup, isTypeBody_iff.1 h.isTypeBody, lookup_fields]
  obtain ⟨type, htype⟩ : ∃ type, (fields bytes body).lookup name = some type := by
    apply Option.ne_none_iff_exists'.1
    exact fun hnone => lookup_eq_none_iff_not_binds.1 hnone hbody
  rw [exprType_identifier bytes hkind, hname, habove, resolveName_of_undeclared hsilent,
    resolveName, List.findSome?_cons, hlookup, Environment.typeOf, htype]

end

/-- A field of `this` has the type of the name wherever the name means a field of the same type
body: the body declares it, and nothing between the name and the body does.  It has no type if
the body does not declare it, and it has the same type in every body with the same declarations
of fields and constants. -/
theorem exprType_field_of_this {bytes : Bytes} {f : Site} {name : String} {between : List Node}
    {body : Node} (hf : IsFieldOfThis bytes f name) (hbody : Enclosed f between body) :
    (∀ (n : Site) (inner : List Node), n.node.kind = "identifier" → n.node.text bytes = name →
      Enclosed n inner body → (fields bytes body).Binds name →
      (∀ scope ∈ inner, ¬(bindings bytes n.node.start scope).Binds name) →
      exprType bytes n = exprType bytes f) ∧
    (¬(fields bytes body).Binds name → exprType bytes f = none) ∧
    ∀ (g : Site) (between' : List Node) (body' : Node), IsFieldOfThis bytes g name →
      Enclosed g between' body' → fieldDeclarations body' = fieldDeclarations body →
      exprType bytes g = exprType bytes f := by
  have htype := exprType_of_isFieldOfThis hf hbody
  refine ⟨?_, ?_, ?_⟩
  · intro n inner hkind hname hn hdeclared hinner
    rw [htype, exprType_of_undeclared hkind hname hn hinner hdeclared]
  · intro hundeclared
    rw [htype, Environment.typeOf, lookup_eq_none_iff_not_binds.2 hundeclared]
    rfl
  · intro g between' body' hg hbody' hsame
    rw [htype, exprType_of_isFieldOfThis hg hbody', fields_eq, fields_eq, hsame]

/-! ### A field in the shade of a parameter

The body `{C c;m(){c;}k(D c){this.c;}}`: in the first method the name means the field, in the
second one only the field of `this` does. -/

namespace Shade

def bytes : Bytes := "{C c;m(){c;}k(D c){this.c;}}".toUTF8.toList

/-- The statement `c;` of the first method. -/
def plain : Node :=
  .onFirstLine "expression_statement" none 9 11 [.onFirstLine "identifier" none 9 10 []]

def plainBlock : Node := .onFirstLine "block" "body" 8 12 [plain]

def plainMethod : Node :=
  .onFirstLine "method_declaration" none 5 12
    [.onFirstLine "formal_parameters" "parameters" 6 8 [], plainBlock]

def access : Node :=
  .onFirstLine "field_access" none 19 25
    [.onFirstLine "this" "object" 19 23 [], .onFirstLine "identifier" "field" 24 25 []]

/-- The statement `this.c;` of the second method. -/
def shaded : Node := .onFirstLine "expression_statement" none 19 26 [access]

def shadedBlock : Node := .onFirstLine "block" "body" 18 27 [shaded]

def shadedMethod : Node :=
  .onFirstLine "method_declaration" none 12 27
    [.onFirstLine "formal_parameters" "parameters" 13 18
      [.onFirstLine "formal_parameter" none 14 17
        [.onFirstLine "type_identifier" "type" 14 15 [],
         .onFirstLine "identifier" "name" 16 17 []]],
     shadedBlock]

def body : Node :=
  .onFirstLine "class_body" none 0 28
    [Hidden.declared "field_declaration" 1, plainMethod, shadedMethod]

def useSite : Site :=
  ⟨.onFirstLine "identifier" none 9 10 [], [plain, plainBlock, plainMethod, body]⟩

def accessSite : Site := ⟨access, [shaded, shadedBlock, shadedMethod, body]⟩

theorem isFieldOfThis : IsFieldOfThis bytes accessSite "c" :=
  ⟨rfl, _, _, rfl, rfl, rfl, by decide +kernel⟩

theorem enclosed_access : Enclosed accessSite [shaded, shadedBlock, shadedMethod] body :=
  ⟨⟨[], rfl⟩, by decide, by decide⟩

theorem enclosed_use : Enclosed useSite [plain, plainBlock, plainMethod] body :=
  ⟨⟨[], rfl⟩, by decide, by decide⟩

end Shade

theorem exprType_field_of_this_shaded :
    IsFieldOfThis Shade.bytes Shade.accessSite "c" ∧
      Enclosed Shade.accessSite [Shade.shaded, Shade.shadedBlock, Shade.shadedMethod] Shade.body ∧
      Enclosed Shade.useSite [Shade.plain, Shade.plainBlock, Shade.plainMethod] Shade.body ∧
      (bindings Shade.bytes Shade.access.start Shade.shadedMethod).Binds "c" ∧
      exprType Shade.bytes Shade.accessSite = some "C" ∧
      exprType Shade.bytes Shade.useSite = some "C" := by
  have htype : exprType Shade.bytes Shade.accessSite = some "C" := by decide +kernel
  obtain ⟨hagree, -⟩ := exprType_field_of_this Shade.isFieldOfThis Shade.enclosed_access
  refine ⟨Shade.isFieldOfThis, Shade.enclosed_access, Shade.enclosed_use, by decide +kernel,
    htype, ?_⟩
  rw [hagree Shade.useSite _ rfl (by decide +kernel) Shade.enclosed_use (by decide +kernel)
    (by decide +kernel), htype]

end Scope
end RoleNaming
