/-
What stands beside a name does not reach it.

A look-up asks the nodes above a name, and each of them looks at its children and at some
nodes further down.  `exprType_regrown` says where these looks end: the statements beside a
name, the other members of its type and the locals still to come may be anything inside,
and the type of the name stays the same.

`Alike` is what a look-up can tell of the child on the way to the name, and `Seen` what the
node above that child can tell.  Two nodes that are alike are seen alike from everywhere
above, so that one step up is all there is to check (`lookup_fill`, `seen_fill`).
-/
import RoleNaming.Proofs.Comments.Stripped
import RoleNaming.Proofs.Environment
import RoleNaming.Proofs.Frame

namespace RoleNaming
namespace Scope

open Syntax

/-! ## What can be told of a node from above -/

/-- The labels of a node and of its children.  A parameter for any number of arguments
shows all that stands below it. -/
structure Alike (c d : Node) : Prop where
  label : c.label = d.label
  labels : c.children.map Node.label = d.children.map Node.label
  whole : c.kind = "spread_parameter" → c = d

theorem Alike.refl (c : Node) : Alike c c := ⟨rfl, rfl, fun _ => rfl⟩

/-- Closing a frame around nodes of one label hides what they are below it. -/
theorem alike_fill {c d : Node} (h : c.label = d.label) {f : Frame}
    (hf : f.label.kind ≠ "spread_parameter") : Alike (f.fill c) (f.fill d) := by
  refine ⟨rfl, ?_, fun hk => absurd hk hf⟩
  simp only [Frame.children_fill, List.map_append, List.map_cons, h]

theorem text?_of_label {o p : Option Node} (h : o.map Node.label = p.map Node.label)
    (bytes : Bytes) : Node.text? bytes o = Node.text? bytes p := by
  cases o with
  | none =>
    cases p with
    | none => rfl
    | some p => cases h
  | some o =>
    cases p with
    | none => cases h
    | some p =>
      have hlabel : o.label = p.label := Option.some.inj h
      rw [Node.text?, Node.text?, Node.text, Node.text, Node.start, Node.start, Node.stop,
        Node.stop, hlabel]

theorem writtenType_of_label {o p : Option Node} (h : o.map Node.label = p.map Node.label)
    (bytes : Bytes) : writtenType bytes o = writtenType bytes p := by
  rw [writtenType, writtenType, text?_of_label h]

namespace Alike

variable {bytes : Bytes} {c d : Node}

theorem kind_eq (h : Alike c d) : c.kind = d.kind := congrArg Label.kind h.label

theorem text_eq (h : Alike c d) : c.text bytes = d.text bytes :=
  text?_of_label (o := some c) (p := some d) (congrArg some h.label) bytes

/-- A child that is chosen by its label has the same label on both sides. -/
theorem find?_label (h : Alike c d) (p : Label → Bool) :
    (c.children.find? fun x => p x.label).map Node.label =
      (d.children.find? fun x => p x.label).map Node.label := by
  have hmap : (c.children.map Node.label).find? p = (d.children.map Node.label).find? p := by
    rw [h.labels]
  rwa [List.find?_map, List.find?_map] at hmap

theorem child?_label (h : Alike c d) (field : String) :
    (c.child? field).map Node.label = (d.child? field).map Node.label :=
  h.find?_label fun l => l.field == some field

theorem isNamed_eq (h : Alike c d) (name : String) :
    isNamed bytes name c = isNamed bytes name d := by
  rw [isNamed, isNamed, Node.fieldText, Node.fieldText, text?_of_label (h.child?_label "name")]

theorem writtenType_eq (h : Alike c d) :
    writtenType bytes (c.child? "type") = writtenType bytes (d.child? "type") :=
  writtenType_of_label (h.child?_label "type") bytes

theorem hasField_eq (h : Alike c d) (field : String) :
    (c.child? field).isSome = (d.child? field).isSome := by
  rw [← Option.isSome_map (f := Node.label), h.child?_label, Option.isSome_map]

theorem catchType_eq (h : Alike c d) :
    writtenType bytes (c.namedChildren.find? fun t => t.kind == "catch_type") =
      writtenType bytes (d.namedChildren.find? fun t => t.kind == "catch_type") := by
  apply writtenType_of_label
  simp only [Node.namedChildren, List.find?_filter]
  exact h.find?_label fun l => decide (l.named = true ∧ (l.kind == "catch_type") = true)

theorem lookupParameter_eq (h : Alike c d) (name : String) :
    lookupParameter bytes c name = lookupParameter bytes d name := by
  by_cases hspread : c.kind = "spread_parameter"
  · rw [h.whole hspread]
  · have hspread' : d.kind ≠ "spread_parameter" := by rwa [← h.kind_eq]
    unfold lookupParameter
    rw [if_neg hspread, if_neg hspread', h.kind_eq, h.text_eq, h.isNamed_eq, h.writtenType_eq]

end Alike

/-! ## One scope

Two trees that differ in one child of a scope, and what that child has to answer alike. -/

theorem forall₂_takeWhile {α : Type} {R : α → α → Prop} {p : α → Bool} {xs ys : List α}
    (h : List.Forall₂ R xs ys) (hp : ∀ x y, R x y → p x = p y) :
    List.Forall₂ (fun x y => R x y ∧ p x = true) (xs.takeWhile p) (ys.takeWhile p) := by
  induction h with
  | nil => exact .nil
  | @cons x y xs ys hxy _ ih =>
    rw [List.takeWhile_cons, List.takeWhile_cons, ← hp x y hxy]
    cases hx : p x with
    | true => exact .cons ⟨hxy, hx⟩ ih
    | false => exact .nil

section Fill

variable {bytes : Bytes} {f : Frame} {c d : Node} {name : String} {before : Nat}

theorem forall₂_namedChildren {R : Node → Node → Prop} (hrefl : ∀ x, R x x) (hcd : R c d)
    (h : c.label = d.label) (f : Frame) :
    List.Forall₂ R (f.fill c).namedChildren (f.fill d).namedChildren := by
  have hnamed : c.named = d.named := congrArg Label.named h
  rw [Frame.namedChildren_fill, Frame.namedChildren_fill, ← hnamed]
  apply List.rel_append (List.forall₂_same.2 fun x _ => hrefl x)
  apply List.rel_append _ (List.forall₂_same.2 fun x _ => hrefl x)
  split
  · exact .cons hcd .nil
  · exact .nil

/-- A field is another child on both sides, or it is the child in the gap. -/
theorem child?_fill (h : c.label = d.label) (f : Frame) (field : String) :
    (f.fill c).child? field = (f.fill d).child? field ∨
      f.IsField c.label field ∧ (f.fill c).child? field = some c ∧
        (f.fill d).child? field = some d := by
  rw [Node.child?, Node.child?, Frame.children_fill, Frame.children_fill, List.find?_append,
    List.find?_append, List.find?_cons, List.find?_cons, ← h]
  cases hbefore : f.before.find? fun x => x.label.field == some field with
  | some x => exact Or.inl rfl
  | none =>
    by_cases hc : c.label.field = some field
    · right
      refine ⟨⟨hc, ?_⟩, by simp [hc], by simp [hc]⟩
      intro x hx hfield
      exact List.find?_eq_none.1 hbefore x hx (by simp [hfield])
    · left
      rw [beq_eq_false_iff_ne.2 hc]

theorem child?_fill_label (h : c.label = d.label) (f : Frame) (field : String) :
    ((f.fill c).child? field).map Node.label = ((f.fill d).child? field).map Node.label := by
  rcases child?_fill h f field with heq | ⟨-, hc, hd⟩
  · rw [heq]
  · rw [hc, hd]
    exact congrArg some h

theorem namedChildren_fill_cases (h : c.label = d.label) (f : Frame) :
    List.Forall₂ (fun x y => x = y ∨ x = c ∧ y = d) (f.fill c).namedChildren
      (f.fill d).namedChildren :=
  forall₂_namedChildren (fun _ => Or.inl rfl) (Or.inr ⟨rfl, rfl⟩) h f

theorem lookupLocals_fill (h : c.label = d.label)
    (hvars : c.kind = "local_variable_declaration" → c.start < before →
      lookupVariables bytes c name = lookupVariables bytes d name) :
    lookupLocals bytes (f.fill c) name before = lookupLocals bytes (f.fill d) name before := by
  have hwhile := forall₂_takeWhile (p := fun x => x.start < before)
    (namedChildren_fill_cases h f) (by
    rintro x y (rfl | ⟨rfl, rfl⟩)
    · rfl
    · rw [Node.start, Node.start, h])
  refine (Thinned.of_forall₂ hwhile).findSome? ?_ (fun _ hx => hx.elim)
  rintro x y ⟨rfl | ⟨rfl, rfl⟩, hstart⟩
  · rfl
  · rw [Node.kind, Node.kind, ← h]
    split
    · rename_i hlocal
      exact hvars hlocal (of_decide_eq_true hstart)
    · rfl

theorem lookupFields_fill (h : c.label = d.label)
    (hvars : c.kind = "field_declaration" ∨ c.kind = "constant_declaration" →
      lookupVariables bytes c name = lookupVariables bytes d name) :
    lookupFields bytes (f.fill c) name = lookupFields bytes (f.fill d) name := by
  refine (Thinned.of_forall₂ (namedChildren_fill_cases h f)).findSome? ?_ (fun _ hx => hx.elim)
  rintro x y (rfl | ⟨rfl, rfl⟩)
  · rfl
  · rw [Node.kind, Node.kind, ← h]
    split
    · rename_i hfield
      exact hvars hfield
    · rfl

/-- What the node above can tell of a child: that it is like another one, and, where the
node goes on to look inside the child, that it finds the same there. -/
structure Seen (bytes : Bytes) (f : Frame) (c d : Node) : Prop where
  alike : Alike c d
  declarators : c.kind = "local_variable_declaration" ∨ c.kind = "field_declaration" ∨
      c.kind = "constant_declaration" →
    ∀ name, lookupVariables bytes c name = lookupVariables bytes d name
  parameters : f.IsField c.label "parameters" →
    ∀ name, lookupParameters bytes (some c) name = lookupParameters bytes (some d) name
  resources : f.IsField c.label "resources" →
    ∀ name, (c.namedChildren.find? (isNamed bytes name)).map
        (fun r => writtenType bytes (r.child? "type")) =
      (d.namedChildren.find? (isNamed bytes name)).map fun r => writtenType bytes (r.child? "type")

theorem lookupParameters_fill (h : Seen bytes f c d) :
    lookupParameters bytes ((f.fill c).child? "parameters") name =
      lookupParameters bytes ((f.fill d).child? "parameters") name := by
  rcases child?_fill h.alike.label f "parameters" with heq | ⟨hfield, hc, hd⟩
  · rw [heq]
  · rw [hc, hd]
    exact h.parameters hfield name

theorem lookupForLoop_fill (h : Seen bytes f c d) :
    lookupForLoop bytes (f.fill c) name = lookupForLoop bytes (f.fill d) name := by
  unfold lookupForLoop
  rcases child?_fill h.alike.label f "init" with heq | ⟨-, hc, hd⟩
  · rw [heq]
  · rw [hc, hd]
    by_cases hlocal : c.kind = "local_variable_declaration"
    · simp only [← h.alike.kind_eq, hlocal, if_true]
      exact h.declarators (Or.inl hlocal) name
    · simp only [← h.alike.kind_eq, hlocal, if_false]

theorem lookupForEach_fill (h : Seen bytes f c d) :
    lookupForEach bytes (f.fill c) name = lookupForEach bytes (f.fill d) name := by
  have hlabel := child?_fill_label h.alike.label f
  rw [lookupForEach, lookupForEach, isNamed, isNamed, Node.fieldText, Node.fieldText,
    text?_of_label (hlabel "name"), writtenType_of_label (hlabel "type")]

theorem lookupHandler_fill (h : Seen bytes f c d) :
    lookupHandler bytes (f.fill c) name = lookupHandler bytes (f.fill d) name := by
  have hchildren := forall₂_namedChildren Alike.refl h.alike h.alike.label f
  refine map_eq_of_rel ((Thinned.of_forall₂ hchildren).find? ?_ (fun _ hx => hx.elim)) ?_
  · intro x y hxy
    rw [hxy.kind_eq, hxy.isNamed_eq]
  · intro x y hxy
    exact hxy.catchType_eq

theorem lookupResources_fill (h : Seen bytes f c d) :
    lookupResources bytes (f.fill c) name = lookupResources bytes (f.fill d) name := by
  unfold lookupResources
  rcases child?_fill h.alike.label f "resources" with heq | ⟨hfield, hc, hd⟩
  · rw [heq]
  · rw [hc, hd]
    exact h.resources hfield name

/-- A scope says the same of a name when it sees the child on the way alike. -/
theorem lookup_fill (h : Seen bytes f c d) :
    lookup bytes (f.fill c) name before = lookup bytes (f.fill d) name before := by
  unfold lookup
  rw [Frame.kind_fill, Frame.kind_fill]
  cases Form.ofKind? f.label.kind with
  | none => rfl
  | some form =>
    cases form with
    | block =>
      exact lookupLocals_fill h.alike.label fun hlocal _ => h.declarators (Or.inl hlocal) name
    | members =>
      exact lookupFields_fill h.alike.label fun hfield => h.declarators (Or.inr hfield) name
    | callable => exact lookupParameters_fill h
    | forLoop => exact lookupForLoop_fill h
    | forEach => exact lookupForEach_fill h
    | handler => exact lookupHandler_fill h
    | resources => exact lookupResources_fill h

/-! ## All scopes above -/

theorem lookupVariables_fill (h : Alike c d) :
    lookupVariables bytes (f.fill c) name = lookupVariables bytes (f.fill d) name := by
  have hchildren := forall₂_namedChildren Alike.refl h h.label f
  have htype := child?_fill_label h.label f "type"
  refine map_eq_of_rel ((Thinned.of_forall₂ hchildren).find? ?_ (fun _ hx => hx.elim)) ?_
  · intro x y hxy
    rw [hxy.kind_eq, hxy.isNamed_eq]
  · intro x y hxy
    rw [hxy.hasField_eq, writtenType_of_label htype]

/-- One step further up, nodes that are alike make no difference in any place. -/
theorem seen_fill (h : Alike c d) (hf : f.label.kind ≠ "spread_parameter") (g : Frame) :
    Seen bytes g (f.fill c) (f.fill d) := by
  have hfill := alike_fill h.label hf
  have hchildren := forall₂_namedChildren Alike.refl h h.label f
  refine ⟨hfill, fun _ name => lookupVariables_fill h, fun _ name => ?_, fun _ name => ?_⟩
  · have hlist : ((f.fill c).namedChildren.findSome? fun x => lookupParameter bytes x name) =
        (f.fill d).namedChildren.findSome? fun x => lookupParameter bytes x name :=
      (Thinned.of_forall₂ hchildren).findSome? (fun x y hxy => hxy.lookupParameter_eq name)
        (fun _ hx => hx.elim)
    simp only [lookupParameters, hfill.kind_eq, hfill.text_eq, hlist]
  · exact map_eq_of_rel
      ((Thinned.of_forall₂ hchildren).find? (fun x y hxy => hxy.isNamed_eq name)
        (fun _ hx => hx.elim))
      fun x y hxy => hxy.writtenType_eq

/-- The scopes above two nodes answer alike if the nearest of them does.  The induction
follows the frames outwards; each frame makes the nodes alike again for the next. -/
theorem findSome?_around {fs : List Frame} (hspread : ∀ f ∈ fs, f.label.kind ≠ "spread_parameter")
    (hseen : ∀ f ∈ fs.head?, Seen bytes f c d) :
    ((c.around fs).findSome? fun scope => lookup bytes scope name before) =
      (d.around fs).findSome? fun scope => lookup bytes scope name before := by
  induction fs generalizing c d with
  | nil => rfl
  | cons f fs ih =>
    have hf : Seen bytes f c d := hseen f rfl
    have hrest := ih (c := f.fill c) (d := f.fill d)
      (fun g hg => hspread g (List.mem_cons_of_mem f hg))
      (fun g _ => seen_fill hf.alike (hspread f List.mem_cons_self) g)
    rw [Node.around, Node.around, List.findSome?_cons, List.findSome?_cons, lookup_fill hf, hrest]

end Fill

/-! ## What stands beside a name -/

/-- A name `n` and a scope around it with a child `s` beside the way to the name, which
declares nothing for it: in a block `s` is no declaration or starts behind the name, and
among the members of a type it is no field.  The scope is not itself a list of parameters or
resources, whose entries are looked into, and no parameter around the name takes any number
of arguments. -/
structure Secluded (n s : Node) (inner : List Frame) (scope : Frame) (outer : List Frame) :
    Prop where
  unspread : ∀ f ∈ inner ++ scope :: outer, f.label.kind ≠ "spread_parameter"
  unlisted : ∀ parent ∈ outer.head?,
    ¬parent.IsField scope.label "parameters" ∧ ¬parent.IsField scope.label "resources"
  silent :
    scope.label.kind ∈ ["block", "constructor_body", "switch_block_statement_group"] ∧
        (s.kind ≠ "local_variable_declaration" ∨ n.start ≤ s.start) ∨
      scope.label.kind ∈ ["class_body", "interface_body", "enum_body_declarations"] ∧
        s.kind ≠ "field_declaration" ∧ s.kind ≠ "constant_declaration"

section Regrown

variable {bytes : Bytes} {n s : Node} {grown : List Node} {inner outer : List Frame}
  {scope scope' : Frame}

theorem ofKind?_of_mem_blocks {kind : String}
    (h : kind ∈ ["block", "constructor_body", "switch_block_statement_group"]) :
    Form.ofKind? kind = some .block :=
  if_pos (List.contains_iff_mem.2 h)

theorem ofKind?_of_mem_members {kind : String}
    (h : kind ∈ ["class_body", "interface_body", "enum_body_declarations"]) :
    Form.ofKind? kind = some .members := by
  simp only [List.mem_cons, List.not_mem_nil, or_false] at h
  rcases h with rfl | rfl | rfl <;> rfl

/-- The scope itself does not look into the child that declares nothing. -/
theorem lookup_regrown (h : Secluded n s inner scope outer)
    (hgrown : Frame.Regrown s grown scope scope') (d : Node) (name : String) :
    lookup bytes (scope.fill d) name n.start = lookup bytes (scope'.fill d) name n.start := by
  obtain ⟨g, hlabel, hfill, hfill'⟩ := hgrown.exists_frame d
  have hs : s.label = (Node.mk s.label grown).label := rfl
  rw [hfill, hfill']
  unfold lookup
  rw [Frame.kind_fill, Frame.kind_fill, hlabel]
  rcases h.silent with ⟨hblock, hother | hlater⟩ | ⟨hmembers, hfield, hconstant⟩
  · rw [ofKind?_of_mem_blocks hblock]
    exact lookupLocals_fill hs fun hlocal _ => absurd hlocal hother
  · rw [ofKind?_of_mem_blocks hblock]
    exact lookupLocals_fill hs fun _ hstart => absurd hstart (Nat.not_lt.2 hlater)
  · rw [ofKind?_of_mem_members hmembers]
    apply lookupFields_fill hs
    rintro (hk | hk)
    · exact absurd hk hfield
    · exact absurd hk hconstant

/-- Above the scope nobody looks as far down as below its children. -/
theorem seen_regrown (h : Secluded n s inner scope outer)
    (hgrown : Frame.Regrown s grown scope scope') (d : Node) :
    ∀ parent ∈ outer.head?, Seen bytes parent (scope.fill d) (scope'.fill d) := by
  intro parent hparent
  obtain ⟨hparameters, hresources⟩ := h.unlisted parent hparent
  have hspread : scope.label.kind ≠ "spread_parameter" :=
    h.unspread scope (List.mem_append_right _ List.mem_cons_self)
  obtain ⟨g, hlabel, hfill, hfill'⟩ := hgrown.exists_frame d
  have hs : s.label = (Node.mk s.label grown).label := rfl
  have halike : Alike (scope.fill d) (scope'.fill d) := by
    rw [hfill, hfill']
    exact alike_fill hs (by rwa [hlabel])
  refine ⟨halike, fun hkind => ?_, fun hfield => absurd hfield hparameters,
    fun hfield => absurd hfield hresources⟩
  rw [Frame.kind_fill] at hkind
  rcases h.silent with ⟨hscope, -⟩ | ⟨hscope, -⟩ <;>
    rcases hkind with hk | hk | hk <;> simp [hk] at hscope

/-- Whatever grows below a child of a block or of the body of a type, a name elsewhere in
that scope keeps its type, unless the child is a declaration that the name can see. -/
theorem exprType_regrown {src src' : Source} (hbytes : src'.bytes = src.bytes)
    (hroot : src.root = n.enclose (inner ++ scope :: outer))
    (hroot' : src'.root = n.enclose (inner ++ scope' :: outer))
    (hgrown : Frame.Regrown s grown scope scope') (hname : n.kind = "identifier")
    (hsecluded : Secluded n s inner scope outer) :
    n.siteIn (inner ++ scope :: outer) ∈ src.sites ∧
      n.siteIn (inner ++ scope' :: outer) ∈ src'.sites ∧
      exprType src.bytes (n.siteIn (inner ++ scope :: outer)) =
        exprType src'.bytes (n.siteIn (inner ++ scope' :: outer)) := by
  refine ⟨Source.mem_sites_iff_frames.2 ⟨_, hroot, rfl⟩,
    Source.mem_sites_iff_frames.2 ⟨_, hroot', rfl⟩, ?_⟩
  have houter : ∀ f ∈ outer, f.label.kind ≠ "spread_parameter" := fun f hf =>
    hsecluded.unspread f (List.mem_append_right _ (List.mem_cons_of_mem _ hf))
  have habove : ((n.around (inner ++ scope :: outer)).findSome? fun scope =>
        lookup src.bytes scope (n.text src.bytes) n.start) =
      (n.around (inner ++ scope' :: outer)).findSome? fun scope =>
        lookup src.bytes scope (n.text src.bytes) n.start := by
    rw [Node.around_append, Node.around_append, List.findSome?_append, List.findSome?_append,
      Node.around, Node.around, List.findSome?_cons, List.findSome?_cons,
      lookup_regrown hsecluded hgrown, findSome?_around houter (seen_regrown hsecluded hgrown _)]
  rw [hbytes, exprType_identifier src.bytes hname, exprType_identifier src.bytes hname]
  exact congrArg Option.join habove

end Regrown

/-! ### A block beside a name

The body `{C c;m(){{D c;}c;}}`: the name in the method is the field, with the block before
it and with the block emptied. -/

namespace Beside

def use : Node := .onFirstLine "identifier" none 15 16 []

def block : Node := .onFirstLine "block" none 9 15 [Hidden.declared "local_variable_declaration" 10]

def frame (kind : String) (start stop : Nat) (before : List Node) : Frame :=
  ⟨⟨0, kind, true, none, start, stop, 0, start⟩, before, []⟩

def inner : List Frame := [frame "expression_statement" 15 17 []]

def scope (block : Node) : Frame := frame "block" 8 18 [block]

def outer : List Frame :=
  [frame "method_declaration" 5 18 [],
   frame "class_body" 0 19 [Hidden.declared "field_declaration" 1]]

def source (block : Node) : Source :=
  ⟨"{C c;m(){{D c;}c;}}".toUTF8.toList, use.enclose (inner ++ scope block :: outer), false⟩

def site (block : Node) : Site := use.siteIn (inner ++ scope block :: outer)

theorem regrown : Frame.Regrown block [] (scope block) (scope (.mk block.label [])) :=
  .before (a := []) (b := [])

theorem secluded : Secluded use block inner (scope block) outer where
  unspread := by decide
  unlisted := by
    intro parent hparent
    obtain rfl := Option.some.inj hparent
    constructor
    · rintro ⟨hfield, -⟩
      cases hfield
    · rintro ⟨hfield, -⟩
      cases hfield
  silent := by decide

end Beside

theorem exprType_regrown_block :
    Secluded Beside.use Beside.block Beside.inner (Beside.scope Beside.block) Beside.outer ∧
      exprType (Beside.source Beside.block).bytes (Beside.site Beside.block) = some "C" ∧
      exprType (Beside.source Beside.block).bytes (Beside.site (.mk Beside.block.label [])) =
        some "C" := by
  have hbytes : (Beside.source (.mk Beside.block.label [])).bytes =
      (Beside.source Beside.block).bytes := rfl
  have hroot : (Beside.source Beside.block).root =
      Beside.use.enclose (Beside.inner ++ Beside.scope Beside.block :: Beside.outer) := rfl
  have hroot' : (Beside.source (.mk Beside.block.label [])).root =
      Beside.use.enclose
        (Beside.inner ++ Beside.scope (.mk Beside.block.label []) :: Beside.outer) := rfl
  have h := exprType_regrown hbytes hroot hroot' Beside.regrown rfl Beside.secluded
  have htype : exprType (Beside.source Beside.block).bytes (Beside.site Beside.block) =
      some "C" := by decide +kernel
  exact ⟨Beside.secluded, htype, h.2.2.symm.trans htype⟩

end Scope
end RoleNaming
