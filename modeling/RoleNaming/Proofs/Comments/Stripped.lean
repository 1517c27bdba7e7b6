/-
Trees with comments taken out.

`Stripped n m` says that `m` is the tree `n` without some of its comments.  Only a
comment that is a leaf in no field can go, and the root stays.  The lists of children
are then related by `Thinned`: entries are left out or related one by one.  A search
or a collection that never picks a comment gives the same on both lists, and
`thinned_sites` carries the relation over to the walk.
-/
import Mathlib.Data.List.Forall2
import RoleNaming.Proofs.Tree

namespace RoleNaming

/-! ## Lists with entries left out -/

theorem cases_of_rel {α β : Type} {R : α → β → Prop} {o : Option α} {p : Option β}
    (h : Option.Rel R o p) : (o = none ∧ p = none) ∨ ∃ a b, o = some a ∧ p = some b ∧ R a b := by
  cases h with
  | none => exact Or.inl ⟨rfl, rfl⟩
  | some h => exact Or.inr ⟨_, _, rfl, rfl, h⟩

/-- Some `loose` entries of the first list are left out, and the others stand in the
relation `R` to those of the second. -/
inductive Thinned {α β : Type} (loose : α → Prop) (R : α → β → Prop) : List α → List β → Prop where
  | nil : Thinned loose R [] []
  | keep {a : α} {b : β} {as : List α} {bs : List β} (h : R a b) (t : Thinned loose R as bs) :
      Thinned loose R (a :: as) (b :: bs)
  | drop {a : α} {as : List α} {bs : List β} (h : loose a) (t : Thinned loose R as bs) :
      Thinned loose R (a :: as) bs

namespace Thinned

variable {α β γ : Type} {loose : α → Prop} {R : α → β → Prop} {as : List α} {bs : List β}

theorem append {cs : List α} {ds : List β} (h : Thinned loose R as bs)
    (h' : Thinned loose R cs ds) : Thinned loose R (as ++ cs) (bs ++ ds) := by
  induction h with
  | nil => exact h'
  | keep hab _ ih => exact .keep hab ih
  | drop ha _ ih => exact .drop ha ih

theorem map {γ' : Type} {loose' : γ → Prop} {S : γ → γ' → Prop} {f : α → γ} {g : β → γ'}
    (h : Thinned loose R as bs) (hR : ∀ a b, R a b → S (f a) (g b))
    (hl : ∀ a, loose a → loose' (f a)) : Thinned loose' S (as.map f) (bs.map g) := by
  induction h with
  | nil => exact .nil
  | keep hab _ ih => exact .keep (hR _ _ hab) ih
  | drop ha _ ih => exact .drop (hl _ ha) ih

theorem filter {p : α → Bool} {q : β → Bool} (h : Thinned loose R as bs)
    (hR : ∀ a b, R a b → p a = q b) : Thinned loose R (as.filter p) (bs.filter q) := by
  induction h with
  | nil => exact .nil
  | @keep a b as bs hab _ ih =>
    by_cases hq : q b = true
    · have hp : p a = true := (hR a b hab).trans hq
      rw [List.filter_cons_of_pos hp, List.filter_cons_of_pos hq]
      exact .keep hab ih
    · have hp : ¬p a = true := fun hp => hq ((hR a b hab).symm.trans hp)
      rw [List.filter_cons_of_neg hp, List.filter_cons_of_neg hq]
      exact ih
  | @drop a as bs ha _ ih =>
    by_cases hp : p a = true
    · rw [List.filter_cons_of_pos hp]
      exact .drop ha ih
    · rw [List.filter_cons_of_neg hp]
      exact ih

theorem of_forall₂ (h : List.Forall₂ R as bs) : Thinned (fun _ => False) R as bs := by
  induction h with
  | nil => exact .nil
  | cons hab _ ih => exact .keep hab ih

/-- Where no entry can be left out the relation is one to one. -/
theorem forall₂ (h : Thinned loose R as bs) (hl : ∀ a ∈ as, ¬loose a) : List.Forall₂ R as bs := by
  induction h with
  | nil => exact .nil
  | keep hab _ ih => exact .cons hab (ih fun a ha => hl a (List.mem_cons_of_mem _ ha))
  | drop ha _ _ => exact absurd ha (hl _ List.mem_cons_self)

theorem forall₂_filter {p : α → Bool} {q : β → Bool} (h : Thinned loose R as bs)
    (hR : ∀ a b, R a b → p a = q b) (hl : ∀ a, loose a → p a = false) :
    List.Forall₂ R (as.filter p) (bs.filter q) := by
  refine (h.filter hR).forall₂ fun a ha hloose => ?_
  have hp := (List.mem_filter.1 ha).2
  rw [hl a hloose] at hp
  cases hp

theorem find? {p : α → Bool} {q : β → Bool} (h : Thinned loose R as bs)
    (hR : ∀ a b, R a b → p a = q b) (hl : ∀ a, loose a → p a = false) :
    Option.Rel R (as.find? p) (bs.find? q) := by
  induction h with
  | nil => exact .none
  | @keep a b as bs hab _ ih =>
    rw [List.find?_cons, List.find?_cons, hR a b hab]
    cases q b with
    | true => exact .some hab
    | false => exact ih
  | @drop a as bs ha _ ih =>
    rw [List.find?_cons, hl a ha]
    exact ih

theorem findSome? {f : α → Option γ} {g : β → Option γ} (h : Thinned loose R as bs)
    (hR : ∀ a b, R a b → f a = g b) (hl : ∀ a, loose a → f a = none) :
    as.findSome? f = bs.findSome? g := by
  induction h with
  | nil => rfl
  | @keep a b as bs hab _ ih => rw [List.findSome?_cons, List.findSome?_cons, hR a b hab, ih]
  | @drop a as bs ha _ ih => rw [List.findSome?_cons, hl a ha, ih]

theorem flatMap {f : α → List γ} {g : β → List γ} (h : Thinned loose R as bs)
    (hR : ∀ a b, R a b → f a = g b) (hl : ∀ a, loose a → f a = []) :
    as.flatMap f = bs.flatMap g := by
  induction h with
  | nil => rfl
  | @keep a b as bs hab _ ih => rw [List.flatMap_cons, List.flatMap_cons, hR a b hab, ih]
  | @drop a as bs ha _ ih => rw [List.flatMap_cons, hl a ha, List.nil_append, ih]

theorem forall₂_filterMap {γ' : Type} {S : γ → γ' → Prop} {f : α → Option γ} {g : β → Option γ'}
    (h : Thinned loose R as bs) (hR : ∀ a b, R a b → Option.Rel S (f a) (g b))
    (hl : ∀ a, loose a → f a = none) : List.Forall₂ S (as.filterMap f) (bs.filterMap g) := by
  induction h with
  | nil => exact .nil
  | @keep a b as bs hab _ ih =>
    rw [List.filterMap_cons, List.filterMap_cons]
    rcases cases_of_rel (hR a b hab) with ⟨hf, hg⟩ | ⟨c, d, hf, hg, hcd⟩
    · rw [hf, hg]
      exact ih
    · rw [hf, hg]
      exact .cons hcd ih
  | @drop a as bs ha _ ih =>
    rw [List.filterMap_cons, hl a ha]
    exact ih

theorem any {p : α → Bool} {q : β → Bool} (h : Thinned loose R as bs)
    (hR : ∀ a b, R a b → p a = q b) (hl : ∀ a, loose a → p a = false) :
    as.any p = bs.any q := by
  induction h with
  | nil => rfl
  | @keep a b as bs hab _ ih => rw [List.any_cons, List.any_cons, hR a b hab, ih]
  | @drop a as bs ha _ ih => rw [List.any_cons, hl a ha, Bool.false_or, ih]

end Thinned

theorem map_eq_of_rel {α β γ : Type} {R : α → β → Prop} {o : Option α} {p : Option β} {f : α → γ}
    {g : β → γ} (h : Option.Rel R o p) (hR : ∀ a b, R a b → f a = g b) : o.map f = p.map g := by
  cases h with
  | none => rfl
  | some h => exact congrArg some (hR _ _ h)

theorem isSome_eq_of_rel {α β : Type} {R : α → β → Prop} {o : Option α} {p : Option β}
    (h : Option.Rel R o p) : o.isSome = p.isSome := by
  cases h with
  | none => rfl
  | some _ => rfl

namespace Syntax

/-! ## Stripped trees -/

/-- A comment that can go. -/
structure Node.IsLooseComment (n : Node) : Prop where
  leaf : n.children = []
  field : n.label.field = none
  kind : n.kind = "line_comment" ∨ n.kind = "block_comment"

inductive Node.Stripped : Node → Node → Prop where
  | mk {l : Label} {cs ds : List Node} (h : Thinned Node.IsLooseComment Node.Stripped cs ds) :
      Stripped (.mk l cs) (.mk l ds)

namespace Node

theorem IsLooseComment.kind_ne {n : Node} (h : n.IsLooseComment) {kind : String}
    (hkind : kind ≠ "line_comment" ∧ kind ≠ "block_comment") : n.kind ≠ kind := by
  intro heq
  rcases h.kind with hn | hn
  · exact hkind.1 (heq.symm.trans hn)
  · exact hkind.2 (heq.symm.trans hn)

theorem IsLooseComment.kind_beq {n : Node} (h : n.IsLooseComment) {kind : String}
    (hkind : kind ≠ "line_comment" ∧ kind ≠ "block_comment") : (n.kind == kind) = false :=
  beq_eq_false_iff_ne.2 (h.kind_ne hkind)

theorem IsLooseComment.child?_eq_none {n : Node} (h : n.IsLooseComment) (field : String) :
    n.child? field = none := by
  rw [child?, h.leaf, List.find?_nil]

namespace Stripped

variable {n m : Node}

theorem label_eq (h : Stripped n m) : n.label = m.label := by
  cases h
  rfl

theorem kind_eq (h : Stripped n m) : n.kind = m.kind := congrArg Label.kind h.label_eq

theorem named_eq (h : Stripped n m) : n.named = m.named := congrArg Label.named h.label_eq

theorem start_eq (h : Stripped n m) : n.start = m.start := congrArg Label.start h.label_eq

theorem text_eq (h : Stripped n m) (bytes : Bytes) : n.text bytes = m.text bytes := by
  rw [text, text, start, start, stop, stop, h.label_eq]

theorem children (h : Stripped n m) : Thinned IsLooseComment Stripped n.children m.children := by
  cases h with
  | mk h => exact h

theorem namedChildren (h : Stripped n m) :
    Thinned IsLooseComment Stripped n.namedChildren m.namedChildren :=
  h.children.filter fun _ _ hc => hc.named_eq

theorem child? (h : Stripped n m) (field : String) :
    Option.Rel Stripped (n.child? field) (m.child? field) := by
  refine h.children.find? (fun c d hc => ?_) (fun c hc => ?_)
  · rw [hc.label_eq]
  · rw [hc.field]
    rfl

end Stripped

section Kinds

variable {cs ds : List Node}

/-- Whoever looks for a kind of node that is not one of comments never sees them. -/
theorem find?_kind_rel (h : Thinned IsLooseComment Stripped cs ds) (kind : String)
    (hkind : kind ≠ "line_comment" ∧ kind ≠ "block_comment") :
    Option.Rel Stripped (cs.find? fun c => c.kind == kind) (ds.find? fun c => c.kind == kind) := by
  refine h.find? (fun c d hc => ?_) (fun c hc => hc.kind_beq hkind)
  rw [hc.kind_eq]

theorem any_kind_eq (h : Thinned IsLooseComment Stripped cs ds) (kind : String)
    (hkind : kind ≠ "line_comment" ∧ kind ≠ "block_comment") :
    (cs.any fun c => c.kind == kind) = ds.any fun c => c.kind == kind := by
  refine h.any (fun c d hc => ?_) (fun c hc => hc.kind_beq hkind)
  rw [hc.kind_eq]

end Kinds

theorem text?_eq_of_rel {o p : Option Node} (h : Option.Rel Stripped o p) (bytes : Bytes) :
    text? bytes o = text? bytes p := by
  cases h with
  | none => rfl
  | some h => exact h.text_eq bytes

theorem Stripped.fieldText_eq {n m : Node} (h : Stripped n m) (bytes : Bytes) (field : String) :
    n.fieldText bytes field = m.fieldText bytes field :=
  text?_eq_of_rel (h.child? field) bytes

end Node

/-! ## Sites of stripped trees -/

/-- The node of a site and all nodes above it, stripped. -/
structure Site.Stripped (s t : Site) : Prop where
  node : Node.Stripped s.node t.node
  above : List.Forall₂ Node.Stripped s.above t.above

namespace Site

theorem Stripped.under {s t : Site} (h : Stripped s t) {c d : Node} (hc : Node.Stripped c d) :
    Stripped (s.under c) (t.under d) :=
  ⟨hc, .cons h.node h.above⟩

theorem sites_of_isLooseComment {c : Node} (h : c.IsLooseComment) (above : List Node) :
    c.sites above = [⟨c, above⟩] := by
  cases c with
  | mk l cs =>
    obtain rfl : cs = [] := h.leaf
    rw [Node.sites, Node.sitesAll]

/- The walk over a stripped tree leaves out the sites of the comments and nothing
else.  The recursion is on the first tree; what the relation says of its children is
what the list of their sites needs. -/
mutual
theorem thinned_sites {above above' : List Node} :
    ∀ {n m : Node}, Node.Stripped n m → List.Forall₂ Node.Stripped above above' →
      Thinned (fun s => s.node.IsLooseComment) Stripped (n.sites above) (m.sites above')
  | .mk l cs, .mk l' ds, h, habove => by
    obtain rfl : l = l' := h.label_eq
    rw [Node.sites, Node.sites]
    exact .keep ⟨h, habove⟩ (thinned_sitesAll h.children (.cons h habove))

theorem thinned_sitesAll {above above' : List Node} :
    ∀ {cs ds : List Node}, Thinned Node.IsLooseComment Node.Stripped cs ds →
      List.Forall₂ Node.Stripped above above' →
      Thinned (fun s => s.node.IsLooseComment) Stripped (Node.sitesAll above cs)
        (Node.sitesAll above' ds)
  | [], _, .nil, _ => by
    rw [Node.sitesAll, Node.sitesAll]
    exact .nil
  | c :: cs, d :: ds, .keep hc h, habove => by
    rw [Node.sitesAll, Node.sitesAll]
    exact (thinned_sites hc habove).append (thinned_sitesAll h habove)
  | c :: cs, ds, .drop hc h, habove => by
    rw [Node.sitesAll, sites_of_isLooseComment hc]
    exact .drop hc (thinned_sitesAll h habove)
end

end Site

theorem Node.Stripped.descendants {n m : Node} (h : Node.Stripped n m) :
    Thinned Node.IsLooseComment Node.Stripped n.descendants m.descendants := by
  rw [Node.descendants, Node.descendants, Site.walk_top, Site.walk_top]
  exact (Site.thinned_sites h .nil).map (fun _ _ hs => hs.node) (fun _ hs => hs)

end Syntax
end RoleNaming
