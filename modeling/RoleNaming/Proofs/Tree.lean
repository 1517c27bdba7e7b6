/-
The places of a tree.

The walk lists sites; the statements about trees speak of nodes at any depth and
of the way from the root down to a node.  `mem_sites_iff` and `mem_descendants`
say that the walk comes by exactly these, and `descends_of_below` reads the nodes
above a site as the way to it.
-/
import RoleNaming.Syntax.Source

namespace RoleNaming
namespace Syntax

/-- `m` is the node `n` or stands below it, at any depth. -/
inductive Node.Within (m : Node) : Node → Prop where
  | self : Within m m
  | child {n c : Node} (hc : c ∈ n.children) (h : Within m c) : Within m n

/-- A way down from `n` to `m`: the nodes passed on it, `n` first and the parent of
`m` last. -/
def Node.Descends : Node → List Node → Node → Prop
  | n, [], m => n = m
  | n, a :: rest, m => n = a ∧ ∃ c ∈ n.children, Descends c rest m

namespace Site

/-- The site `s` is `t` itself or is reached from it by going to children. -/
inductive Below (t : Site) : Site → Prop where
  | self : Below t t
  | under {s : Site} {c : Node} (h : Below t s) (hc : c ∈ s.node.children) : Below t (s.under c)

theorem Below.trans {t s r : Site} (hts : Below t s) (hsr : Below s r) : Below t r := by
  induction hsr with
  | self => exact hts
  | under _ hc ih => exact ih.under hc

theorem Below.of_child {t s : Site} {c : Node} (hc : c ∈ t.node.children)
    (h : Below (t.under c) s) : Below t s :=
  (Below.self.under hc).trans h

/-- Going down adds nodes above and takes none away. -/
theorem Below.exists_above {t s : Site} (h : Below t s) : ∃ inner, s.above = inner ++ t.above := by
  induction h with
  | self => exact ⟨[], rfl⟩
  | @under s c _ _ ih =>
    obtain ⟨inner, habove⟩ := ih
    exact ⟨s.node :: inner, congrArg (s.node :: ·) habove⟩

/-! ## The sites of a tree -/

/- Both lists of sites are read at once, the list of a node and the one of its
children, since each is defined through the other. -/
mutual
theorem below_of_mem_sites {above : List Node} {s : Site} :
    ∀ {n : Node}, s ∈ n.sites above → Below ⟨n, above⟩ s
  | .mk l cs, h => by
    rw [Node.sites, List.mem_cons] at h
    rcases h with rfl | h
    · exact .self
    · obtain ⟨c, hc, hs⟩ := below_of_mem_sitesAll h
      exact Below.of_child (t := ⟨.mk l cs, above⟩) hc hs

theorem below_of_mem_sitesAll {above : List Node} {s : Site} :
    ∀ {cs : List Node}, s ∈ Node.sitesAll above cs → ∃ c ∈ cs, Below ⟨c, above⟩ s
  | [], h => by
    rw [Node.sitesAll] at h
    exact absurd h List.not_mem_nil
  | c :: cs, h => by
    rw [Node.sitesAll, List.mem_append] at h
    rcases h with h | h
    · exact ⟨c, List.mem_cons_self, below_of_mem_sites h⟩
    · obtain ⟨d, hd, hs⟩ := below_of_mem_sitesAll h
      exact ⟨d, List.mem_cons_of_mem c hd, hs⟩
end

theorem self_mem_sites (n : Node) (above : List Node) : (⟨n, above⟩ : Site) ∈ n.sites above := by
  cases n with
  | mk l cs =>
    rw [Node.sites]
    exact List.mem_cons_self

theorem mem_sitesAll {above cs : List Node} {s : Site} :
    s ∈ Node.sitesAll above cs ↔ ∃ c ∈ cs, s ∈ c.sites above := by
  induction cs with
  | nil => simp [Node.sitesAll]
  | cons c cs ih => simp [Node.sitesAll, ih]

theorem mem_sites_child {n c : Node} {above : List Node} {s : Site} (hc : c ∈ n.children)
    (hs : s ∈ c.sites (n :: above)) : s ∈ n.sites above := by
  cases n with
  | mk l cs =>
    rw [Node.sites]
    exact List.mem_cons_of_mem _ (mem_sitesAll.2 ⟨c, hc, hs⟩)

/- With a site its children are listed, too.  The recursion goes down to the
site; there the children are the next in the list. -/
mutual
theorem under_mem_sites {above : List Node} {s : Site} {c : Node} (hc : c ∈ s.node.children) :
    ∀ {n : Node}, s ∈ n.sites above → s.under c ∈ n.sites above
  | .mk l cs, h => by
    rw [Node.sites, List.mem_cons] at h
    rcases h with rfl | h
    · exact mem_sites_child (n := .mk l cs) hc (self_mem_sites c _)
    · rw [Node.sites]
      exact List.mem_cons_of_mem _ (under_mem_sitesAll hc h)

theorem under_mem_sitesAll {above : List Node} {s : Site} {c : Node} (hc : c ∈ s.node.children) :
    ∀ {cs : List Node}, s ∈ Node.sitesAll above cs → s.under c ∈ Node.sitesAll above cs
  | [], h => by
    rw [Node.sitesAll] at h
    exact absurd h List.not_mem_nil
  | d :: cs, h => by
    rw [Node.sitesAll, List.mem_append] at h
    rw [Node.sitesAll, List.mem_append]
    rcases h with h | h
    · exact Or.inl (under_mem_sites hc h)
    · exact Or.inr (under_mem_sitesAll hc h)
end

theorem mem_sites_iff_below {n : Node} {above : List Node} {s : Site} :
    s ∈ n.sites above ↔ Below ⟨n, above⟩ s := by
  constructor
  · exact below_of_mem_sites
  · intro h
    induction h with
    | self => exact self_mem_sites n above
    | under _ hc ih => exact under_mem_sites hc ih

/-- The walk over one tree is its preorder. -/
theorem walk_singleton (s : Site) : walk [s] = s.node.sites s.above := by
  rw [walk_eq_sitesOf]
  exact List.append_nil _

theorem walk_top (n : Node) : walk [top n] = n.sites [] := walk_singleton (top n)

/-! ## The way to a site -/

theorem descends_snoc {n m c : Node} {way : List Node} (h : n.Descends way m)
    (hc : c ∈ m.children) : n.Descends (way ++ [m]) c := by
  induction way generalizing n with
  | nil =>
    obtain rfl : n = m := h
    exact ⟨rfl, c, hc, rfl⟩
  | cons a rest ih =>
    obtain ⟨rfl, d, hd, hrest⟩ := h
    exact ⟨rfl, d, hd, ih hrest⟩

/-- The nodes above a site of a tree, turned round, are the way to it from the
root. -/
theorem descends_of_below {root : Node} {s : Site} (h : Below (top root) s) :
    root.Descends s.above.reverse s.node := by
  induction h with
  | self => rfl
  | @under s c _ hc ih =>
    show root.Descends (s.node :: s.above).reverse c
    rw [List.reverse_cons]
    exact descends_snoc ih hc

end Site

/-- The sites of a file are those reached from its root. -/
theorem Source.mem_sites_iff {src : Source} {s : Site} :
    s ∈ src.sites ↔ Site.Below (Site.top src.root) s := by
  rw [Source.sites, Site.walk_top]
  exact Site.mem_sites_iff_below

/-! ## Nodes at any depth -/

namespace Node

theorem Within.trans {m n k : Node} (hmn : Within m n) (hnk : Within n k) : Within m k := by
  induction hnk with
  | self => exact hmn
  | child hc _ ih => exact .child hc ih

theorem within_of_below {t s : Site} (h : Site.Below t s) : Within s.node t.node := by
  induction h with
  | self => exact .self
  | under _ hc ih => exact (Within.child hc .self).trans ih

theorem exists_below_of_within {m n : Node} (h : Within m n) (above : List Node) :
    ∃ s : Site, Site.Below ⟨n, above⟩ s ∧ s.node = m := by
  induction h generalizing above with
  | self => exact ⟨⟨m, above⟩, .self, rfl⟩
  | @child n c hc _ ih =>
    obtain ⟨s, hs, hm⟩ := ih (n :: above)
    exact ⟨s, Site.Below.of_child (t := ⟨n, above⟩) hc hs, hm⟩

/-- The walk comes by the nodes of a tree at every depth, and by no others. -/
theorem mem_descendants {m n : Node} : m ∈ n.descendants ↔ Within m n := by
  rw [descendants, Site.walk_top, List.mem_map]
  constructor
  · rintro ⟨s, hs, rfl⟩
    exact within_of_below (Site.mem_sites_iff_below.1 hs)
  · intro h
    obtain ⟨s, hs, hm⟩ := exists_below_of_within h []
    exact ⟨s, Site.mem_sites_iff_below.2 hs, hm⟩

/-- A node of the first line that the grammar names, for trees written out in
full. -/
def onFirstLine (kind : String) (field : Option String) (start stop : Nat)
    (children : List Node) : Node :=
  .mk ⟨0, kind, true, field, start, stop, 0, start⟩ children

end Node

end Syntax
end RoleNaming
