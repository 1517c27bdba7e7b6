/-
Problems come out in source order.

`issues_inOrder` is the theorem: where the tree is laid out as parsers do it, every node
inside its parent and no two siblings over each other, the places of the problems that
come of checking a source never go back, whatever is enabled and whichever visits break
down.

What carries it is an invariant of the walk's stack.  The pending nodes lie one behind the
other, and taking the first of them off and putting its children in its place keeps them
so (`Site.inLine_children_append`).  The walk therefore comes by the nodes in the order of
their first bytes (`Site.walk_inOrder`), and a problem is placed where its node starts.
-/
import Mathlib.Data.List.Chain
import RoleNaming.Proofs.FaultIsolation

namespace RoleNaming

namespace Syntax

/-! ## Trees as parsers lay them out -/

/-- A node reaches over its children, and these lie one behind the other. -/
structure Node.NestedAt (n : Node) : Prop where
  start_le_stop : n.start ≤ n.stop
  inside : ∀ c ∈ n.children, n.start ≤ c.start ∧ c.stop ≤ n.stop
  apart : n.children.IsChain fun a b => a.stop ≤ b.start

instance (n : Node) : Decidable n.NestedAt :=
  decidable_of_iff
    (n.start ≤ n.stop ∧ (∀ c ∈ n.children, n.start ≤ c.start ∧ c.stop ≤ n.stop) ∧
      n.children.IsChain fun a b => a.stop ≤ b.start)
    ⟨fun ⟨hself, hinside, hapart⟩ => ⟨hself, hinside, hapart⟩,
      fun h => ⟨h.start_le_stop, h.inside, h.apart⟩⟩

/-- The first place is in an earlier line, or in the same line and not further right. -/
def Label.AtOrBefore (a b : Label) : Prop := a.row < b.row ∨ a.row = b.row ∧ a.col ≤ b.col

instance (a b : Label) : Decidable (a.AtOrBefore b) :=
  inferInstanceAs (Decidable (a.row < b.row ∨ a.row = b.row ∧ a.col ≤ b.col))

/-- A tree whose nodes are all nested and whose lines and columns follow the bytes. -/
structure Node.LaidOut (root : Node) : Prop where
  nested : ∀ n : Node, n.Within root → n.NestedAt
  places : ∀ m n : Node, m.Within root → n.Within root → m.start ≤ n.start →
    m.label.AtOrBefore n.label

/-- Siblings lie one behind the other even when others are between them. -/
theorem pairwise_of_isChain {cs : List Node} (hself : ∀ c ∈ cs, c.start ≤ c.stop)
    (h : cs.IsChain fun a b => a.stop ≤ b.start) :
    cs.Pairwise fun a b => a.stop ≤ b.start := by
  induction cs with
  | nil => exact .nil
  | cons a cs ih =>
    have hrest := ih (fun c hc => hself c (List.mem_cons_of_mem a hc)) h.tail
    refine List.pairwise_cons.2 ⟨?_, hrest⟩
    intro d hd
    cases cs with
    | nil => cases hd
    | cons b cs =>
      have hab : a.stop ≤ b.start := (List.isChain_cons_cons.1 h).1
      have hb := hself b (by simp)
      rcases List.mem_cons.1 hd with rfl | hd
      · exact hab
      · have hbd := (List.pairwise_cons.1 hrest).1 d hd
        omega

/-! ## The walk -/

namespace Site

/-- The stacked nodes lie one behind the other. -/
def InLine (stack : List Site) : Prop := stack.Pairwise fun s t => s.node.stop ≤ t.node.start

/-- Every node in and below the stack is nested. -/
def Nested (stack : List Site) : Prop :=
  ∀ s ∈ stack, ∀ n : Node, n.Within s.node → n.NestedAt

theorem mem_children {s t : Site} : t ∈ s.children ↔ ∃ c ∈ s.node.children, s.under c = t :=
  List.mem_map

theorem nested_children_append {s : Site} {stack : List Site} (h : Nested (s :: stack)) :
    Nested (s.children ++ stack) := by
  intro t ht n hn
  rcases List.mem_append.1 ht with ht | ht
  · obtain ⟨c, hc, rfl⟩ := mem_children.1 ht
    exact h s List.mem_cons_self n (.child hc hn)
  · exact h t (List.mem_cons_of_mem s ht) n hn

/-- A step of the walk: the children take the place of their parent. -/
theorem inLine_children_append {s : Site} {stack : List Site} (hnested : Nested (s :: stack))
    (h : InLine (s :: stack)) : InLine (s.children ++ stack) := by
  have hs := hnested s List.mem_cons_self s.node .self
  obtain ⟨hfirst, hrest⟩ := List.pairwise_cons.1 h
  refine List.pairwise_append.2 ⟨?_, hrest, ?_⟩
  · refine List.pairwise_map.2 (pairwise_of_isChain ?_ hs.apart)
    intro c hc
    exact (hnested s List.mem_cons_self c (.child hc .self)).start_le_stop
  · intro t ht r hr
    obtain ⟨c, hc, rfl⟩ := mem_children.1 ht
    exact Nat.le_trans (hs.inside c hc).2 (hfirst r hr)

/-- The walk never goes back before the first byte of what is on the stack. -/
theorem le_start_of_mem_walk {stack : List Site} (hnested : Nested stack) {k : Nat}
    (hk : ∀ s ∈ stack, k ≤ s.node.start) : ∀ t ∈ walk stack, k ≤ t.node.start := by
  fun_induction walk stack with
  | case1 => simp
  | case2 s stack ih =>
    intro t ht
    rcases List.mem_cons.1 ht with rfl | ht
    · exact hk t List.mem_cons_self
    · refine ih (nested_children_append hnested) ?_ t ht
      intro r hr
      rcases List.mem_append.1 hr with hr | hr
      · obtain ⟨c, hc, rfl⟩ := mem_children.1 hr
        have hs := hk s List.mem_cons_self
        have hc' := (hnested s List.mem_cons_self s.node .self).inside c hc
        exact Nat.le_trans hs hc'.1
      · exact hk r (List.mem_cons_of_mem s hr)

/-- The walk comes by the nodes in the order of their first bytes. -/
theorem walk_inOrder {stack : List Site} (hnested : Nested stack) (h : InLine stack) :
    (walk stack).Pairwise fun s t => s.node.start ≤ t.node.start := by
  fun_induction walk stack with
  | case1 => exact .nil
  | case2 s stack ih =>
    have hnested' := nested_children_append hnested
    refine List.pairwise_cons.2 ⟨?_, ih hnested' (inLine_children_append hnested h)⟩
    have hs := hnested s List.mem_cons_self s.node .self
    apply le_start_of_mem_walk hnested'
    intro t ht
    rcases List.mem_append.1 ht with ht | ht
    · obtain ⟨c, hc, rfl⟩ := mem_children.1 ht
      exact (hs.inside c hc).1
    · exact Nat.le_trans hs.start_le_stop ((List.pairwise_cons.1 h).1 t ht)

end Site

/-- So the places of the nodes never go back. -/
theorem Source.sites_inOrder {src : Source} (h : src.root.LaidOut) :
    src.sites.Pairwise fun s t => s.node.label.AtOrBefore t.node.label := by
  have hnested : Site.Nested [Site.top src.root] := by
    intro s hs
    obtain rfl := List.mem_singleton.1 hs
    exact h.nested
  have hwalk : src.sites.Pairwise fun s t => s.node.start ≤ t.node.start :=
    Site.walk_inOrder hnested (List.pairwise_singleton ..)
  have hwithin : ∀ s ∈ src.sites, s.node.Within src.root := fun s hs =>
    Node.within_of_below (Source.mem_sites_iff.1 hs)
  exact hwalk.imp_of_mem fun hs ht hle => h.places _ _ (hwithin _ hs) (hwithin _ ht) hle

end Syntax

open Syntax Rule

/-! ## Problems -/

/-- The first problem is in an earlier line, or in the same line and not further right. -/
def Issue.AtOrBefore (a b : Issue) : Prop := a.line < b.line ∨ a.line = b.line ∧ a.col ≤ b.col

/-- A problem is placed where its node starts. -/
theorem place_of_mem_foundAt {f : FileView} {contextType : String} {faulty : Nat → Bool}
    {p : Site × Option Nat} {i : Issue} (h : i ∈ foundAt f contextType faulty p) :
    i.line = p.1.node.label.row + 1 ∧ i.col = p.1.node.label.col + 1 := by
  unfold foundAt at h
  split at h
  · cases h
  · obtain ⟨x, -, rfl⟩ := List.mem_map.1 h
    exact ⟨rfl, rfl⟩

theorem atOrBefore_of_mem_foundAt {f : FileView} {contextType : String} {faulty : Nat → Bool}
    {p q : Site × Option Nat} (h : p.1.node.label.AtOrBefore q.1.node.label) {a b : Issue}
    (ha : a ∈ foundAt f contextType faulty p) (hb : b ∈ foundAt f contextType faulty q) :
    a.AtOrBefore b := by
  have ha' := place_of_mem_foundAt ha
  have hb' := place_of_mem_foundAt hb
  unfold Label.AtOrBefore at h
  unfold Issue.AtOrBefore
  omega

/-- Numbers are given to sites and leave them where they are. -/
theorem map_fst_numbered (k : Nat) (sites : List Site) :
    (numbered k sites).map Prod.fst = sites := by
  fun_induction numbered k sites with
  | case1 => rfl
  | case2 k s rest _ ih => rw [List.map_cons, ih]
  | case3 k s rest _ ih => rw [List.map_cons, ih]

namespace Checker

theorem issues_inOrder (ck : Checker) (faulty : Nat → Bool) (k : Nat) {src : Source}
    (h : src.root.LaidOut) (path : String) :
    (ck.checkSource faulty k src path).issues.Pairwise Issue.AtOrBefore := by
  have hsites := Source.sites_inOrder h
  rw [Source.sites, Site.walk_top, ← map_fst_numbered k (src.root.sites []),
    List.pairwise_map] at hsites
  rw [(ck.checkSource_isolated faulty k src path).1]
  apply List.Pairwise.filter
  rw [List.pairwise_flatMap]
  constructor
  · intro p _
    apply List.pairwise_of_forall_mem_list
    intro a ha b hb
    exact atOrBefore_of_mem_foundAt (Or.inr ⟨rfl, Nat.le_refl _⟩) ha hb
  · apply hsites.imp
    intro p q hpq a ha b hb
    exact atOrBefore_of_mem_foundAt hpq ha hb

/-! ### A call in an argument of a call

The source `use(context,` with ` use(context))` on the next line. -/

namespace Calls

def bytes : Bytes := "use(context,\n use(context))".toUTF8.toList

/-- A node that the grammar names.  The second line starts at byte 13. -/
def node (kind : String) (field : Option String) (start stop : Nat) (children : List Node) : Node :=
  .mk ⟨0, kind, true, field, start, stop, start / 13, start % 13⟩ children

def inner : Node :=
  node "method_invocation" none 14 26
    [node "identifier" "name" 14 17 [],
     node "argument_list" "arguments" 17 26 [node "identifier" none 18 25 []]]

def outer : Node :=
  node "method_invocation" none 0 27
    [node "identifier" "name" 0 3 [],
     node "argument_list" "arguments" 3 27 [node "identifier" none 4 11 [], inner]]

def source : Source := ⟨bytes, outer, false⟩

theorem valid : Config.default.validate = .ok () := rfl

def checker : Checker := ⟨Config.default, valid⟩

theorem laidOut : source.root.LaidOut := by
  have hnested : ∀ n ∈ source.root.descendants, n.NestedAt := by decide +kernel
  have hplaces : ∀ m ∈ source.root.descendants, ∀ n ∈ source.root.descendants,
      m.start ≤ n.start → m.label.AtOrBefore n.label := by decide +kernel
  constructor
  · intro n hn
    exact hnested n (Node.mem_descendants.2 hn)
  · intro m n hm hn
    exact hplaces m (Node.mem_descendants.2 hm) n (Node.mem_descendants.2 hn)

end Calls

theorem issues_inOrder_calls :
    Calls.source.root.LaidOut ∧
      (Calls.checker.checkSource (fun _ => false) 0 Calls.source "").issues =
        [Finding.issue Calls.outer "" .contextPassed, Finding.issue Calls.inner "" .contextPassed] ∧
      (Calls.checker.checkSource (fun _ => false) 0 Calls.source "").issues.Pairwise
        Issue.AtOrBefore :=
  ⟨Calls.laidOut, by decide +kernel, issues_inOrder Calls.checker _ 0 Calls.laidOut ""⟩

end Checker
end RoleNaming
