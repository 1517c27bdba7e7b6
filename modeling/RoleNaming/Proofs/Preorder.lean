/-
The walk is the preorder of the tree.

A node is known by its address, the numbers of the children to go to from the root down; two
nodes may look alike and still stand at different addresses.  `walk_preorder` is the theorem:
the loop over the stack is over after as many turns as the tree has nodes, it comes by every
address once, a parent before its children and these from left to right, and what it comes by
below an inner node is what it would come by starting there, all in one piece.

What carries the first part is an invariant of a turn: what has come out, followed by the
preorders of all that is stacked, is the preorder of the whole (`State.out_turn`).  The rest is
read off the addresses, which the preorder lists in lexicographic order.
-/
import Mathlib.Data.List.Nodup
import RoleNaming.Proofs.Tree

namespace RoleNaming
namespace Syntax

namespace Site

/-! ## The loop, turn by turn -/

/-- Where the walk stands: the sites it still has on the stack, the next one first, and what
has come out so far. -/
structure State where
  stack : List Site
  out : List Site

namespace State

def start (s : Site) : State := ⟨[s], []⟩

/-- One turn: the site on top comes out, and its children take its place. -/
def turn : State → State
  | ⟨[], out⟩ => ⟨[], out⟩
  | ⟨s :: stack, out⟩ => ⟨s.children ++ stack, out ++ [s]⟩

def turns (st : State) : Nat → State
  | 0 => st
  | k + 1 => st.turn.turns k

theorem out_turn (st : State) :
    st.turn.out ++ sitesOf st.turn.stack = st.out ++ sitesOf st.stack := by
  obtain ⟨stack, out⟩ := st
  cases stack with
  | nil => rfl
  | cons s stack =>
    show (out ++ [s]) ++ sitesOf (s.children ++ stack) = out ++ (s.node.sites s.above ++ _)
    rw [sitesOf_append, sites_eq, List.append_assoc]
    rfl

theorem pending_turn (st : State) : pending st.turn.stack = pending st.stack - 1 := by
  obtain ⟨stack, out⟩ := st
  cases stack with
  | nil => rfl
  | cons s stack =>
    have h := pending_children_append s stack
    show pending (s.children ++ stack) = pending (s :: stack) - 1
    omega

theorem out_turns (st : State) (k : Nat) :
    (st.turns k).out ++ sitesOf (st.turns k).stack = st.out ++ sitesOf st.stack := by
  induction k generalizing st with
  | zero => rfl
  | succ k ih => exact (ih st.turn).trans st.out_turn

theorem pending_turns (st : State) (k : Nat) :
    pending (st.turns k).stack = pending st.stack - k := by
  induction k generalizing st with
  | zero => rfl
  | succ k ih =>
    have h := ih st.turn
    rw [pending_turn] at h
    show pending (st.turn.turns k).stack = _
    omega

theorem pending_eq_zero_iff {stack : List Site} : pending stack = 0 ↔ stack = [] := by
  cases stack with
  | nil => exact iff_of_true rfl rfl
  | cons s stack =>
    have h := pending_children_append s stack
    exact iff_of_false (by omega) (List.cons_ne_nil _ _)

/-- The stack is empty as soon as every node has had its turn. -/
theorem stack_turns_eq_nil_iff (st : State) (k : Nat) :
    (st.turns k).stack = [] ↔ pending st.stack ≤ k := by
  rw [← pending_eq_zero_iff, pending_turns]
  omega

/-- What has come out by then is what the walk comes by. -/
theorem out_turns_of_le {k : Nat} {st : State} (h : pending st.stack ≤ k) :
    (st.turns k).out = st.out ++ walk st.stack := by
  have hout := st.out_turns k
  rw [(st.stack_turns_eq_nil_iff k).2 h, sitesOf, List.append_nil] at hout
  rw [hout, walk_eq_sitesOf]

end State

theorem pending_singleton (s : Site) : pending [s] = s.node.size := Nat.add_zero _

end Site

/-! ## Addresses -/

/-- The site at an address: the number of the child to go to, level by level. -/
def Site.at? (s : Site) : List Nat → Option Site
  | [] => some s
  | i :: address => s.children[i]?.bind fun c => c.at? address

/- The addresses of a tree in preorder, and those below some children of which the first has
the number `i`. -/
mutual
def Node.addresses : Node → List (List Nat)
  | .mk _ cs => [] :: Node.addressesFrom 0 cs

def Node.addressesFrom (i : Nat) : List Node → List (List Nat)
  | [] => []
  | c :: cs => (Node.addresses c).map (i :: ·) ++ Node.addressesFrom (i + 1) cs
end

namespace Node

theorem addresses_eq (n : Node) : n.addresses = [] :: addressesFrom 0 n.children := by
  cases n with
  | mk l cs =>
    rw [addresses]
    rfl

theorem mem_addressesFrom {i : Nat} {cs : List Node} {address : List Nat} :
    address ∈ addressesFrom i cs ↔
      ∃ j rest c, address = (i + j) :: rest ∧ cs[j]? = some c ∧ rest ∈ c.addresses := by
  induction cs generalizing i with
  | nil => simp [addressesFrom]
  | cons d cs ih =>
    rw [addressesFrom, List.mem_append, List.mem_map, ih]
    constructor
    · intro h
      rcases h with ⟨rest, hrest, rfl⟩ | ⟨j, rest, c, rfl, hc, hrest⟩
      · exact ⟨0, rest, d, rfl, rfl, hrest⟩
      · refine ⟨j + 1, rest, c, ?_, hc, hrest⟩
        rw [Nat.add_right_comm, Nat.add_assoc]
    · intro ⟨j, rest, c, haddress, hc, hrest⟩
      cases j with
      | zero =>
        obtain rfl : d = c := Option.some.inj hc
        exact Or.inl ⟨rest, hrest, haddress.symm⟩
      | succ j =>
        refine Or.inr ⟨j, rest, c, ?_, hc, hrest⟩
        rw [haddress, Nat.add_right_comm, Nat.add_assoc]

/- Addresses come in lexicographic order: the empty one before all others, and those that start
with one number before those that start with a greater one. -/
mutual
theorem increasing_addresses : ∀ n : Node, n.addresses.Pairwise (· < ·)
  | .mk l cs => by
    rw [addresses, List.pairwise_cons]
    refine ⟨?_, increasing_addressesFrom 0 cs⟩
    intro address h
    obtain ⟨j, rest, c, rfl, -, -⟩ := mem_addressesFrom.1 h
    exact List.nil_lt_cons _ _

theorem increasing_addressesFrom : ∀ (i : Nat) (cs : List Node),
    (addressesFrom i cs).Pairwise (· < ·)
  | i, [] => by
    rw [addressesFrom]
    exact .nil
  | i, c :: cs => by
    rw [addressesFrom, List.pairwise_append]
    refine ⟨?_, increasing_addressesFrom (i + 1) cs, ?_⟩
    · refine List.pairwise_map.2 ((increasing_addresses c).imp ?_)
      intro a b hab
      exact List.cons_lt_cons_iff.2 (Or.inr ⟨rfl, hab⟩)
    · intro a ha b hb
      obtain ⟨rest, -, rfl⟩ := List.mem_map.1 ha
      obtain ⟨j, rest', d, rfl, -, -⟩ := mem_addressesFrom.1 hb
      exact List.cons_lt_cons_iff.2 (Or.inl (by omega))
end

/-- The addresses below one child stand together, and no others start with its number. -/
theorem exists_addressesFrom_split {i j : Nat} {cs : List Node} {c : Node}
    (hc : cs[j]? = some c) :
    ∃ before after, addressesFrom i cs = before ++ c.addresses.map ((i + j) :: ·) ++ after ∧
      ∀ b ∈ before ++ after, b.head? ≠ some (i + j) := by
  induction cs generalizing i j with
  | nil => cases hc
  | cons d cs ih =>
    cases j with
    | zero =>
      obtain rfl : d = c := Option.some.inj hc
      refine ⟨[], addressesFrom (i + 1) cs, by rw [addressesFrom]; rfl, ?_⟩
      intro b hb
      obtain ⟨k, rest, e, rfl, -, -⟩ := mem_addressesFrom.1 hb
      intro hhead
      have hnumber : i + 1 + k = i + 0 := Option.some.inj hhead
      omega
    | succ j =>
      obtain ⟨before, after, hsplit, hother⟩ := ih (i := i + 1) (j := j) hc
      have hnumber : i + 1 + j = i + (j + 1) := by omega
      rw [hnumber] at hsplit hother
      refine ⟨d.addresses.map (i :: ·) ++ before, after, ?_, ?_⟩
      · rw [addressesFrom, hsplit]
        simp only [List.append_assoc]
      · intro b hb
        rw [List.append_assoc, List.mem_append] at hb
        rcases hb with hb | hb
        · obtain ⟨rest, -, rfl⟩ := List.mem_map.1 hb
          intro hhead
          have hfirst : i = i + (j + 1) := Option.some.inj hhead
          omega
        · exact hother b hb

end Node

namespace Site

theorem getElem?_children (s : Site) (i : Nat) :
    s.children[i]? = (s.node.children[i]?).map s.under :=
  List.getElem?_map ..

theorem at?_cons_eq_some_iff {s t : Site} {i : Nat} {address : List Nat} :
    s.at? (i :: address) = some t ↔
      ∃ c, s.node.children[i]? = some c ∧ (s.under c).at? address = some t := by
  rw [at?, getElem?_children]
  cases s.node.children[i]? with
  | none => simp
  | some c => simp

theorem at?_cons_of_getElem? {s : Site} {i : Nat} {c : Node}
    (hc : s.node.children[i]? = some c) (address : List Nat) :
    s.at? (i :: address) = (s.under c).at? address := by
  rw [at?, getElem?_children, hc]
  rfl

theorem at?_append {s t : Site} {address : List Nat} (h : s.at? address = some t)
    (rest : List Nat) : s.at? (address ++ rest) = t.at? rest := by
  induction address generalizing s with
  | nil =>
    obtain rfl : s = t := Option.some.inj h
    rfl
  | cons i address ih =>
    obtain ⟨c, hc, hat⟩ := at?_cons_eq_some_iff.1 h
    rw [List.cons_append, at?_cons_of_getElem? hc]
    exact ih hat

/-- A tree has the addresses that lead somewhere. -/
theorem mem_addresses_iff {s : Site} {address : List Nat} :
    address ∈ s.node.addresses ↔ ∃ t, s.at? address = some t := by
  induction address generalizing s with
  | nil =>
    rw [Node.addresses_eq]
    exact iff_of_true List.mem_cons_self ⟨s, rfl⟩
  | cons i address ih =>
    rw [Node.addresses_eq, List.mem_cons, Node.mem_addressesFrom]
    simp only [at?_cons_eq_some_iff, reduceCtorEq, false_or, List.cons.injEq, Nat.zero_add]
    constructor
    · intro ⟨j, rest, c, ⟨hi, haddress⟩, hc, hrest⟩
      subst hi haddress
      obtain ⟨t, ht⟩ := (ih (s := s.under c)).1 hrest
      exact ⟨t, c, hc, ht⟩
    · intro ⟨t, c, hc, ht⟩
      exact ⟨i, address, c, ⟨rfl, rfl⟩, hc, (ih (s := s.under c)).2 ⟨t, ht⟩⟩

/- The addresses lead to the sites of the preorder, one by one.  Below a site they are read from
the child with the number `i` on. -/
mutual
theorem map_at?_addresses (above : List Node) :
    ∀ n : Node, n.addresses.map (at? ⟨n, above⟩) = (n.sites above).map some
  | .mk l cs => by
    rw [Node.addresses, Node.sites, List.map_cons, List.map_cons]
    exact congrArg _ (map_at?_addressesFrom (s := ⟨.mk l cs, above⟩) 0 cs rfl)

theorem map_at?_addressesFrom {s : Site} : ∀ (i : Nat) (cs : List Node),
    s.node.children.drop i = cs →
      (Node.addressesFrom i cs).map s.at? =
        (Node.sitesAll (s.node :: s.above) cs).map some
  | i, [], _ => by
    rw [Node.addressesFrom, Node.sitesAll]
    rfl
  | i, c :: cs, hdrop => by
    have hc : s.node.children[i]? = some c := by
      rw [← List.head?_drop, hdrop]
      rfl
    have hrest : s.node.children.drop (i + 1) = cs := by
      rw [← List.tail_drop, hdrop]
      rfl
    rw [Node.addressesFrom, Node.sitesAll, List.map_append, List.map_append,
      map_at?_addressesFrom (i + 1) cs hrest, List.map_map,
      ← map_at?_addresses (s.node :: s.above) c]
    congr 1
    apply List.map_congr_left
    intro address _
    exact at?_cons_of_getElem? hc address
end

/-- The walk comes by the addresses in their order. -/
theorem map_at?_walk (s : Site) : s.node.addresses.map s.at? = (walk [s]).map some := by
  rw [walk_singleton]
  exact map_at?_addresses s.above s.node

/- The induction goes down the address: what its first number leads to stands together among the
addresses of the whole, and what the rest leads to among those. -/
theorem exists_addresses_split {s t : Site} {address : List Nat} (h : s.at? address = some t) :
    ∃ before after,
      s.node.addresses = before ++ t.node.addresses.map (address ++ ·) ++ after ∧
        ∀ b ∈ before ++ after, ¬address <+: b := by
  induction address generalizing s with
  | nil =>
    obtain rfl : s = t := Option.some.inj h
    refine ⟨[], [], ?_, List.forall_mem_nil _⟩
    simp
  | cons i address ih =>
    obtain ⟨c, hc, hat⟩ := at?_cons_eq_some_iff.1 h
    obtain ⟨before, after, hinner, hother⟩ := ih hat
    obtain ⟨first, last, houter, hchild⟩ := Node.exists_addressesFrom_split (i := 0) hc
    rw [Nat.zero_add] at houter hchild
    refine ⟨[] :: first ++ before.map (i :: ·), after.map (i :: ·) ++ last, ?_, ?_⟩
    · rw [Node.addresses_eq, houter, show c.addresses = _ from hinner]
      simp only [List.map_append, List.map_map, List.append_assoc, List.cons_append,
        Function.comp_def]
    · intro b hb hprefix
      obtain ⟨rest, rfl⟩ := hprefix
      simp only [List.cons_append, List.mem_append, List.mem_cons, List.mem_map,
        reduceCtorEq, false_or, List.cons.injEq, true_and, exists_eq_right] at hb
      have hin : ∀ b ∈ first ++ last, b ≠ i :: (address ++ rest) := by
        intro b hb heq
        exact hchild b hb (by rw [heq]; rfl)
      rcases hb with (hb | hb) | hb | hb
      · exact hin _ (List.mem_append_left _ hb) rfl
      · exact hother _ (List.mem_append_left _ hb) (List.prefix_append _ _)
      · exact hother _ (List.mem_append_right _ hb) (List.prefix_append _ _)
      · exact hin _ (List.mem_append_right _ hb) rfl

/-- Of two addresses of a tree the lesser one comes first. -/
theorem sublist_addresses {n : Node} {a b : List Nat} (ha : a ∈ n.addresses)
    (hb : b ∈ n.addresses) (hab : a < b) : [a, b].Sublist n.addresses := by
  have hincreasing := n.increasing_addresses
  obtain ⟨before, after, hsplit⟩ := List.append_of_mem ha
  rw [hsplit] at hincreasing hb ⊢
  obtain ⟨-, hafter, hbefore⟩ := List.pairwise_append.1 hincreasing
  have hmem : b ∈ after := by
    rcases List.mem_append.1 hb with hb | hb
    · exact absurd (hbefore b hb a List.mem_cons_self) (List.lt_asymm hab)
    · rcases List.mem_cons.1 hb with hb | hb
      · exact absurd (hb ▸ hab) (List.lt_irrefl a)
      · exact hb
  exact ((List.singleton_sublist.2 hmem).cons_cons a).trans (List.sublist_append_right _ _)

theorem exists_at?_of_append {s : Site} {address rest : List Nat} {t : Site}
    (h : s.at? (address ++ rest) = some t) : ∃ r, s.at? address = some r := by
  induction address generalizing s with
  | nil => exact ⟨s, rfl⟩
  | cons i address ih =>
    obtain ⟨c, hc, hat⟩ := at?_cons_eq_some_iff.1 h
    obtain ⟨r, hr⟩ := ih hat
    exact ⟨r, at?_cons_eq_some_iff.2 ⟨c, hc, hr⟩⟩

/- The nodes of a tree in preorder are the same wherever the tree stands. -/
mutual
theorem map_node_sites (above above' : List Node) :
    ∀ n : Node, (n.sites above).map node = (n.sites above').map node
  | .mk l cs => by
    rw [Node.sites, Node.sites, List.map_cons, List.map_cons]
    exact congrArg _ (map_node_sitesAll _ _ cs)

theorem map_node_sitesAll (above above' : List Node) :
    ∀ cs : List Node, (Node.sitesAll above cs).map node = (Node.sitesAll above' cs).map node
  | [] => by
    rw [Node.sitesAll, Node.sitesAll]
  | c :: cs => by
    rw [Node.sitesAll, Node.sitesAll, List.map_append, List.map_append,
      map_node_sites above above' c, map_node_sitesAll above above' cs]
end

theorem map_node_walk (s : Site) : (walk [s]).map node = s.node.descendants := by
  rw [walk_singleton, Node.descendants, walk_top]
  exact map_node_sites _ _ _

/-! ## The walk -/

/-- `out` comes by the sites at `addresses`, and these are the addresses of the tree, every one
once.  A parent stands before its children, and a child before its next sibling. -/
structure Covers (s : Site) (addresses : List (List Nat)) (out : List Site) : Prop where
  sites : addresses.map s.at? = out.map some
  mem_iff : ∀ a, a ∈ addresses ↔ ∃ t, s.at? a = some t
  once : addresses.Nodup
  parentFirst : ∀ a i t, s.at? (a ++ [i]) = some t → [a, a ++ [i]].Sublist addresses
  siblingsInOrder : ∀ a i t, s.at? (a ++ [i + 1]) = some t →
    [a ++ [i], a ++ [i + 1]].Sublist addresses

/-- The walk from `s` comes by the site `t` at an address and by all below it in one piece,
which is the walk from `t`.  Nothing before or behind the piece stands at or below the
address. -/
def HoldsSegment (s : Site) (address : List Nat) (t : Site) : Prop :=
  ∃ before after,
    s.node.addresses = before ++ t.node.addresses.map (address ++ ·) ++ after ∧
    (∀ b ∈ before ++ after, ¬address <+: b) ∧
    ∃ front back, walk [s] = front ++ walk [t] ++ back ∧
      front.map some = before.map s.at? ∧ back.map some = after.map s.at?

theorem at?_of_prior_sibling {s t : Site} {a : List Nat} {i : Nat}
    (h : s.at? (a ++ [i + 1]) = some t) : ∃ r, s.at? (a ++ [i]) = some r := by
  obtain ⟨parent, hparent⟩ := exists_at?_of_append h
  rw [at?_append hparent] at h ⊢
  obtain ⟨c, hc, -⟩ := at?_cons_eq_some_iff.1 h
  obtain ⟨hlt, -⟩ := List.getElem?_eq_some_iff.1 hc
  have hprior : parent.node.children[i]? = some (parent.node.children[i]) :=
    List.getElem?_eq_getElem _
  exact ⟨_, at?_cons_of_getElem? hprior []⟩

theorem covers_walk (s : Site) : Covers s s.node.addresses (walk [s]) where
  sites := map_at?_walk s
  mem_iff := fun _ => mem_addresses_iff
  once := s.node.increasing_addresses.nodup
  parentFirst := by
    intro a i t h
    have hparent := mem_addresses_iff.2 (exists_at?_of_append h)
    have hlt : a ++ [] < a ++ [i] := List.append_left_lt (List.nil_lt_cons i [])
    rw [List.append_nil] at hlt
    exact sublist_addresses hparent (mem_addresses_iff.2 ⟨t, h⟩) hlt
  siblingsInOrder := by
    intro a i t h
    have hprior := mem_addresses_iff.2 (at?_of_prior_sibling h)
    have hlt : a ++ [i] < a ++ [i + 1] :=
      List.append_left_lt (List.cons_lt_cons_iff.2 (Or.inl (Nat.lt_succ_self i)))
    exact sublist_addresses hprior (mem_addresses_iff.2 ⟨t, h⟩) hlt

theorem holdsSegment_of_at? {s t : Site} {address : List Nat} (h : s.at? address = some t) :
    HoldsSegment s address t := by
  obtain ⟨before, after, hsplit, hother⟩ := exists_addresses_split h
  refine ⟨before, after, hsplit, hother, ?_⟩
  have hinner : (t.node.addresses.map (address ++ ·)).map s.at? = (walk [t]).map some := by
    rw [← map_at?_walk, List.map_map]
    exact List.map_congr_left fun rest _ => at?_append h rest
  have hwalk := map_at?_walk s
  rw [hsplit, List.map_append, List.map_append, hinner] at hwalk
  obtain ⟨piece, back, hpiece, hfront, hback⟩ := List.map_eq_append_iff.1 hwalk.symm
  obtain ⟨front, middle, hmiddle, hbefore, hsame⟩ := List.map_eq_append_iff.1 hfront
  obtain rfl : middle = walk [t] :=
    (List.map_inj_right fun _ _ => Option.some.inj).1 hsame
  exact ⟨front, back, by rw [hpiece, hmiddle], hbefore, hback⟩

/-- The walk from a site ends, after as many turns as there are nodes and not before.  It is the
preorder of the tree, read off its recursive definition, and the same nodes come out wherever
the tree stands.  It comes by every address once, a parent before its children and a child
before its next sibling, and the walk from any site below is a piece of it. -/
theorem walk_preorder (s : Site) :
    (∀ k, ((State.start s).turns k).stack = [] ↔ s.node.size ≤ k) ∧
      ((State.start s).turns s.node.size).out = walk [s] ∧
      walk [s] = s.node.sites s.above ∧
      (walk [s]).map node = s.node.descendants ∧
      Covers s s.node.addresses (walk [s]) ∧
      ∀ address t, s.at? address = some t → HoldsSegment s address t := by
  have hpending : pending (State.start s).stack = s.node.size := pending_singleton s
  refine ⟨?_, ?_, walk_singleton s, map_node_walk s, covers_walk s, ?_⟩
  · intro k
    rw [State.stack_turns_eq_nil_iff, hpending]
  · exact State.out_turns_of_le (Nat.le_of_eq hpending)
  · intro address t h
    exact holdsSegment_of_at? h

/-! ### Nodes that look alike

A root with three children: two leaves that are the same in every respect, and between them a
node with such a leaf below it. -/

namespace Twins

def leaf : Node := .onFirstLine "identifier" none 0 1 []

def inner : Node := .onFirstLine "block" none 0 1 [leaf]

def root : Site := top (.onFirstLine "block" none 0 1 [leaf, inner, leaf])

def inside : Site := root.under inner

end Twins

theorem walk_preorder_twins :
    (Twins.root.at? [1] = some Twins.inside ∧ Twins.root.at? [2] = Twins.root.at? [0]) ∧
      ((State.start Twins.root).turns 4).stack ≠ [] ∧
      ((State.start Twins.root).turns 5).stack = [] ∧
      [[0], [1]].Sublist Twins.root.node.addresses ∧
      Twins.root.node.addresses.Nodup ∧
      ∃ front back, walk [Twins.root] = front ++ walk [Twins.inside] ++ back := by
  obtain ⟨hends, -, -, -, hcovers, hsegment⟩ := walk_preorder Twins.root
  have hinside : Twins.root.at? [1] = some Twins.inside := rfl
  obtain ⟨-, -, -, -, front, back, hwalk, -, -⟩ := hsegment [1] Twins.inside hinside
  refine ⟨⟨hinside, rfl⟩, ?_, (hends 5).2 (by decide +kernel),
    hcovers.siblingsInOrder [] 0 Twins.inside hinside, hcovers.once, front, back, hwalk⟩
  intro hover
  exact absurd ((hends 4).1 hover) (by decide +kernel)

end Site
end Syntax
end RoleNaming
