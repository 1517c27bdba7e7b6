/-
Trees taken apart.

A place in a tree is given by the node there and the frames around it, each a node with one
child missing.  A change beside the place is then a change in one frame, and everything else
is the same by construction.  `Source.mem_sites_iff_frames` says that frames give exactly the
places that the walk over a file comes by.
-/
import RoleNaming.Proofs.Tree

namespace RoleNaming
namespace Syntax

/-- A node without one of its children: its label, and the children on the two sides of the
gap. -/
structure Frame where
  label : Label
  before : List Node
  after : List Node

namespace Frame

def fill (f : Frame) (n : Node) : Node := .mk f.label (f.before ++ n :: f.after)

/-- Whether a child with the label `l` in the gap is the one that the field names.  Of
several children in one field it is the first. -/
def IsField (f : Frame) (l : Label) (field : String) : Prop :=
  l.field = some field ∧ ∀ c ∈ f.before, c.label.field ≠ some field

/-- A child beside the gap has other nodes below it. -/
inductive Regrown (s : Node) (grown : List Node) : Frame → Frame → Prop where
  | before {l : Label} {a b after : List Node} :
      Regrown s grown ⟨l, a ++ s :: b, after⟩ ⟨l, a ++ .mk s.label grown :: b, after⟩
  | after {l : Label} {before a b : List Node} :
      Regrown s grown ⟨l, before, a ++ s :: b⟩ ⟨l, before, a ++ .mk s.label grown :: b⟩

/-- With the gap filled, the two trees differ in the child beside it and in nothing else. -/
theorem Regrown.exists_frame {s : Node} {grown : List Node} {f f' : Frame}
    (h : Regrown s grown f f') (n : Node) :
    ∃ g : Frame, g.label = f.label ∧ f.fill n = g.fill s ∧
      f'.fill n = g.fill (.mk s.label grown) := by
  cases h with
  | @before l a b after => exact ⟨⟨l, a, b ++ n :: after⟩, rfl, by simp [fill], by simp [fill]⟩
  | @after l before a b => exact ⟨⟨l, before ++ n :: a, b⟩, rfl, by simp [fill], by simp [fill]⟩

theorem children_fill (f : Frame) (n : Node) : (f.fill n).children = f.before ++ n :: f.after := rfl

theorem kind_fill (f : Frame) (n : Node) : (f.fill n).kind = f.label.kind := rfl

theorem namedChildren_fill (f : Frame) (n : Node) :
    (f.fill n).namedChildren = f.before.filter Node.named ++
      ((if n.named then [n] else []) ++ f.after.filter Node.named) := by
  rw [Node.namedChildren, children_fill, List.filter_append, List.filter_cons]
  split <;> rfl

end Frame

/-- The nodes above a node inside frames, the nearest first. -/
def Node.around : Node → List Frame → List Node
  | _, [] => []
  | n, f :: fs => f.fill n :: around (f.fill n) fs

/-- The whole tree: the node with all frames closed around it. -/
def Node.enclose : Node → List Frame → Node
  | n, [] => n
  | n, f :: fs => enclose (f.fill n) fs

/-- The place of a node inside frames. -/
def Node.siteIn (n : Node) (fs : List Frame) : Site := ⟨n, n.around fs⟩

namespace Node

theorem around_append (n : Node) (fs gs : List Frame) :
    n.around (fs ++ gs) = n.around fs ++ (n.enclose fs).around gs := by
  induction fs generalizing n with
  | nil => rfl
  | cons f fs ih => exact congrArg _ (ih (f.fill n))

theorem below_siteIn (n : Node) (fs : List Frame) :
    Site.Below (.top (n.enclose fs)) (n.siteIn fs) := by
  induction fs generalizing n with
  | nil => exact .self
  | cons f fs ih =>
    have hchild : n ∈ (f.fill n).children := by
      rw [Frame.children_fill]
      exact List.mem_append_right _ List.mem_cons_self
    exact (ih (f.fill n)).under hchild

/-- A node is a child of its own with the frame of the other children around it. -/
theorem exists_frame_of_mem_children {n c : Node} (h : c ∈ n.children) :
    ∃ f : Frame, f.fill c = n := by
  obtain ⟨a, b, hab⟩ := List.append_of_mem h
  cases n with
  | mk l cs =>
    obtain rfl : cs = a ++ c :: b := hab
    exact ⟨⟨l, a, b⟩, rfl⟩

theorem exists_frames_of_below {root : Node} {s : Site} (h : Site.Below (.top root) s) :
    ∃ fs, root = s.node.enclose fs ∧ s = s.node.siteIn fs := by
  induction h with
  | self => exact ⟨[], rfl, rfl⟩
  | @under s c _ hc ih =>
    obtain ⟨fs, hroot, hsite⟩ := ih
    obtain ⟨f, hfill⟩ := exists_frame_of_mem_children hc
    refine ⟨f :: fs, ?_, ?_⟩
    · show root = enclose (f.fill c) fs
      rw [hfill]
      exact hroot
    · have habove : s.above = s.node.around fs := congrArg Site.above hsite
      show (⟨c, s.node :: s.above⟩ : Site) = ⟨c, f.fill c :: (f.fill c).around fs⟩
      rw [hfill, habove]

end Node

/-- The places of a file are those of the nodes that frames enclose to its tree. -/
theorem Source.mem_sites_iff_frames {src : Source} {s : Site} :
    s ∈ src.sites ↔ ∃ fs, src.root = s.node.enclose fs ∧ s = s.node.siteIn fs := by
  rw [mem_sites_iff]
  constructor
  · exact Node.exists_frames_of_below
  · rintro ⟨fs, hroot, hsite⟩
    rw [hroot, hsite]
    exact Node.below_siteIn s.node fs

end Syntax
end RoleNaming
