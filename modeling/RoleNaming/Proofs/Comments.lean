/-
Comments are inert.

`checkSource_stripped` is the theorem: a source and the same source without some of its
comments have one outcome, problems and log and count of visits alike.  The walk leaves out the
sites of the comments, where no rule looks, and at every other site the rules find the same.

Three modules lead up to it, each resting on the one before.  `Comments.Stripped` says what it
is to take comments out of a tree, `Comments.Scopes` that the types of expressions do not change
by it, and `Comments.Views` that what the rules see does not.
-/
import RoleNaming.Check.Source
import RoleNaming.Proofs.Comments.Views
import RoleNaming.Proofs.FaultIsolation

namespace RoleNaming

open Syntax Rule

theorem isVisited_of_isLooseComment {n : Node} (h : n.IsLooseComment) : isVisited n = false := by
  unfold isVisited
  rcases h.kind with hk | hk
  · rw [hk]
    decide
  · rw [hk]
    decide

/-- Every site of a tidy tree is tidy. -/
theorem tidySite_of_mem_sites {src : Source}
    (htidy : ∀ n : Node, n.Within src.root → TidyAt src.bytes n) {s : Site}
    (hs : s ∈ src.sites) : TidySite src.bytes s := by
  have htop : TidySite src.bytes (Site.top src.root) :=
    ⟨htidy, fun a ha => absurd ha List.not_mem_nil⟩
  exact htop.of_below (Source.mem_sites_iff.1 hs)

namespace Checker

/-- The visits of two walks of which the second leaves out comments.  The induction
is on the walks; a site that is left out costs no number, so the rest goes on with
the same one. -/
theorem visitAll_stripped (ck : Checker) (faulty : Nat → Bool) (f : FileView)
    (hcontext : Text.IsQualified ck.config.contextType.toList) {sites sites' : List Site}
    (h : Thinned (fun s => s.node.IsLooseComment) Site.Stripped sites sites')
    (htidy : ∀ s ∈ sites, TidySite f.bytes s) (k : Nat) :
    ck.visitAll faulty f k sites = ck.visitAll faulty f k sites' := by
  induction h generalizing k with
  | nil => rfl
  | @keep s t rest rest' hst _ ih =>
    have hrest := ih fun r hr => htidy r (List.mem_cons_of_mem s hr)
    have hvisit := visit_stripped hcontext hst (htidy s List.mem_cons_self)
    rw [visitAll, visitAll, report, report, hst.node.kind_eq, hst.node.label_eq, hvisit, hrest,
      hrest]
  | @drop s rest rest' hs _ ih =>
    have hnone : (Subject.ofKind? s.node.kind).isNone = true := by
      rw [isNone_ofKind?, isVisited_of_isLooseComment hs]
      rfl
    rw [visitAll, if_pos hnone]
    exact ih (fun r hr => htidy r (List.mem_cons_of_mem s hr)) k

theorem checkSource_stripped (ck : Checker)
    (hcontext : Text.IsQualified ck.config.contextType.toList) (faulty : Nat → Bool) (k : Nat)
    (src : Source) (htidy : ∀ n : Node, n.Within src.root → TidyAt src.bytes n) {root : Node}
    (h : Node.Stripped src.root root) (path : String) :
    ck.checkSource faulty k { src with root := root } path = ck.checkSource faulty k src path := by
  have hview : FileView.ofSource { src with root := root } path = FileView.ofSource src path := by
    rw [FileView.ofSource, FileView.ofSource, ← Visibility.ofRoot_stripped h]
  have hsites : Thinned (fun s => s.node.IsLooseComment) Site.Stripped src.sites
      (Source.sites { src with root := root }) := by
    rw [Source.sites, Source.sites, Site.walk_top, Site.walk_top]
    exact Site.thinned_sites h .nil
  have hvisits := ck.visitAll_stripped faulty (FileView.ofSource src path) hcontext hsites
    (fun s hs => tidySite_of_mem_sites htidy hs) k
  rw [checkSource, checkSource, hview, hvisits]

/-! ### A call behind a comment and with another

The method `void f(){android.content.Context c;/**/use(/**/c);}`.  Without the two
comments the argument of the call is still found to be a context. -/

namespace Passed

def bytes : Bytes := "void f(){android.content.Context c;/**/use(/**/c);}".toUTF8.toList

def comment (start : Nat) : Node := .onFirstLine "block_comment" none start (start + 4) []

def declaration : Node :=
  .onFirstLine "local_variable_declaration" none 9 35
    [.onFirstLine "scoped_type_identifier" "type" 9 32 [],
     .onFirstLine "variable_declarator" "declarator" 33 34
      [.onFirstLine "identifier" "name" 33 34 []]]

def call (comments : List Node) : Node :=
  .onFirstLine "method_invocation" none 39 49
    [.onFirstLine "identifier" "name" 39 42 [],
     .onFirstLine "argument_list" "arguments" 42 49
      (comments ++ [.onFirstLine "identifier" none 47 48 []])]

def root (outer inner : List Node) : Node :=
  .onFirstLine "program" none 0 51
    [.onFirstLine "method_declaration" none 0 51
      [.onFirstLine "identifier" "name" 5 6 [],
       .onFirstLine "formal_parameters" "parameters" 6 8 [],
       .onFirstLine "block" "body" 8 51
        (declaration :: outer ++ [.onFirstLine "expression_statement" none 39 50 [call inner]])]]

def source : Source := ⟨bytes, root [comment 35] [comment 43], false⟩

def checker : Checker := ⟨Config.default, rfl⟩

theorem stripped : Node.Stripped source.root (root [] []) := by
  have hcomment (start : Nat) : (comment start).IsLooseComment := ⟨rfl, rfl, Or.inr rfl⟩
  refine .mk (.keep (.mk ?_) .nil)
  refine .keep (.mk .nil) (.keep (.mk .nil) (.keep (.mk ?_) .nil))
  refine .keep (.mk (.keep (.mk .nil) (.keep (.mk (.keep (.mk .nil) .nil)) .nil))) ?_
  refine .drop (hcomment 35) (.keep (.mk (.keep (.mk ?_) .nil)) .nil)
  refine .keep (.mk .nil) (.keep (.mk ?_) .nil)
  exact .drop (hcomment 43) (.keep (.mk .nil) .nil)

theorem tidy (n : Node) (hn : n.Within source.root) : TidyAt source.bytes n := by
  have htidy : ∀ m ∈ source.root.descendants, TidyAt source.bytes m := by decide +kernel
  exact htidy n (Node.mem_descendants.2 hn)

theorem isQualified : Text.IsQualified checker.config.contextType.toList := by
  have handroid : Text.IsIdentifier "android".toList := by decide +kernel
  have hcontent : Text.IsIdentifier "content".toList := by decide +kernel
  have hsimple : Text.IsIdentifier "Context".toList := by decide +kernel
  exact .dot handroid (.dot hcontent (.simple hsimple))

end Passed

theorem checkSource_stripped_passed :
    (Text.IsQualified Passed.checker.config.contextType.toList ∧
      (∀ n : Node, n.Within Passed.source.root → TidyAt Passed.source.bytes n) ∧
      Node.Stripped Passed.source.root (Passed.root [] [])) ∧
      (Passed.checker.checkSource (fun _ => false) 0
        { Passed.source with root := Passed.root [] [] } "A.java").issues =
      [Finding.issue (Passed.call []) "A.java" (.contextTypePassed "android.content.Context")] := by
  refine ⟨⟨Passed.isQualified, Passed.tidy, Passed.stripped⟩, ?_⟩
  rw [checkSource_stripped Passed.checker Passed.isQualified _ _ _ Passed.tidy Passed.stripped]
  decide +kernel

end Checker
end RoleNaming
