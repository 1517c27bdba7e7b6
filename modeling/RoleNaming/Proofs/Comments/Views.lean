/-
Comments and what the rules see.

The head of a file, its methods and its calls are read off children as well.  One
reading does change with a comment: the type of a parameter that takes a variable
number of arguments, when the comment stands in front of it.  But such a type ends in
dots and denotes no qualified name, and the rules ask for nothing else.
-/
import RoleNaming.Proofs.Comments.Scopes
import RoleNaming.Proofs.Denotation
import RoleNaming.Rule.Visit

namespace RoleNaming

open Syntax Syntax.Node

variable {bytes : Bytes} {n m : Node}

section Lists

variable {α β γ : Type} {R : α → β → Prop} {as : List α} {bs : List β}

theorem forall₂_map {γ' : Type} {S : γ → γ' → Prop} {f : α → γ} {g : β → γ'}
    (h : List.Forall₂ R as bs) (hR : ∀ a ∈ as, ∀ b, R a b → S (f a) (g b)) :
    List.Forall₂ S (as.map f) (bs.map g) := by
  induction h with
  | nil => exact .nil
  | cons hab _ ih =>
    refine .cons (hR _ List.mem_cons_self _ hab) (ih fun a ha b h => ?_)
    exact hR a (List.mem_cons_of_mem _ ha) b h

theorem isEmpty_eq_of_forall₂ (h : List.Forall₂ R as bs) : as.isEmpty = bs.isEmpty := by
  cases h with
  | nil => rfl
  | cons _ _ => rfl

theorem head?_rel (h : List.Forall₂ R as bs) : Option.Rel R as.head? bs.head? := by
  cases h with
  | nil => exact .none
  | cons hab _ => exact .some hab

theorem getLast?_rel (h : List.Forall₂ R as bs) : Option.Rel R as.getLast? bs.getLast? := by
  rw [List.getLast?_eq_head?_reverse, List.getLast?_eq_head?_reverse]
  exact head?_rel (List.rel_reverse h)

end Lists

/-! ## The head of a file -/

namespace Heading

theorem isTarget_eq (h : Stripped n m) : isTarget n = isTarget m := by
  rw [isTarget, isTarget, h.kind_eq]

theorem isTarget_of_isLooseComment (h : n.IsLooseComment) : isTarget n = false := by
  rw [isTarget, h.kind_beq (by decide), h.kind_beq (by decide)]
  rfl

theorem isStatic_stripped (h : Stripped n m) : isStatic n = isStatic m :=
  any_kind_eq h.children "static" (by decide)

theorem isOnDemand_stripped (h : Stripped n m) : isOnDemand n = isOnDemand m := by
  refine h.children.any (fun c d hc => ?_) (fun c hc => ?_)
  · rw [hc.kind_eq]
  · rw [hc.kind_beq (by decide), hc.kind_beq (by decide)]
    rfl

theorem ofImport_stripped (h : Stripped n m) : ofImport bytes n = ofImport bytes m := by
  unfold ofImport
  rw [isStatic_stripped h, isOnDemand_stripped h]
  have htarget := h.namedChildren.find? (fun _ _ hc => isTarget_eq hc)
    (fun _ hc => isTarget_of_isLooseComment hc)
  rcases cases_of_rel htarget with ⟨hs, ht⟩ | ⟨c, d, hs, ht, hcd⟩
  · rw [hs, ht]
  · rw [hs, ht]
    simp only [hcd.text_eq]

theorem ofNode_stripped (h : Stripped n m) : ofNode bytes n = ofNode bytes m := by
  have htargets := h.namedChildren.forall₂_filter (fun _ _ hc => isTarget_eq hc)
    (fun _ hc => isTarget_of_isLooseComment hc)
  have hnames : List.Forall₂ Eq
      ((n.namedChildren.filter isTarget).map fun c => package (Text.squeeze (c.text bytes)))
      ((m.namedChildren.filter isTarget).map fun c => package (Text.squeeze (c.text bytes))) := by
    refine forall₂_map htargets fun c _ d hcd => ?_
    rw [hcd.text_eq]
  rw [List.forall₂_eq_eq_eq] at hnames
  unfold ofNode
  rw [h.kind_eq, hnames, ofImport_stripped h]

theorem ofRoot_stripped (h : Stripped n m) : ofRoot bytes n = ofRoot bytes m := by
  refine h.children.flatMap (fun c d hc => ofNode_stripped hc) (fun c hc => ?_)
  rw [ofNode, if_neg (hc.kind_ne (by decide)), if_neg (hc.kind_ne (by decide))]

end Heading

namespace Visibility

theorem declaredType?_stripped (h : Stripped n m) :
    declaredType? bytes n = declaredType? bytes m := by
  unfold declaredType?
  rw [h.kind_eq, map_eq_of_rel (h.child? "name") fun c d hc => hc.text_eq bytes]

theorem declaredTypes_stripped (h : Stripped n m) :
    declaredTypes bytes n = declaredTypes bytes m := by
  have hnames : List.Forall₂ Eq (n.descendants.filterMap (declaredType? bytes))
      (m.descendants.filterMap (declaredType? bytes)) := by
    refine h.descendants.forall₂_filterMap (fun c d hc => ?_) (fun c hc => ?_)
    · rw [declaredType?_stripped hc]
      cases declaredType? bytes d with
      | none => exact .none
      | some name => exact .some rfl
    · rw [declaredType?, hc.child?_eq_none]
      exact ite_self _
  rw [List.forall₂_eq_eq_eq] at hnames
  rw [declaredTypes, declaredTypes, hnames]

theorem ofRoot_stripped (h : Stripped n m) : ofRoot bytes n = ofRoot bytes m := by
  rw [ofRoot, ofRoot, Heading.ofRoot_stripped h, declaredTypes_stripped h]

end Visibility

/-! ## Methods -/

namespace View

/-- Two parameters that no rule tells apart. -/
structure Parameter.Alike (contextType : String) (p q : Parameter) : Prop where
  name_eq : p.name = q.name
  denotes_eq : ∀ v : Visibility, v.denotes p.type contextType = v.denotes q.type contextType

structure Method.Alike (contextType : String) (m₁ m₂ : Method) : Prop where
  name_eq : m₁.name = m₂.name
  parameters : List.Forall₂ (Parameter.Alike contextType) m₁.parameters m₂.parameters
  isPrivate_eq : m₁.isPrivate = m₂.isPrivate

theorem hasModifier_stripped (h : Stripped n m) (modifier : String)
    (hmodifier : modifier ≠ "line_comment" ∧ modifier ≠ "block_comment") :
    hasModifier n modifier = hasModifier m modifier := by
  have hlist := find?_kind_rel h.children "modifiers" (by decide)
  unfold hasModifier
  rcases cases_of_rel hlist with ⟨hs, ht⟩ | ⟨ms, ms', hs, ht, hms⟩
  · rw [hs, ht]
  · rw [hs, ht]
    exact any_kind_eq hms.children modifier hmodifier

theorem spreadName?_stripped (h : Stripped n m) :
    Option.Rel Stripped (spreadName? n) (spreadName? m) := by
  have hdeclarator := find?_kind_rel h.namedChildren "variable_declarator" (by decide)
  unfold spreadName?
  rcases cases_of_rel hdeclarator with ⟨hs, ht⟩ | ⟨c, d, hs, ht, hcd⟩
  · rw [hs, ht]
    refine getLast?_rel (h.namedChildren.forall₂_filter (fun c d hc => ?_) fun c hc => ?_)
    · rw [hc.kind_eq]
    · exact hc.kind_beq (by decide)
  · rw [hs, ht]
    exact hcd.child? "name"

theorem Parameter.ofNode?_stripped {contextType : String}
    (hcontext : Text.IsQualified contextType.toList) (h : Stripped n m) :
    Option.Rel (Parameter.Alike contextType) (Parameter.ofNode? bytes n)
      (Parameter.ofNode? bytes m) := by
  unfold Parameter.ofNode? parameterParts?
  by_cases hformal : m.kind = "formal_parameter"
  · rw [if_pos (h.kind_eq.trans hformal), if_pos hformal, h.fieldText_eq,
      isSome_eq_of_rel (h.child? "dimensions")]
    rcases cases_of_rel (h.child? "name") with ⟨hs, ht⟩ | ⟨c, d, hs, ht, hcd⟩
    · rw [hs, ht]
      exact .none
    · rw [hs, ht]
      exact .some ⟨congrArg Text.lowercase (hcd.text_eq bytes), fun v => rfl⟩
  rw [if_neg fun hk => hformal (h.kind_eq.symm.trans hk), if_neg hformal]
  by_cases hspread : m.kind = "spread_parameter"
  · rw [if_pos (h.kind_eq.trans hspread), if_pos hspread]
    rcases cases_of_rel (spreadName?_stripped h) with ⟨hs, ht⟩ | ⟨c, d, hs, ht, hcd⟩
    · rw [hs, ht]
      exact .none
    · rw [hs, ht]
      -- the two types may differ here, and neither denotes anything
      refine .some ⟨congrArg Text.lowercase (hcd.text_eq bytes), fun v => ?_⟩
      exact (v.denotes_dots hcontext _).trans (v.denotes_dots hcontext _).symm
  · rw [if_neg fun hk => hspread (h.kind_eq.symm.trans hk), if_neg hspread]
    exact .none

theorem parametersOf_stripped {contextType : String}
    (hcontext : Text.IsQualified contextType.toList) {o p : Option Node}
    (h : Option.Rel Stripped o p) :
    List.Forall₂ (Parameter.Alike contextType) (parametersOf bytes o) (parametersOf bytes p) := by
  cases h with
  | none => exact .nil
  | some h =>
    refine h.namedChildren.forall₂_filterMap (fun c d hc => ?_) (fun c hc => ?_)
    · exact Parameter.ofNode?_stripped hcontext hc
    · rw [Parameter.ofNode?, parameterParts?, if_neg (hc.kind_ne (by decide)),
        if_neg (hc.kind_ne (by decide))]

theorem Method.ofNode?_stripped {contextType : String}
    (hcontext : Text.IsQualified contextType.toList) (h : Stripped n m) :
    Option.Rel (Method.Alike contextType) (Method.ofNode? bytes n) (Method.ofNode? bytes m) := by
  unfold Method.ofNode?
  rw [h.kind_eq]
  split
  · refine .some ⟨?_, parametersOf_stripped hcontext (h.child? "parameters"), ?_⟩
    · exact congrArg Text.lowercase (h.fieldText_eq bytes "name")
    · exact hasModifier_stripped h "private" (by decide)
  · exact .none

end View

namespace Rule

open View

theorem checkMethod_eq {contextType : String} {m₁ m₂ : Method}
    (h : Method.Alike contextType m₁ m₂) (v : Visibility) :
    checkMethod v contextType m₁ = checkMethod v contextType m₂ := by
  have hps := Thinned.of_forall₂ h.parameters
  have htaken : (m₁.parameters.any fun p => Text.mentions listenerWord p.name) =
      m₂.parameters.any fun p => Text.mentions listenerWord p.name :=
    hps.any (fun p q hpq => by rw [hpq.name_eq]) (fun p hp => hp.elim)
  have hcontext := hps.find? (p := fun p => Text.mentions contextWord p.name)
    (q := fun p => Text.mentions contextWord p.name) (fun p q hpq => by rw [hpq.name_eq])
    (fun p hp => hp.elim)
  unfold checkMethod checkListener checkContext
  rw [isEmpty_eq_of_forall₂ h.parameters, h.isPrivate_eq, htaken, h.name_eq]
  rcases cases_of_rel hcontext with ⟨hs, ht⟩ | ⟨p, q, hs, ht, hpq⟩
  · rw [hs, ht]
  · rw [hs, ht]
    simp only [hpq.denotes_eq]

end Rule

/-! ## Calls -/

namespace View

/-- Two arguments that no rule tells apart. -/
structure Argument.Alike (bytes : Bytes) (a b : Argument) : Prop where
  text_eq : a.text = b.text
  type_eq : Scope.exprType bytes a.site = Scope.exprType bytes b.site

structure Call.Alike (bytes : Bytes) (c₁ c₂ : Call) : Prop where
  name_eq : c₁.name = c₂.name
  arguments : List.Forall₂ (Argument.Alike bytes) c₁.arguments c₂.arguments

theorem calleeName?_stripped (h : Stripped n m) :
    Option.Rel Stripped (calleeName? n) (calleeName? m) := by
  unfold calleeName?
  rw [h.kind_eq]
  split
  · exact h.child? "name"
  split
  · exact h.child? "constructor"
  · exact .none

theorem argumentsOf_stripped {s t : Site} (h : Site.Stripped s t) (htidy : TidySite bytes s) :
    List.Forall₂ (Argument.Alike bytes) (argumentsOf bytes s) (argumentsOf bytes t) := by
  have hargs : List.Forall₂ Stripped
      (s.node.namedChildren.filter fun c => !Scope.isComment c)
      (t.node.namedChildren.filter fun c => !Scope.isComment c) := by
    refine h.node.namedChildren.forall₂_filter (fun c d hc => ?_) (fun c hc => ?_)
    · rw [Scope.isComment_eq hc]
    · rw [Scope.isComment_of_isLooseComment hc]
      rfl
  refine forall₂_map hargs fun c hc d hcd => ⟨?_, ?_⟩
  · exact congrArg Text.lowercase (hcd.text_eq bytes)
  · have hchild : c ∈ s.node.children := (List.mem_filter.1 (List.mem_filter.1 hc).1).1
    exact Scope.exprType_stripped (h.under hcd) (htidy.of_below (Site.Below.self.under hchild))

theorem Call.ofSite?_stripped {s t : Site} (h : Site.Stripped s t) (htidy : TidySite bytes s) :
    Option.Rel (Call.Alike bytes) (Call.ofSite? bytes s) (Call.ofSite? bytes t) := by
  unfold Call.ofSite?
  rw [h.node.kind_eq]
  split
  · refine .some ⟨?_, ?_⟩
    · refine map_eq_of_rel (calleeName?_stripped h.node) fun c d hc => ?_
      rw [hc.text_eq]
    · rcases cases_of_rel (h.node.child? "arguments") with ⟨hs, ht⟩ | ⟨c, d, hs, ht, hcd⟩
      · simp only [hs, ht]
        exact .nil
      · simp only [hs, ht]
        have hc : c ∈ s.node.children := List.mem_of_find?_eq_some hs
        exact argumentsOf_stripped (h.under hcd) (htidy.of_below (Site.Below.self.under hc))
  · exact .none

end View

namespace Rule

theorem checkCall_eq {c₁ c₂ : View.Call} (h : View.Call.Alike bytes c₁ c₂) (v : Visibility)
    (contextType : String) :
    checkCall bytes v contextType c₁ = checkCall bytes v contextType c₂ := by
  have hargs := Thinned.of_forall₂ h.arguments
  have htext : (c₁.arguments.any fun a => Text.mentions contextWord a.text) =
      c₂.arguments.any fun a => Text.mentions contextWord a.text :=
    hargs.any (fun a b hab => by rw [hab.text_eq]) (fun a ha => ha.elim)
  have htype : (c₁.arguments.any fun a => v.denotes? (Scope.exprType bytes a.site) contextType) =
      c₂.arguments.any fun a => v.denotes? (Scope.exprType bytes a.site) contextType :=
    hargs.any (fun a b hab => by rw [hab.type_eq]) (fun a ha => ha.elim)
  unfold checkCall checkArguments
  rw [h.name_eq, isEmpty_eq_of_forall₂ h.arguments, htext, htype]

/-! ## One visit -/

theorem findings_stripped {f : FileView} {contextType : String}
    (hcontext : Text.IsQualified contextType.toList) {s t : Site} (h : Site.Stripped s t)
    (htidy : TidySite f.bytes s) : findings f contextType s = findings f contextType t := by
  unfold findings
  rcases cases_of_rel (View.Method.ofNode?_stripped hcontext h.node) with
    ⟨hs, ht⟩ | ⟨m₁, m₂, hs, ht, hm⟩
  · rw [hs, ht]
    rcases cases_of_rel (View.Call.ofSite?_stripped h htidy) with
      ⟨hs', ht'⟩ | ⟨c, d, hs', ht', hcd⟩
    · rw [hs', ht']
    · rw [hs', ht']
      exact checkCall_eq hcd f.visibility contextType
  · rw [hs, ht]
    exact checkMethod_eq hm f.visibility

theorem visit_stripped {f : FileView} {contextType : String}
    (hcontext : Text.IsQualified contextType.toList) {s t : Site} (h : Site.Stripped s t)
    (htidy : TidySite f.bytes s) : visit f contextType s = visit f contextType t := by
  have hissue : Finding.issue s.node f.path = Finding.issue t.node f.path := by
    funext x
    rw [Finding.issue, Finding.issue, Issue.atNode, Issue.atNode, h.node.label_eq]
  rw [visit, visit, findings_stripped hcontext h htidy, hissue]

end Rule
end RoleNaming
