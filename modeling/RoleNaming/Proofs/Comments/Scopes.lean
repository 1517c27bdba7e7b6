/-
Comments and the types of expressions.

Every look-up walks over children, and each passes over comments in its own way: most
by the kind of node they ask for, the block because its statements are in order, the
resources because a comment has no name.  The last two are what `TidyAt` asks of a
tree.  `exprType_stripped` puts the look-ups together.
-/
import RoleNaming.Proofs.Comments.Stripped
import RoleNaming.Scope.ExprType

namespace RoleNaming

open Syntax Syntax.Node

/-- The text of a name is not empty, and the statements of a block are in the order of
their starts. -/
structure TidyAt (bytes : Bytes) (n : Node) : Prop where
  named : n.kind = "identifier" → n.text bytes ≠ ""
  ordered : n.kind ∈ ["block", "constructor_body", "switch_block_statement_group"] →
    n.namedChildren.Pairwise fun c d => c.start ≤ d.start

instance (bytes : Bytes) (n : Node) : Decidable (TidyAt bytes n) :=
  decidable_of_iff
    ((n.kind = "identifier" → n.text bytes ≠ "") ∧
      (n.kind ∈ ["block", "constructor_body", "switch_block_statement_group"] →
        n.namedChildren.Pairwise fun c d => c.start ≤ d.start))
    ⟨fun h => ⟨h.1, h.2⟩, fun h => ⟨h.named, h.ordered⟩⟩

/-- All nodes above a site and below it are tidy. -/
structure TidySite (bytes : Bytes) (s : Site) : Prop where
  within : ∀ n : Node, n.Within s.node → TidyAt bytes n
  above : ∀ a ∈ s.above, TidyAt bytes a

theorem TidySite.of_below {bytes : Bytes} {s t : Site} (htidy : TidySite bytes s)
    (h : Site.Below s t) : TidySite bytes t := by
  induction h with
  | self => exact htidy
  | @under t c _ hc ih =>
    constructor
    · intro n hn
      exact ih.within n (hn.trans (.child hc .self))
    · intro a ha
      rcases List.mem_cons.1 ha with rfl | ha
      · exact ih.within _ .self
      · exact ih.above a ha

namespace Scope

variable {bytes : Bytes} {n m : Node}

/-! ## One scope -/

theorem writtenType_eq_of_rel {o p : Option Node} (h : Option.Rel Stripped o p) :
    writtenType bytes o = writtenType bytes p := by
  rw [writtenType, writtenType, text?_eq_of_rel h]

theorem isNamed_eq (h : Stripped n m) (name : String) :
    isNamed bytes name n = isNamed bytes name m := by
  rw [isNamed, isNamed, h.fieldText_eq]

/-- A search for a named child of one kind, which is not a kind of comment. -/
theorem find?_named_stripped (h : Stripped n m) (name : String) {kind : String}
    (hkind : kind ≠ "line_comment" ∧ kind ≠ "block_comment") :
    Option.Rel Stripped (n.namedChildren.find? fun c => c.kind == kind && isNamed bytes name c)
      (m.namedChildren.find? fun c => c.kind == kind && isNamed bytes name c) := by
  refine h.namedChildren.find? (fun c d hc => ?_) (fun c hc => ?_)
  · rw [hc.kind_eq, isNamed_eq hc]
  · rw [hc.kind_beq hkind, Bool.false_and]

theorem lookupVariables_stripped (h : Stripped n m) (name : String) :
    lookupVariables bytes n name = lookupVariables bytes m name := by
  refine map_eq_of_rel (find?_named_stripped h name (by decide)) fun c d hc => ?_
  rw [isSome_eq_of_rel (hc.child? "dimensions"), writtenType_eq_of_rel (h.child? "type")]

theorem lookupFields_stripped (h : Stripped n m) (name : String) :
    lookupFields bytes n name = lookupFields bytes m name := by
  refine h.namedChildren.findSome? (fun c d hc => ?_) (fun c hc => ?_)
  · rw [hc.kind_eq, lookupVariables_stripped hc]
  · rw [if_neg]
    rintro (hk | hk)
    · exact hc.kind_ne (by decide) hk
    · exact hc.kind_ne (by decide) hk

/-- Leaving out comments does not move the end of the search in a block: what stands
behind a comment starts no earlier than the comment. -/
theorem thinned_takeWhile {cs ds : List Node} (h : Thinned IsLooseComment Stripped cs ds)
    (hcs : cs.Pairwise fun c d => c.start ≤ d.start) (before : Nat) :
    Thinned IsLooseComment Stripped (cs.takeWhile fun c => c.start < before)
      (ds.takeWhile fun c => c.start < before) := by
  induction h with
  | nil => exact .nil
  | @keep c d cs ds hc _ ih =>
    have hrest := ih (List.pairwise_cons.1 hcs).2
    by_cases hlt : c.start < before
    · have hlt' : d.start < before := by rw [← hc.start_eq]; exact hlt
      rw [List.takeWhile_cons_of_pos (by simpa using hlt),
        List.takeWhile_cons_of_pos (by simpa using hlt')]
      exact .keep hc hrest
    · have hlt' : ¬d.start < before := by rw [← hc.start_eq]; exact hlt
      rw [List.takeWhile_cons_of_neg (by simpa using hlt),
        List.takeWhile_cons_of_neg (by simpa using hlt')]
      exact .nil
  | @drop c cs ds hc _ ih =>
    have hrest := ih (List.pairwise_cons.1 hcs).2
    by_cases hlt : c.start < before
    · rw [List.takeWhile_cons_of_pos (by simpa using hlt)]
      exact .drop hc hrest
    · have hnone : (cs.takeWhile fun c => c.start < before) = [] := by
        cases cs with
        | nil => rfl
        | cons d cs =>
          have hle : c.start ≤ d.start := (List.pairwise_cons.1 hcs).1 d List.mem_cons_self
          have hlt' : ¬d.start < before := by omega
          exact List.takeWhile_cons_of_neg (by simpa using hlt')
      rw [List.takeWhile_cons_of_neg (by simpa using hlt)]
      rw [hnone] at hrest
      exact hrest

theorem lookupLocals_stripped (h : Stripped n m)
    (hordered : n.namedChildren.Pairwise fun c d => c.start ≤ d.start) (name : String)
    (before : Nat) : lookupLocals bytes n name before = lookupLocals bytes m name before := by
  have hwhile := thinned_takeWhile h.namedChildren hordered before
  refine hwhile.findSome? (fun c d hc => ?_) (fun c hc => ?_)
  · rw [hc.kind_eq, lookupVariables_stripped hc]
  · rw [if_neg (hc.kind_ne (by decide))]

theorem lookupParameter_stripped (h : Stripped n m) (name : String) :
    lookupParameter bytes n name = lookupParameter bytes m name := by
  have hany : (n.descendants.any fun c => c.kind == "identifier" && c.text bytes == name) =
      m.descendants.any fun c => c.kind == "identifier" && c.text bytes == name := by
    refine h.descendants.any (fun c d hc => ?_) (fun c hc => ?_)
    · rw [hc.kind_eq, hc.text_eq]
    · rw [hc.kind_beq (by decide), Bool.false_and]
  unfold lookupParameter
  rw [hany, h.kind_eq, h.text_eq, isNamed_eq h, writtenType_eq_of_rel (h.child? "type")]

theorem lookupParameter_comment (h : n.IsLooseComment) (name : String) :
    lookupParameter bytes n name = none := by
  rw [lookupParameter, if_neg (h.kind_ne (by decide)), if_neg (h.kind_ne (by decide)),
    if_neg (h.kind_ne (by decide))]

theorem lookupParameters_stripped {o p : Option Node} (h : Option.Rel Stripped o p)
    (name : String) : lookupParameters bytes o name = lookupParameters bytes p name := by
  cases h with
  | none => rfl
  | @some ps qs h =>
    have hlist : (ps.namedChildren.findSome? fun c => lookupParameter bytes c name) =
        qs.namedChildren.findSome? fun c => lookupParameter bytes c name :=
      h.namedChildren.findSome? (fun c d hc => lookupParameter_stripped hc name)
        (fun c hc => lookupParameter_comment hc name)
    unfold lookupParameters
    simp only [h.kind_eq, h.text_eq, hlist]

theorem lookupForLoop_stripped (h : Stripped n m) (name : String) :
    lookupForLoop bytes n name = lookupForLoop bytes m name := by
  unfold lookupForLoop
  rcases cases_of_rel (h.child? "init") with ⟨hn, hm⟩ | ⟨c, d, hn, hm, hc⟩
  · rw [hn, hm]
  · rw [hn, hm]
    simp only [hc.kind_eq, lookupVariables_stripped hc]

theorem lookupForEach_stripped (h : Stripped n m) (name : String) :
    lookupForEach bytes n name = lookupForEach bytes m name := by
  rw [lookupForEach, lookupForEach, isNamed_eq h, writtenType_eq_of_rel (h.child? "type")]

theorem lookupHandler_stripped (h : Stripped n m) (name : String) :
    lookupHandler bytes n name = lookupHandler bytes m name := by
  refine map_eq_of_rel (find?_named_stripped h name (by decide)) fun c d hc => ?_
  exact writtenType_eq_of_rel (find?_kind_rel hc.namedChildren "catch_type" (by decide))

/-- A comment among the resources has no name, so it is passed over when a name is
asked for that is not empty. -/
theorem lookupResources_stripped (h : Stripped n m) {name : String} (hname : name ≠ "") :
    lookupResources bytes n name = lookupResources bytes m name := by
  unfold lookupResources
  rcases cases_of_rel (h.child? "resources") with ⟨hn, hm⟩ | ⟨rs, qs, hn, hm, hrs⟩
  · rw [hn, hm]
  · rw [hn, hm]
    have hfind : Option.Rel Stripped (rs.namedChildren.find? (isNamed bytes name))
        (qs.namedChildren.find? (isNamed bytes name)) := by
      refine hrs.namedChildren.find? (fun c d hc => isNamed_eq hc name) (fun c hc => ?_)
      rw [isNamed, fieldText, hc.child?_eq_none]
      exact beq_eq_false_iff_ne.2 (Ne.symm hname)
    exact map_eq_of_rel hfind fun c d hc => writtenType_eq_of_rel (hc.child? "type")

theorem ofKind?_eq_block {kind : String} (h : Form.ofKind? kind = some .block) :
    kind ∈ ["block", "constructor_body", "switch_block_statement_group"] := by
  by_cases hblock : ["block", "constructor_body", "switch_block_statement_group"].contains kind
  · exact List.contains_iff_mem.1 hblock
  · rw [Form.ofKind?, if_neg hblock] at h
    repeat' split at h
    all_goals cases h

theorem lookup_stripped (h : Stripped n m) (htidy : TidyAt bytes n) {name : String}
    (hname : name ≠ "") (before : Nat) :
    lookup bytes n name before = lookup bytes m name before := by
  unfold lookup
  rw [← h.kind_eq]
  cases hform : Form.ofKind? n.kind with
  | none => rfl
  | some form =>
    cases form with
    | block => exact lookupLocals_stripped h (htidy.ordered (ofKind?_eq_block hform)) name before
    | members => exact lookupFields_stripped h name
    | callable => exact lookupParameters_stripped (h.child? "parameters") name
    | forLoop => exact lookupForLoop_stripped h name
    | forEach => exact lookupForEach_stripped h name
    | handler => exact lookupHandler_stripped h name
    | resources => exact lookupResources_stripped h hname

/-! ## All scopes above a place -/

theorem resolveName_stripped {scopes scopes' : List Node}
    (h : List.Forall₂ Stripped scopes scopes') (htidy : ∀ a ∈ scopes, TidyAt bytes a)
    {name : String} (hname : name ≠ "") (before : Nat) :
    resolveName bytes name before scopes = resolveName bytes name before scopes' := by
  unfold resolveName
  congr 1
  induction h with
  | nil => rfl
  | @cons a b scopes scopes' hab _ ih =>
    rw [List.findSome?_cons, List.findSome?_cons,
      lookup_stripped hab (htidy a List.mem_cons_self) hname before,
      ih fun c hc => htidy c (List.mem_cons_of_mem a hc)]

theorem resolveField_stripped {scopes scopes' : List Node}
    (h : List.Forall₂ Stripped scopes scopes') (name : String) :
    resolveField bytes name scopes = resolveField bytes name scopes' := by
  unfold resolveField
  induction h with
  | nil => rfl
  | @cons a b scopes scopes' hab _ ih =>
    rw [List.find?_cons, List.find?_cons, hab.kind_eq]
    cases Form.ofKind? b.kind == some .members with
    | true => exact congrArg Option.join (lookupFields_stripped hab name)
    | false => exact ih

/-! ## Expressions -/

theorem isComment_eq (h : Stripped n m) : isComment n = isComment m := by
  rw [isComment, isComment, h.kind_eq]

theorem isComment_of_isLooseComment (h : n.IsLooseComment) : isComment n = true := by
  rcases h.kind with hk | hk
  · rw [isComment, hk]
    decide
  · rw [isComment, hk]
    decide

/- Parentheses are opened down to the same expression. -/
mutual
theorem bare_stripped {above above' : List Node} :
    ∀ {n m : Node}, Stripped n m → List.Forall₂ Stripped above above' →
      Option.Rel Site.Stripped (bare above n) (bare above' m)
  | .mk l cs, .mk l' ds, h, habove => by
    obtain rfl : l = l' := h.label_eq
    rw [bare, bare]
    by_cases hk : l.kind = "parenthesized_expression"
    · rw [if_pos hk, if_pos hk]
      exact bareFirst_stripped h.children (.cons h habove)
    · rw [if_neg hk, if_neg hk]
      exact .some ⟨h, habove⟩

theorem bareFirst_stripped {above above' : List Node} :
    ∀ {cs ds : List Node}, Thinned IsLooseComment Stripped cs ds →
      List.Forall₂ Stripped above above' →
      Option.Rel Site.Stripped (bareFirst above cs) (bareFirst above' ds)
  | [], _, .nil, _ => by
    rw [bareFirst, bareFirst]
    exact .none
  | c :: cs, d :: ds, .keep hc h, habove => by
    rw [bareFirst, bareFirst, isComment_eq hc, hc.named_eq]
    by_cases hd : (d.named && !isComment d) = true
    · rw [if_pos hd, if_pos hd]
      exact bare_stripped hc habove
    · rw [if_neg hd, if_neg hd]
      exact bareFirst_stripped h habove
  | c :: cs, ds, .drop hc h, habove => by
    rw [bareFirst, isComment_of_isLooseComment hc, Bool.not_true, Bool.and_false]
    exact bareFirst_stripped h habove
end

/- The expression inside parentheses stands below them. -/
mutual
theorem below_of_bare {above : List Node} {t : Site} :
    ∀ {n : Node}, bare above n = some t → Site.Below ⟨n, above⟩ t
  | .mk l cs, h => by
    rw [bare] at h
    split at h
    · obtain ⟨c, hc, hbelow⟩ := below_of_bareFirst h
      exact Site.Below.of_child (t := ⟨.mk l cs, above⟩) hc hbelow
    · cases h
      exact .self

theorem below_of_bareFirst {above : List Node} {t : Site} :
    ∀ {cs : List Node}, bareFirst above cs = some t → ∃ c ∈ cs, Site.Below ⟨c, above⟩ t
  | [], h => by
    rw [bareFirst] at h
    cases h
  | c :: cs, h => by
    rw [bareFirst] at h
    split at h
    · exact ⟨c, List.mem_cons_self, below_of_bare h⟩
    · obtain ⟨d, hd, hbelow⟩ := below_of_bareFirst h
      exact ⟨d, List.mem_cons_of_mem c hd, hbelow⟩
end

theorem bareType_stripped {s t : Site} (h : Site.Stripped s t) (htidy : TidySite bytes s) :
    bareType bytes s = bareType bytes t := by
  unfold bareType
  simp only [h.node.kind_eq, h.node.start_eq, h.node.text_eq]
  split
  · exact writtenType_eq_of_rel (h.node.child? "type")
  split
  · rename_i hk
    have hname : t.node.text bytes ≠ "" := by
      rw [← h.node.text_eq]
      exact (htidy.within _ .self).named (h.node.kind_eq.trans hk)
    exact resolveName_stripped h.above htidy.above hname _
  split
  · rcases cases_of_rel (h.node.child? "object") with ⟨hs, ht⟩ | ⟨o, p, hs, ht, ho⟩
    · rw [hs, ht]
    rcases cases_of_rel (h.node.child? "field") with ⟨hs', ht'⟩ | ⟨f, g, hs', ht', hf⟩
    · rw [hs, ht, hs', ht']
    · rw [hs, ht, hs', ht']
      simp only [ho.kind_eq, hf.text_eq, resolveField_stripped h.above]
  · rfl

/-- The type of an expression does not depend on comments. -/
theorem exprType_stripped {s t : Site} (h : Site.Stripped s t) (htidy : TidySite bytes s) :
    exprType bytes s = exprType bytes t := by
  unfold exprType
  rcases cases_of_rel (bare_stripped h.node h.above) with ⟨hs, ht⟩ | ⟨u, v, hs, ht, huv⟩
  · rw [hs, ht]
  · rw [hs, ht]
    exact bareType_stripped huv (htidy.of_below (below_of_bare hs))

end Scope
end RoleNaming
