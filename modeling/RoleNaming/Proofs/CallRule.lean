/-
What a visit to a call reports.

A call is looked at twice.  Its name may speak of a context, and one of its arguments may
speak of a context or have the context type; an argument that speaks of one is reported in
preference to one that has the type, wherever the two stand.  `visit_call` states this from
the tree to the problems reported.

The arguments count as a set: their order is of no account, and one argument more takes
nothing away (`callIssues_perm`, `length_callIssues_le`).
-/
import RoleNaming.Proofs.MethodRule

namespace RoleNaming

open Syntax Text View

namespace Rule

/-! ## Calls in the tree -/

/-- The node that names what is called.  An object creation has none. -/
def IsCallee (call name : Node) : Prop :=
  call.kind = "method_invocation" ∧ call.child? "name" = some name ∨
    call.kind = "explicit_constructor_invocation" ∧ call.child? "constructor" = some name

/-- The place of an argument: a child of the argument list that the grammar names and that
is no comment. -/
def IsArgument (call a : Site) : Prop :=
  ∃ args c, call.node.child? "arguments" = some args ∧ c ∈ args.children ∧ c.named = true ∧
    ¬"comment".toList <:+ c.kind.toList ∧ a = (call.under args).under c

theorem isCallee_iff {call name : Node} : IsCallee call name ↔ calleeName? call = some name := by
  unfold IsCallee calleeName?
  by_cases hmethod : call.kind = "method_invocation"
  · simp [hmethod]
  by_cases hconstructor : call.kind = "explicit_constructor_invocation"
  · simp [hconstructor]
  · simp [hmethod, hconstructor]

section

variable {bytes : Bytes} {s : Site} {c : Call}

/-- What the view of a call is made of. -/
theorem parts_of_ofSite? (hc : Call.ofSite? bytes s = some c) :
    c.name = (calleeName? s.node).map (fun n => lowercase (n.text bytes)) ∧
      c.arguments = (s.node.child? "arguments").toList.flatMap
        (fun args => argumentsOf bytes (s.under args)) ∧
      c.node = s.node := by
  unfold Call.ofSite? at hc
  split at hc
  · obtain rfl := Option.some.inj hc
    refine ⟨rfl, ?_, rfl⟩
    cases s.node.child? "arguments" with
    | none => rfl
    | some args => exact (List.append_nil _).symm
  · cases hc

theorem mem_argumentsOf {x : Argument} :
    x ∈ argumentsOf bytes s ↔
      (∃ c ∈ s.node.children, c.named = true ∧ ¬"comment".toList <:+ c.kind.toList ∧
        x.site = s.under c) ∧ x.text = lowercase (x.site.node.text bytes) := by
  obtain ⟨text, site⟩ := x
  simp only [argumentsOf, Node.namedChildren, List.mem_map, List.mem_filter, Scope.isComment,
    endsIn, Bool.not_eq_true', ← Bool.not_eq_true, List.isSuffixOf_iff_suffix, Argument.mk.injEq]
  constructor
  · intro h
    obtain ⟨c, ⟨⟨hc, hnamed⟩, hcomment⟩, rfl, rfl⟩ := h
    exact ⟨⟨c, hc, hnamed, hcomment, rfl⟩, rfl⟩
  · intro h
    obtain ⟨⟨c, hc, hnamed, hcomment, rfl⟩, rfl⟩ := h
    exact ⟨c, ⟨⟨hc, hnamed⟩, hcomment⟩, rfl, rfl⟩

/-- The view of a call has its arguments, each with its text in lower case. -/
theorem mem_arguments_iff (hc : Call.ofSite? bytes s = some c) {x : Argument} :
    x ∈ c.arguments ↔ IsArgument s x.site ∧ x.text = lowercase (x.site.node.text bytes) := by
  rw [(parts_of_ofSite? hc).2.1, List.mem_flatMap]
  simp only [Option.mem_toList, mem_argumentsOf]
  constructor
  · intro ⟨args, hargs, ⟨c, hchild, hnamed, hcomment, hsite⟩, htext⟩
    exact ⟨⟨args, c, hargs, hchild, hnamed, hcomment, hsite⟩, htext⟩
  · intro ⟨⟨args, c, hargs, hchild, hnamed, hcomment, hsite⟩, htext⟩
    exact ⟨args, hargs, ⟨c, hchild, hnamed, hcomment, hsite⟩, htext⟩

/-- A property of some argument is read off the tree. -/
theorem exists_mem_arguments_iff (hc : Call.ofSite? bytes s = some c) (P : String → Site → Prop) :
    (∃ x ∈ c.arguments, P x.text x.site) ↔
      ∃ a, IsArgument s a ∧ P (lowercase (a.node.text bytes)) a := by
  constructor
  · intro ⟨x, hx, h⟩
    obtain ⟨harg, htext⟩ := (mem_arguments_iff hc).1 hx
    rw [htext] at h
    exact ⟨x.site, harg, h⟩
  · intro ⟨a, harg, h⟩
    exact ⟨⟨_, a⟩, (mem_arguments_iff hc).2 ⟨harg, rfl⟩, h⟩

theorem arguments_ne_nil_iff (hc : Call.ofSite? bytes s = some c) :
    c.arguments ≠ [] ↔ ∃ a, IsArgument s a := by
  have h := exists_mem_arguments_iff hc fun _ _ => True
  simp only [and_true] at h
  rw [← h]
  constructor
  · exact List.exists_mem_of_ne_nil _
  · intro ⟨x, hx⟩
    exact List.ne_nil_of_mem hx

end

/-! ## The two parts of a report -/

/-- What is reported about the name of a call. -/
structure CalleePart (f : FileView) (s : Site) (name : Node) (part : List Issue) : Prop where
  length_le : part.length ≤ 1
  ne_nil_iff : part ≠ [] ↔ Speaks "context" (lowercase (name.text f.bytes))
  eq_of_mem : ∀ i ∈ part,
    i = .atNode Catalog.contextAccess s.node "This code mentions `context`" f.path

/-- What is reported about the arguments of a call: one that speaks of a context, or else one
of the context type. -/
structure ArgumentPart (f : FileView) (contextType : String) (s : Site) (part : List Issue) :
    Prop where
  length_le : part.length ≤ 1
  passed_iff :
    .atNode Catalog.contextAccess s.node "This code mentions parameter `context`" f.path ∈ part ↔
      ∃ a, IsArgument s a ∧ Speaks "context" (lowercase (a.node.text f.bytes))
  typed_iff :
    .atNode Catalog.contextAccess s.node ("This code mentions parameter of type " ++ contextType)
        f.path ∈ part ↔
      (¬∃ a, IsArgument s a ∧ Speaks "context" (lowercase (a.node.text f.bytes))) ∧
        ∃ a, IsArgument s a ∧
          f.visibility.denotes? (Scope.exprType f.bytes a) contextType = true
  cases_of_mem : ∀ i ∈ part,
    i = .atNode Catalog.contextAccess s.node "This code mentions parameter `context`" f.path ∨
      i = .atNode Catalog.contextAccess s.node
        ("This code mentions parameter of type " ++ contextType) f.path

/-! ## Findings about calls -/

theorem mem_checkCallee_iff {name : String} {found : Finding} :
    found ∈ checkCallee name ↔ found = .contextCalled ∧ Speaks "context" name := by
  have hname : mentions contextWord name = true ↔ Speaks "context" name := mentions_iff
  unfold checkCallee
  rw [← hname]
  by_cases h : mentions contextWord name = true
  · rw [if_pos h, List.mem_singleton]
    exact (and_iff_left h).symm
  · rw [if_neg h]
    exact iff_of_false List.not_mem_nil fun hboth => h hboth.2

theorem length_checkCallee_le_one (name : String) : (checkCallee name).length ≤ 1 := by
  unfold checkCallee
  split
  · exact Nat.le_refl 1
  · exact Nat.zero_le 1

section

variable {bytes : Bytes} {v : Visibility} {contextType : String} {args args' : List Argument}

theorem mem_checkArguments_iff {found : Finding} :
    found ∈ checkArguments bytes v contextType args ↔
      found = .contextPassed ∧ (∃ x ∈ args, Speaks "context" x.text) ∨
      found = .contextTypePassed contextType ∧ (¬∃ x ∈ args, Speaks "context" x.text) ∧
        ∃ x ∈ args, v.denotes? (Scope.exprType bytes x.site) contextType = true := by
  have hspeaks : (args.any fun x => mentions contextWord x.text) = true ↔
      ∃ x ∈ args, Speaks "context" x.text := by
    rw [List.any_eq_true]
    exact exists_congr fun x => and_congr_right fun _ => mentions_iff
  unfold checkArguments
  rw [← hspeaks, ← List.any_eq_true]
  by_cases hpassed : (args.any fun x => mentions contextWord x.text) = true
  · simp [hpassed]
  by_cases htyped : (args.any fun x =>
      v.denotes? (Scope.exprType bytes x.site) contextType) = true
  · simp [hpassed, htyped]
  · simp [hpassed, htyped]

theorem length_checkArguments_le_one (bytes : Bytes) (v : Visibility) (contextType : String)
    (args : List Argument) : (checkArguments bytes v contextType args).length ≤ 1 := by
  unfold checkArguments
  split
  · exact Nat.le_refl 1
  split
  · exact Nat.le_refl 1
  · exact Nat.zero_le 1

theorem checkArguments_eq_nil_iff :
    checkArguments bytes v contextType args = [] ↔
      ∀ x ∈ args, ¬Speaks "context" x.text ∧
        ¬v.denotes? (Scope.exprType bytes x.site) contextType = true := by
  rw [List.eq_nil_iff_forall_not_mem]
  constructor
  · intro hnone x hx
    have hsilent : ¬∃ x ∈ args, Speaks "context" x.text := fun hspeaks =>
      hnone _ (mem_checkArguments_iff.2 (Or.inl ⟨rfl, hspeaks⟩))
    exact ⟨fun hspeaks => hsilent ⟨x, hx, hspeaks⟩, fun hdenotes =>
      hnone _ (mem_checkArguments_iff.2 (Or.inr ⟨rfl, hsilent, x, hx, hdenotes⟩))⟩
  · intro hall found hfound
    rcases mem_checkArguments_iff.1 hfound with ⟨-, x, hx, hspeaks⟩ | ⟨-, -, x, hx, hdenotes⟩
    · exact (hall x hx).1 hspeaks
    · exact (hall x hx).2 hdenotes

/-- More arguments make no finding disappear without another in its place. -/
theorem length_checkArguments_le (bytes : Bytes) (v : Visibility) (contextType : String)
    (h : args ⊆ args') :
    (checkArguments bytes v contextType args).length ≤
      (checkArguments bytes v contextType args').length := by
  by_cases hnil : checkArguments bytes v contextType args' = []
  · have hnone : checkArguments bytes v contextType args = [] :=
      checkArguments_eq_nil_iff.2 fun x hx => checkArguments_eq_nil_iff.1 hnil x (h hx)
    rw [hnone]
    exact Nat.zero_le _
  · have hpos := List.length_pos_iff.2 hnil
    have hone := length_checkArguments_le_one bytes v contextType args
    omega

end

section

variable {bytes : Bytes} {v : Visibility} {contextType : String} {c : Call}

theorem checkCall_of_name {name : String} (hname : c.name = some name)
    (hargs : c.arguments ≠ []) :
    checkCall bytes v contextType c =
      checkCallee name ++ checkArguments bytes v contextType c.arguments := by
  unfold checkCall
  rw [hname]
  exact if_neg (by rwa [List.isEmpty_iff])

theorem checkCall_eq_nil (h : c.name = none ∨ c.arguments = []) :
    checkCall bytes v contextType c = [] := by
  unfold checkCall
  rcases h with h | h
  · rw [h]
  · rw [h]
    cases c.name <;> rfl

theorem mem_checkCall_iff {found : Finding} :
    found ∈ checkCall bytes v contextType c ↔
      c.arguments ≠ [] ∧ ∃ name, c.name = some name ∧
        (found ∈ checkCallee name ∨ found ∈ checkArguments bytes v contextType c.arguments) := by
  constructor
  · intro hfound
    by_cases hsilent : c.name = none ∨ c.arguments = []
    · rw [checkCall_eq_nil hsilent] at hfound
      cases hfound
    · obtain ⟨hsome, hargs⟩ := not_or.1 hsilent
      obtain ⟨name, hname⟩ := Option.ne_none_iff_exists'.1 hsome
      rw [checkCall_of_name hname hargs, List.mem_append] at hfound
      exact ⟨hargs, name, hname, hfound⟩
  · intro ⟨hargs, name, hname, hfound⟩
    rwa [checkCall_of_name hname hargs, List.mem_append]

end

/-! ## Problems reported

Findings are told apart by their messages, and these by how they open. -/

theorem issue_ne_of_opening (n : Node) (path opening : String) {f g : Finding}
    (hf : opening.toList <+: f.message.toList) (hg : ¬opening.toList <+: g.message.toList) :
    Finding.issue n path f ≠ Finding.issue n path g := by
  intro h
  have hmessage : f.message = g.message := congrArg Issue.message h
  rw [hmessage] at hf
  exact hg hf

theorem opening_typed (contextType : String) :
    "This code mentions parameter of type ".toList <+:
      (Finding.contextTypePassed contextType).message.toList :=
  ⟨contextType.toList, String.toList_append.symm⟩

theorem typed_ne_passed (n : Node) (path contextType : String) :
    Finding.issue n path (.contextTypePassed contextType) ≠ Finding.issue n path .contextPassed :=
  issue_ne_of_opening n path _ (opening_typed contextType) (by decide)

theorem calleePart_checkCallee (f : FileView) (s : Site) (name : Node) :
    CalleePart f s name
      ((checkCallee (lowercase (name.text f.bytes))).map (Finding.issue s.node f.path)) := by
  refine ⟨?_, ?_, ?_⟩
  · rw [List.length_map]
    exact length_checkCallee_le_one _
  · rw [ne_eq, List.map_eq_nil_iff]
    constructor
    · intro hne
      obtain ⟨found, hfound⟩ := List.exists_mem_of_ne_nil _ hne
      exact (mem_checkCallee_iff.1 hfound).2
    · intro hspeaks
      exact List.ne_nil_of_mem (mem_checkCallee_iff.2 ⟨rfl, hspeaks⟩)
  · intro i hi
    obtain ⟨found, hfound, rfl⟩ := List.mem_map.1 hi
    obtain ⟨rfl, -⟩ := mem_checkCallee_iff.1 hfound
    rfl

theorem argumentPart_checkArguments {f : FileView} {s : Site} {c : Call}
    (hc : Call.ofSite? f.bytes s = some c) (contextType : String) :
    ArgumentPart f contextType s
      ((checkArguments f.bytes f.visibility contextType c.arguments).map
        (Finding.issue s.node f.path)) := by
  have hspeaks := exists_mem_arguments_iff hc fun text _ => Speaks "context" text
  have htype := exists_mem_arguments_iff hc fun _ a =>
    f.visibility.denotes? (Scope.exprType f.bytes a) contextType = true
  have hne := typed_ne_passed s.node f.path contextType
  refine ⟨?_, ?_, ?_, ?_⟩
  · rw [List.length_map]
    exact length_checkArguments_le_one ..
  · rw [← hspeaks]
    constructor
    · intro hi
      obtain ⟨found, hfound, heq⟩ := List.mem_map.1 hi
      rcases mem_checkArguments_iff.1 hfound with ⟨-, hpassed⟩ | ⟨rfl, -⟩
      · exact hpassed
      · exact absurd heq hne
    · intro hpassed
      exact List.mem_map_of_mem (mem_checkArguments_iff.2 (Or.inl ⟨rfl, hpassed⟩))
  · rw [← hspeaks, ← htype]
    constructor
    · intro hi
      obtain ⟨found, hfound, heq⟩ := List.mem_map.1 hi
      rcases mem_checkArguments_iff.1 hfound with ⟨rfl, -⟩ | ⟨-, htyped⟩
      · exact absurd heq.symm hne
      · exact htyped
    · intro htyped
      exact List.mem_map_of_mem (mem_checkArguments_iff.2 (Or.inr ⟨rfl, htyped⟩))
  · intro i hi
    obtain ⟨found, hfound, rfl⟩ := List.mem_map.1 hi
    rcases mem_checkArguments_iff.1 hfound with ⟨rfl, -⟩ | ⟨rfl, -⟩
    · exact Or.inl rfl
    · exact Or.inr rfl

/-- What is reported about a call. -/
def callIssues (f : FileView) (contextType : String) (c : Call) : List Issue :=
  (checkCall f.bytes f.visibility contextType c).map (Finding.issue c.node f.path)

theorem id_of_mem_callIssues {f : FileView} {contextType : String} {c : Call} {i : Issue}
    (h : i ∈ callIssues f contextType c) : i.id = "ContextAccess" := by
  obtain ⟨found, hfound, rfl⟩ := List.mem_map.1 h
  obtain ⟨-, name, -, hcallee | hargument⟩ := mem_checkCall_iff.1 hfound
  · obtain ⟨rfl, -⟩ := mem_checkCallee_iff.1 hcallee
    rfl
  · rcases mem_checkArguments_iff.1 hargument with ⟨rfl, -⟩ | ⟨rfl, -⟩
    · rfl
    · rfl

/-- The name of a call is reported whatever its arguments are, as long as it has some. -/
theorem called_mem_callIssues_iff {f : FileView} {contextType : String} {c : Call} :
    Finding.issue c.node f.path .contextCalled ∈ callIssues f contextType c ↔
      c.arguments ≠ [] ∧ ∃ name, c.name = some name ∧ Speaks "context" name := by
  constructor
  · intro hmem
    obtain ⟨found, hfound, heq⟩ := List.mem_map.1 hmem
    obtain ⟨hargs, name, hname, hcallee | hargument⟩ := mem_checkCall_iff.1 hfound
    · exact ⟨hargs, name, hname, (mem_checkCallee_iff.1 hcallee).2⟩
    · -- Both messages about arguments go on where the one about the name is over.
      rcases mem_checkArguments_iff.1 hargument with ⟨rfl, -⟩ | ⟨rfl, -⟩
      · exact absurd heq (issue_ne_of_opening _ _ "This code mentions parameter" (by decide)
          (by decide))
      · exact absurd heq (issue_ne_of_opening _ _ _ (opening_typed contextType) (by decide))
  · intro ⟨hargs, name, hname, hspeaks⟩
    have hcallee := mem_checkCallee_iff.2 ⟨rfl, hspeaks⟩
    exact List.mem_map_of_mem (mem_checkCall_iff.2 ⟨hargs, name, hname, Or.inl hcallee⟩)

/-! ## Other arguments -/

theorem callIssues_perm (f : FileView) (contextType : String) {c c' : Call}
    (hname : c'.name = c.name) (hnode : c'.node = c.node) (h : c'.arguments.Perm c.arguments) :
    callIssues f contextType c' = callIssues f contextType c := by
  have hcheck : checkArguments f.bytes f.visibility contextType c'.arguments =
      checkArguments f.bytes f.visibility contextType c.arguments := by
    rw [checkArguments, checkArguments, h.any_eq, h.any_eq]
  rw [callIssues, callIssues, hnode, checkCall, checkCall, hname, h.isEmpty_eq, hcheck]

theorem length_callIssues_le (f : FileView) (contextType : String) {c c' : Call}
    (hname : c'.name = c.name) (h : c.arguments ⊆ c'.arguments) :
    (callIssues f contextType c).length ≤ (callIssues f contextType c').length := by
  rw [callIssues, callIssues, List.length_map, List.length_map]
  by_cases hsilent : c.name = none ∨ c.arguments = []
  · rw [checkCall_eq_nil hsilent]
    exact Nat.zero_le _
  · obtain ⟨hsome, hargs⟩ := not_or.1 hsilent
    obtain ⟨name, hc⟩ := Option.ne_none_iff_exists'.1 hsome
    have hargs' : c'.arguments ≠ [] := by
      intro hnil
      rw [hnil] at h
      exact hargs (List.subset_nil.1 h)
    rw [checkCall_of_name hc hargs, checkCall_of_name (hname.trans hc) hargs',
      List.length_append, List.length_append]
    exact Nat.add_le_add_left (length_checkArguments_le _ _ _ h) _

/-! ## Visits -/

/-- A call is no method, so the rule for calls is asked. -/
theorem visit_of_call {f : FileView} {s : Site} {c : Call}
    (hc : Call.ofSite? f.bytes s = some c) (contextType : String) :
    visit f contextType s = callIssues f contextType c := by
  have hkind : callKinds.contains s.node.kind = true := by
    unfold Call.ofSite? at hc
    split at hc
    · assumption
    · cases hc
  have hmethod : Method.ofNode? f.bytes s.node = none := by
    have hdisjoint : ∀ k ∈ callKinds, methodKinds.contains k = false := by decide
    unfold Method.ofNode?
    rw [hdisjoint _ (List.contains_iff_mem.1 hkind)]
    rfl
  rw [visit, findings, hmethod, hc, callIssues, (parts_of_ofSite? hc).2.2]

theorem report_of_call {f : FileView} {s : Site} {c : Call}
    (hc : Call.ofSite? f.bytes s = some c) {name : Node} (hname : IsCallee s.node name)
    (hargs : ∃ a, IsArgument s a) (contextType : String) :
    ∃ callee argument, visit f contextType s = callee ++ argument ∧
      CalleePart f s name callee ∧ ArgumentPart f contextType s argument := by
  obtain ⟨hcname, -, hnode⟩ := parts_of_ofSite? hc
  rw [isCallee_iff.1 hname, Option.map_some] at hcname
  refine ⟨_, _, ?_, calleePart_checkCallee f s name, argumentPart_checkArguments hc contextType⟩
  rw [visit_of_call hc, callIssues, hnode,
    checkCall_of_name hcname ((arguments_ne_nil_iff hc).2 hargs), List.map_append]

/-- A visit to a call reports nothing for one without a name, as every object creation is, and
for one without arguments.  Otherwise it reports the part on the name and then the part on the
arguments.  A view of a call has the same report when its arguments change places, and with an
argument more it has as many problems at least, the one with its name among them. -/
theorem visit_call (f : FileView) (contextType : String) {s : Site}
    (hs : s.node.kind = "method_invocation" ∨ s.node.kind = "object_creation_expression" ∨
      s.node.kind = "explicit_constructor_invocation") :
    (∃ c, Call.ofSite? f.bytes s = some c ∧ visit f contextType s = callIssues f contextType c) ∧
      (s.node.kind = "object_creation_expression" → ∀ name, ¬IsCallee s.node name) ∧
      ((∀ name, ¬IsCallee s.node name) ∨ (∀ a, ¬IsArgument s a) → visit f contextType s = []) ∧
      (∀ name, IsCallee s.node name → (∃ a, IsArgument s a) →
        ∃ callee argument, visit f contextType s = callee ++ argument ∧
          CalleePart f s name callee ∧ ArgumentPart f contextType s argument) ∧
      (∀ i ∈ visit f contextType s, i.id = "ContextAccess" ∧
        i.line = s.node.label.row + 1 ∧ i.col = s.node.label.col + 1 ∧ i.path = f.path) ∧
      (∀ (c : Call) (args : List Argument), args.Perm c.arguments →
        callIssues f contextType { c with arguments := args } = callIssues f contextType c) ∧
      ∀ (c : Call) (before : List Argument) (a : Argument) (after : List Argument),
        c.arguments = before ++ after →
        let more := callIssues f contextType { c with arguments := before ++ a :: after }
        let called : Issue :=
          .atNode Catalog.contextAccess c.node "This code mentions `context`" f.path
        (callIssues f contextType c).length ≤ more.length ∧
          (called ∈ callIssues f contextType c → called ∈ more) := by
  have hkind : callKinds.contains s.node.kind = true := by
    rcases hs with h | h | h <;> rw [h] <;> rfl
  obtain ⟨c, hc⟩ : ∃ c, Call.ofSite? f.bytes s = some c := ⟨_, if_pos hkind⟩
  refine ⟨⟨c, hc, visit_of_call hc contextType⟩, ?_, ?_, ?_, ?_, ?_, ?_⟩
  · intro hcreation name hcallee
    rcases hcallee with ⟨hmethod, -⟩ | ⟨hconstructor, -⟩
    · rw [hcreation] at hmethod
      exact absurd hmethod (by decide)
    · rw [hcreation] at hconstructor
      exact absurd hconstructor (by decide)
  · intro hsilent
    rw [visit_of_call hc, callIssues, checkCall_eq_nil, List.map_nil]
    rcases hsilent with hname | hargs
    · left
      rw [(parts_of_ofSite? hc).1, Option.map_eq_none_iff, Option.eq_none_iff_forall_ne_some]
      intro name h
      exact hname name (isCallee_iff.2 h)
    · right
      refine Classical.byContradiction fun hne => ?_
      obtain ⟨a, ha⟩ := (arguments_ne_nil_iff hc).1 hne
      exact hargs a ha
  · intro name hname hargs
    exact report_of_call hc hname hargs contextType
  · intro i hi
    refine ⟨?_, ?_⟩
    · rw [visit_of_call hc] at hi
      exact id_of_mem_callIssues hi
    · obtain ⟨found, -, rfl⟩ := exists_finding_of_mem_visit hi
      exact ⟨rfl, rfl, rfl⟩
  · intro c args hperm
    exact callIssues_perm f contextType rfl rfl hperm
  · intro c before a after hargs more called
    have hsubset : c.arguments ⊆ before ++ a :: after := by
      rw [hargs]
      exact List.append_subset.2 ⟨List.subset_append_left _ _, fun x hx =>
        List.mem_append_right _ (List.mem_cons_of_mem a hx)⟩
    refine ⟨length_callIssues_le f contextType rfl hsubset, ?_⟩
    intro hcalled
    obtain ⟨-, name, hname, hspeaks⟩ := called_mem_callIssues_iff.1 hcalled
    refine called_mem_callIssues_iff.2 ⟨?_, name, hname, hspeaks⟩
    exact List.append_ne_nil_of_right_ne_nil _ (List.cons_ne_nil a after)

/-! ### A call with both sorts of arguments

The call `f((a.C)x,context)`: the first argument has the type and the second one the name.
Only the second is reported. -/

namespace Both

def bytes : Bytes := "f((a.C)x,context)".toUTF8.toList

def name : Node := .onFirstLine "identifier" "name" 0 1 []

def typed : Node :=
  .onFirstLine "cast_expression" none 2 8
    [.onFirstLine "scoped_type_identifier" "type" 3 6 [], .onFirstLine "identifier" "value" 7 8 []]

def spoken : Node := .onFirstLine "identifier" none 9 16 []

def arguments : Node := .onFirstLine "argument_list" "arguments" 1 17 [typed, spoken]

def site : Site := .top (.onFirstLine "method_invocation" none 0 17 [name, arguments])

def file : FileView := ⟨"A.java", bytes, Visibility.empty⟩

theorem isCallee : IsCallee site.node name := Or.inl ⟨rfl, rfl⟩

theorem isArgument_typed : IsArgument site ((site.under arguments).under typed) :=
  ⟨arguments, typed, rfl, .head _, rfl, by decide, rfl⟩

theorem isArgument_spoken : IsArgument site ((site.under arguments).under spoken) :=
  ⟨arguments, spoken, rfl, .tail _ (.head _), rfl, by decide, rfl⟩

end Both

theorem visit_call_both :
    Both.site.node.kind = "method_invocation" ∧
      Both.file.visibility.denotes?
        (Scope.exprType Both.bytes ((Both.site.under Both.arguments).under Both.typed)) "a.C" =
          true ∧
      visit Both.file "a.C" Both.site =
        [.atNode Catalog.contextAccess Both.site.node "This code mentions parameter `context`"
          "A.java"] := by
  have hspeaks : Speaks "context" (lowercase (Both.spoken.text Both.bytes)) := by decide +kernel
  have hsilent : ¬Speaks "context" (lowercase (Both.name.text Both.bytes)) := by decide +kernel
  obtain ⟨-, -, -, hreport, -⟩ := visit_call Both.file "a.C" (s := Both.site) (Or.inl rfl)
  obtain ⟨callee, argument, hvisit, hcallee, hargument⟩ :=
    hreport Both.name Both.isCallee ⟨_, Both.isArgument_typed⟩
  have hnil : callee = [] := Classical.byContradiction fun hne =>
    hsilent (hcallee.ne_nil_iff.1 hne)
  have hpassed := hargument.passed_iff.2 ⟨_, Both.isArgument_spoken, hspeaks⟩
  obtain ⟨i, rfl⟩ := List.length_eq_one_iff.1
    (Nat.le_antisymm hargument.length_le (List.length_pos_of_mem hpassed))
  refine ⟨rfl, by decide +kernel, ?_⟩
  rw [hvisit, hnil, ← List.mem_singleton.1 hpassed]
  rfl

end Rule
end RoleNaming
