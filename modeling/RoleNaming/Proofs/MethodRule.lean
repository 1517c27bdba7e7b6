/-
What a visit to a method or constructor reports.

The rule looks at two words and treats them differently.  A listener has to show in the
name and among the parameters, or in neither: the order of the parameters is of no account.
A context is looked for in the parameters from the left, and the first one found decides:
what stands behind it is of no account.  `visit_method` states both, from the tree to the
problems reported.
-/
import RoleNaming.Proofs.Mention
import RoleNaming.Rule.Visit

namespace RoleNaming

open Syntax Text View

theorem Finding.id_kind_ne (f : Finding) : f.kind.id ≠ "ListenerAccess" := by
  cases f <;> exact of_decide_eq_true rfl

namespace Rule

theorem exists_finding_of_mem_visit {f : FileView} {contextType : String} {s : Site} {i : Issue}
    (h : i ∈ visit f contextType s) :
    ∃ found ∈ findings f contextType s, i = Finding.issue s.node f.path found := by
  obtain ⟨found, hfound, hi⟩ := List.mem_map.1 h
  exact ⟨found, hfound, hi.symm⟩

/-- No rule reports `ListenerAccess`, at whatever place. -/
theorem id_ne_of_mem_visit {f : FileView} {contextType : String} {s : Site} {i : Issue}
    (h : i ∈ visit f contextType s) : i.id ≠ "ListenerAccess" := by
  obtain ⟨found, -, rfl⟩ := exists_finding_of_mem_visit h
  exact found.id_kind_ne

/-! ## The two parts of a report -/

/-- The word stands in the text. -/
def Speaks (word s : String) : Prop := word.toList <:+: s.toList

instance (word s : String) : Decidable (Speaks word s) := decidable_of_iff _ mentions_iff

/-- The first `modifiers` of a declaration hold `private`. -/
def IsPrivate (n : Node) : Prop :=
  ∃ ms, n.children.find? (fun c => c.kind == "modifiers") = some ms ∧
    ∃ m ∈ ms.children, m.kind = "private"

/-- The first parameter whose name speaks of a context. -/
def IsFirstContext (params : List Parameter) (p : Parameter) : Prop :=
  ∃ before after, params = before ++ p :: after ∧ Speaks "context" p.name ∧
    ∀ q ∈ before, ¬Speaks "context" q.name

/-- What is reported about listeners: one problem if name and parameters disagree, with a
message that tells which of them is silent. -/
structure ListenerPart (path : String) (m : Method) (part : List Issue) : Prop where
  length_le : part.length ≤ 1
  ne_nil_iff : part ≠ [] ↔
    ¬(Speaks "listener" m.name ↔ ∃ p ∈ m.parameters, Speaks "listener" p.name)
  said : Speaks "listener" m.name → ∀ i ∈ part,
    i = .atNode Catalog.methodNameIsIncoherent m.node
      "This method mentions `listener` but has no parameter named `listener`" path
  unsaid : ¬Speaks "listener" m.name → ∀ i ∈ part,
    i = .atNode Catalog.methodNameIsIncoherent m.node
      "This method has parameter named `listener`" path

/-- What is reported about contexts: one problem if the first context parameter has another
type, or if the name speaks of a context and no parameter does. -/
structure ContextPart (v : Visibility) (contextType path : String) (m : Method)
    (part : List Issue) : Prop where
  length_le : part.length ≤ 1
  access_iff : (∃ i ∈ part, i.id = "ContextAccess") ↔
    ∃ p, IsFirstContext m.parameters p ∧ v.denotes p.type contextType = false
  incoherent_iff : (∃ i ∈ part, i.id = "MethodNameIsIncoherent") ↔
    (∀ p ∈ m.parameters, ¬Speaks "context" p.name) ∧ Speaks "context" m.name
  cases_of_mem : ∀ i ∈ part,
    i = .atNode Catalog.contextAccess m.node
        ("This code does not mention parameter of type " ++ contextType) path ∨
      i = .atNode Catalog.methodNameIsIncoherent m.node
        "This method mentions `context` but has no parameter named `context`" path

/-- The report of a visit in its two parts. -/
structure Report (f : FileView) (contextType : String) (s : Site) (m : Method)
    (listener context : List Issue) : Prop where
  visit_eq : visit f contextType s = listener ++ context
  listener : ListenerPart f.path m listener
  context : ContextPart f.visibility contextType f.path m context

/-! ## Listeners -/

theorem any_mentions_iff {word : String} {params : List Parameter} :
    (params.any fun p => mentions word p.name) = true ↔ ∃ p ∈ params, Speaks word p.name := by
  rw [List.any_eq_true]
  constructor
  · rintro ⟨p, hp, h⟩
    exact ⟨p, hp, mentions_iff.1 h⟩
  · rintro ⟨p, hp, h⟩
    exact ⟨p, hp, mentions_iff.2 h⟩

theorem checkListener_cases (m : Method) :
    checkListener m = [.listenerUnbacked] ∧ Speaks "listener" m.name ∧
        ¬(∃ p ∈ m.parameters, Speaks "listener" p.name) ∨
      checkListener m = [.listenerUnsaid] ∧ ¬Speaks "listener" m.name ∧
        (∃ p ∈ m.parameters, Speaks "listener" p.name) ∨
      checkListener m = [] ∧
        (Speaks "listener" m.name ↔ ∃ p ∈ m.parameters, Speaks "listener" p.name) := by
  have hsaid : mentions listenerWord m.name = true ↔ Speaks "listener" m.name := mentions_iff
  have htaken : (m.parameters.any fun p => mentions listenerWord p.name) = true ↔
      ∃ p ∈ m.parameters, Speaks "listener" p.name := any_mentions_iff
  unfold checkListener
  rw [← hsaid, ← htaken]
  cases mentions listenerWord m.name <;>
    cases m.parameters.any fun p => mentions listenerWord p.name <;> simp

def listenerIssues (path : String) (m : Method) : List Issue :=
  (checkListener m).map (Finding.issue m.node path)

theorem listenerPart_listenerIssues (path : String) (m : Method) :
    ListenerPart path m (listenerIssues path m) := by
  unfold listenerIssues
  obtain ⟨h, hsaid, htaken⟩ | ⟨h, hsaid, htaken⟩ | ⟨h, hsame⟩ := checkListener_cases m
  · rw [h]
    refine ⟨Nat.le_refl 1, ?_, ?_, ?_⟩
    · exact iff_of_true (List.cons_ne_nil _ _) fun hiff => htaken (hiff.1 hsaid)
    · intro _ i hi
      exact List.mem_singleton.1 hi
    · intro hunsaid
      exact absurd hsaid hunsaid
  · rw [h]
    refine ⟨Nat.le_refl 1, ?_, ?_, ?_⟩
    · exact iff_of_true (List.cons_ne_nil _ _) fun hiff => hsaid (hiff.2 htaken)
    · intro hsaid'
      exact absurd hsaid' hsaid
    · intro _ i hi
      exact List.mem_singleton.1 hi
  · rw [h]
    refine ⟨Nat.zero_le 1, ?_, ?_, ?_⟩
    · exact iff_of_false (fun hne => hne rfl) fun hnot => hnot hsame
    · intro _ i hi
      cases hi
    · intro _ i hi
      cases hi

theorem any_of_perm_names {word : String} {ps qs : List Parameter}
    (h : (qs.map Parameter.name).Perm (ps.map Parameter.name)) :
    (qs.any fun p => mentions word p.name) = ps.any fun p => mentions word p.name := by
  have hany : ∀ l : List Parameter, (l.any fun p => mentions word p.name) =
      (l.map Parameter.name).any (mentions word) := by
    intro l
    rw [List.any_map]
    rfl
  rw [hany, hany, h.any_eq]

/-! ## Contexts -/

theorem isFirstContext_iff {params : List Parameter} {p : Parameter} :
    IsFirstContext params p ↔
      (params.find? fun p => mentions contextWord p.name) = some p := by
  have hword : ∀ q : Parameter, mentions contextWord q.name = true ↔ Speaks "context" q.name :=
    fun _ => mentions_iff
  rw [List.find?_eq_some_iff_append]
  simp only [IsFirstContext, ← hword, Bool.not_eq_true, Bool.not_eq_true']
  constructor
  · rintro ⟨before, after, h, hp, hbefore⟩
    exact ⟨hp, before, after, h, hbefore⟩
  · rintro ⟨hp, before, after, h, hbefore⟩
    exact ⟨before, after, h, hp, hbefore⟩

theorem exists_speaks_of_isFirstContext {params : List Parameter} {p : Parameter}
    (h : IsFirstContext params p) : ¬∀ q ∈ params, ¬Speaks "context" q.name := by
  obtain ⟨before, after, rfl, hp, -⟩ := h
  intro hnone
  exact hnone p (List.mem_append_right _ List.mem_cons_self) hp

theorem checkContext_cases (v : Visibility) (contextType : String) (m : Method) :
    checkContext v contextType m = [.contextMistyped contextType] ∧
        (∃ p, IsFirstContext m.parameters p ∧ v.denotes p.type contextType = false) ∨
      checkContext v contextType m = [.contextUnbacked] ∧
        (∀ p ∈ m.parameters, ¬Speaks "context" p.name) ∧ Speaks "context" m.name ∨
      checkContext v contextType m = [] ∧
        ¬(∃ p, IsFirstContext m.parameters p ∧ v.denotes p.type contextType = false) ∧
        ¬((∀ p ∈ m.parameters, ¬Speaks "context" p.name) ∧ Speaks "context" m.name) := by
  unfold checkContext
  simp only [isFirstContext_iff]
  cases hfind : m.parameters.find? fun p => mentions contextWord p.name with
  | some p =>
    have hspeaks := exists_speaks_of_isFirstContext (isFirstContext_iff.2 hfind)
    cases hdenotes : v.denotes p.type contextType with
    | true =>
      refine Or.inr (Or.inr ⟨if_pos hdenotes, ?_, fun h => hspeaks h.1⟩)
      rintro ⟨q, hq, hq'⟩
      rw [← Option.some.inj hq, hdenotes] at hq'
      cases hq'
    | false => exact Or.inl ⟨if_neg (by simp [hdenotes]), p, rfl, hdenotes⟩
  | none =>
    have hnone : ∀ p ∈ m.parameters, ¬Speaks "context" p.name := by
      intro p hp hspeaks
      exact List.find?_eq_none.1 hfind p hp (mentions_iff.2 hspeaks)
    have hname : mentions contextWord m.name = true ↔ Speaks "context" m.name := mentions_iff
    by_cases hsaid : mentions contextWord m.name = true
    · exact Or.inr (Or.inl ⟨if_pos hsaid, hnone, hname.1 hsaid⟩)
    · refine Or.inr (Or.inr ⟨if_neg hsaid, ?_, fun h => hsaid (hname.2 h.2)⟩)
      rintro ⟨q, hq, -⟩
      cases hq

def contextIssues (v : Visibility) (contextType path : String) (m : Method) : List Issue :=
  (checkContext v contextType m).map (Finding.issue m.node path)

theorem exists_issue_iff {n : Node} {path : String} {found : Finding} {id : String} :
    (∃ i ∈ [found].map (Finding.issue n path), i.id = id) ↔ found.kind.id = id := by
  constructor
  · intro h
    obtain ⟨i, hi, hid⟩ := h
    rw [List.mem_singleton.1 hi] at hid
    exact hid
  · intro h
    exact ⟨_, List.mem_singleton_self _, h⟩

theorem contextPart_contextIssues (v : Visibility) (contextType path : String) (m : Method) :
    ContextPart v contextType path m (contextIssues v contextType path m) := by
  unfold contextIssues
  obtain ⟨h, hfirst⟩ | ⟨h, hnone, hsaid⟩ | ⟨h, hfirst, hsaid⟩ := checkContext_cases v contextType m
  · have hnot : ¬((∀ p ∈ m.parameters, ¬Speaks "context" p.name) ∧ Speaks "context" m.name) := by
      obtain ⟨p, hp, -⟩ := hfirst
      exact fun hnone => exists_speaks_of_isFirstContext hp hnone.1
    rw [h]
    refine ⟨Nat.le_refl 1, ?_, ?_, ?_⟩
    · exact exists_issue_iff.trans (iff_of_true rfl hfirst)
    · exact exists_issue_iff.trans (iff_of_false (of_decide_eq_true rfl) hnot)
    · intro i hi
      exact Or.inl (List.mem_singleton.1 hi)
  · have hnot : ¬∃ p, IsFirstContext m.parameters p ∧ v.denotes p.type contextType = false := by
      rintro ⟨p, hp, -⟩
      exact exists_speaks_of_isFirstContext hp hnone
    rw [h]
    refine ⟨Nat.le_refl 1, ?_, ?_, ?_⟩
    · exact exists_issue_iff.trans (iff_of_false (of_decide_eq_true rfl) hnot)
    · exact exists_issue_iff.trans (iff_of_true rfl ⟨hnone, hsaid⟩)
    · intro i hi
      exact Or.inr (List.mem_singleton.1 hi)
  · have hempty : ∀ id : String, ¬∃ i ∈ ([] : List Issue), i.id = id := by
      rintro id ⟨i, hi, -⟩
      cases hi
    rw [h]
    refine ⟨Nat.zero_le 1, ?_, ?_, List.forall_mem_nil _⟩
    · exact iff_of_false (hempty _) hfirst
    · exact iff_of_false (hempty _) hsaid

/-! ## Visits -/

theorem visit_of_method {f : FileView} {s : Site} {m : Method}
    (hm : Method.ofNode? f.bytes s.node = some m) (contextType : String) :
    visit f contextType s =
      if m.parameters.isEmpty || m.isPrivate then []
      else listenerIssues f.path m ++ contextIssues f.visibility contextType f.path m := by
  have hnode : m.node = s.node := by
    unfold Method.ofNode? at hm
    split at hm
    · rw [← Option.some.inj hm]
    · cases hm
  rw [visit, findings, hm, listenerIssues, contextIssues, hnode, ← List.map_append]
  show (checkMethod f.visibility contextType m).map _ = _
  unfold checkMethod
  split
  · rfl
  · rfl

theorem isPrivate_iff {bytes : Bytes} {n : Node} {m : Method}
    (hm : Method.ofNode? bytes n = some m) : m.isPrivate = true ↔ IsPrivate n := by
  unfold Method.ofNode? at hm
  split at hm
  · rw [← Option.some.inj hm]
    show hasModifier n "private" = true ↔ _
    unfold hasModifier IsPrivate
    cases n.children.find? fun c => c.kind == "modifiers" with
    | none => simp
    | some ms => simp
  · cases hm

theorem report_of_public {f : FileView} {s : Site} {m : Method}
    (hm : Method.ofNode? f.bytes s.node = some m) (hparams : m.parameters ≠ [])
    (hpublic : ¬IsPrivate s.node) (contextType : String) :
    Report f contextType s m (listenerIssues f.path m)
      (contextIssues f.visibility contextType f.path m) := by
  refine ⟨?_, listenerPart_listenerIssues _ m, contextPart_contextIssues _ contextType _ m⟩
  rw [← isPrivate_iff hm, Bool.not_eq_true] at hpublic
  rw [visit_of_method hm, hpublic, Bool.or_false, if_neg]
  rwa [List.isEmpty_iff]

/-! ## Other parameters -/

/-- The public method `m'` has the name of `m`, and it stands at the place of `m` in a file of
the same path. -/
structure IsVariant (f : FileView) (m : Method) (f' : FileView) (s' : Site) (m' : Method) :
    Prop where
  ofNode? : Method.ofNode? f'.bytes s'.node = some m'
  isPublic : ¬IsPrivate s'.node
  path : f'.path = f.path
  name : m'.name = m.name
  row : m'.node.label.row = m.node.label.row
  col : m'.node.label.col = m.node.label.col

/-- What the rules read of a parameter. -/
def written (p : Parameter) : String × String := (p.name, p.type)

section

variable {f f' : FileView} {s' : Site} {m m' : Method}

theorem IsVariant.issue_eq (h : IsVariant f m f' s' m') :
    Finding.issue m'.node f'.path = Finding.issue m.node f.path := by
  funext found
  simp only [Finding.issue, Issue.atNode, h.path, h.row, h.col]

theorem IsVariant.listenerIssues_eq (h : IsVariant f m f' s' m')
    (hperm : (m'.parameters.map Parameter.name).Perm (m.parameters.map Parameter.name)) :
    listenerIssues f'.path m' = listenerIssues f.path m := by
  rw [listenerIssues, listenerIssues, h.issue_eq, checkListener, checkListener, h.name,
    any_of_perm_names hperm]

/- The search for the first context parameter goes through the names alone and ends in the
part that both lists have in common. -/
theorem IsVariant.contextIssues_eq (h : IsVariant f m f' s' m') (contextType : String)
    (hvisibility : f'.visibility = f.visibility) {front after after' : List (String × String)}
    (hm : m.parameters.map written = front ++ after)
    (hm' : m'.parameters.map written = front ++ after')
    (hfront : ∃ q ∈ front, Speaks "context" q.1) :
    contextIssues f'.visibility contextType f'.path m' =
      contextIssues f.visibility contextType f.path m := by
  obtain ⟨q, hq, hspeaks⟩ := hfront
  have hsome : (front.find? fun q => mentions contextWord q.1).isSome = true :=
    List.find?_isSome.2 ⟨q, hq, mentions_iff.2 hspeaks⟩
  obtain ⟨r, hr⟩ := Option.isSome_iff_exists.1 hsome
  have hfind : ∀ {params : List Parameter} {rest : List (String × String)},
      params.map written = front ++ rest →
        ∃ p, (params.find? fun p => mentions contextWord p.name) = some p ∧ written p = r := by
    intro params rest hparams
    have hmap : ((params.map written).find? fun q => mentions contextWord q.1) = some r := by
      rw [hparams, List.find?_append, hr]
      rfl
    rw [List.find?_map] at hmap
    exact Option.map_eq_some_iff.1 hmap
  obtain ⟨p, hp, hpr⟩ := hfind hm
  obtain ⟨p', hp', hpr'⟩ := hfind hm'
  have htype : p'.type = p.type := congrArg Prod.snd (hpr'.trans hpr.symm)
  rw [contextIssues, contextIssues, h.issue_eq, checkContext, checkContext, hp, hp', hvisibility]
  show (if f.visibility.denotes p'.type contextType then _ else _ : List Finding).map _ = _
  rw [htype]

end

/-- A visit to a method reports nothing for a private one and for one without parameters.
Otherwise it reports the part on listeners and then the part on contexts.  The first stays
the same when the parameters change places, the second when anything changes behind the
first context parameter. -/
theorem visit_method (f : FileView) (contextType : String) {s : Site}
    (hs : s.node.kind = "method_declaration" ∨ s.node.kind = "constructor_declaration") :
    ∃ m, Method.ofNode? f.bytes s.node = some m ∧
      (m.parameters = [] ∨ IsPrivate s.node → visit f contextType s = []) ∧
      (m.parameters ≠ [] → ¬IsPrivate s.node →
        ∃ listener context, Report f contextType s m listener context ∧
          (∀ f' s' m', IsVariant f m f' s' m' →
            (m'.parameters.map Parameter.name).Perm (m.parameters.map Parameter.name) →
            ∃ context', Report f' contextType s' m' listener context') ∧
          ∀ f' s' m' front after after', IsVariant f m f' s' m' →
            f'.visibility = f.visibility → m.parameters.map written = front ++ after →
            m'.parameters.map written = front ++ after' → (∃ q ∈ front, Speaks "context" q.1) →
            ∃ listener', Report f' contextType s' m' listener' context) ∧
      (∀ i ∈ visit f contextType s,
        i.line = s.node.label.row + 1 ∧ i.col = s.node.label.col + 1 ∧ i.path = f.path) ∧
      ∀ t, ∀ i ∈ visit f contextType t, i.id ≠ "ListenerAccess" := by
  have hkind : methodKinds.contains s.node.kind = true := by
    obtain h | h := hs
    · rw [h]
      rfl
    · rw [h]
      rfl
  obtain ⟨m, hm⟩ : ∃ m, Method.ofNode? f.bytes s.node = some m := ⟨_, if_pos hkind⟩
  refine ⟨m, hm, ?_, ?_, ?_, fun t i => id_ne_of_mem_visit⟩
  · intro h
    rw [visit_of_method hm, if_pos]
    rwa [Bool.or_eq_true, List.isEmpty_iff, isPrivate_iff hm]
  · intro hparams hpublic
    refine ⟨_, _, report_of_public hm hparams hpublic contextType, ?_, ?_⟩
    · intro f' s' m' h hperm
      have hparams' : m'.parameters ≠ [] := by
        intro hnil
        rw [hnil] at hperm
        exact hparams (List.map_eq_nil_iff.1 hperm.symm.eq_nil)
      rw [← h.listenerIssues_eq hperm]
      exact ⟨_, report_of_public h.ofNode? hparams' h.isPublic contextType⟩
    · intro f' s' m' front after after' h hvisibility hfront hfront' hspeaks
      have hparams' : m'.parameters ≠ [] := by
        intro hnil
        obtain ⟨q, hq, -⟩ := hspeaks
        rw [hnil] at hfront'
        rw [(List.append_eq_nil_iff.1 hfront'.symm).1] at hq
        cases hq
      rw [← h.contextIssues_eq contextType hvisibility hfront hfront' hspeaks]
      exact ⟨_, report_of_public h.ofNode? hparams' h.isPublic contextType⟩
  · intro i hi
    obtain ⟨found, -, rfl⟩ := exists_finding_of_mem_visit hi
    exact ⟨rfl, rfl, rfl⟩

/-! ### A method that both words are about

The declaration `void f(L listener,B context)`, whose second parameter is no `a.C`, and the
same with the parameters the other way round. -/

namespace Handler

def bytes : Bytes := "void f(L listener,B context)".toUTF8.toList

def listener : Node :=
  .onFirstLine "formal_parameter" none 7 17
    [.onFirstLine "type_identifier" "type" 7 8 [], .onFirstLine "identifier" "name" 9 17 []]

def context : Node :=
  .onFirstLine "formal_parameter" none 18 27
    [.onFirstLine "type_identifier" "type" 18 19 [], .onFirstLine "identifier" "name" 20 27 []]

def name : Node := .onFirstLine "identifier" "name" 5 6 []

def site (params : List Node) : Site :=
  .top (.onFirstLine "method_declaration" none 0 28
    [.onFirstLine "void_type" "type" 0 4 [],
     name,
     .onFirstLine "formal_parameters" "parameters" 6 28 params])

def file : FileView := ⟨"A.java", bytes, Visibility.empty⟩

def view (params : List Node) : Method :=
  ⟨lowercase (name.text bytes), parametersOf bytes ((site params).node.child? "parameters"),
    false, (site params).node⟩

theorem ofNode?_site (params : List Node) :
    Method.ofNode? bytes (site params).node = some (view params) := rfl

theorem isPublic (params : List Node) : ¬IsPrivate (site params).node := by
  rintro ⟨ms, h, -⟩
  cases h

theorem perm_names :
    ((view [context, listener]).parameters.map Parameter.name).Perm
      ((view [listener, context]).parameters.map Parameter.name) := by
  decide +kernel

theorem isVariant :
    IsVariant file (view [listener, context]) file (site [context, listener])
      (view [context, listener]) :=
  ⟨ofNode?_site _, isPublic _, rfl, rfl, rfl, rfl⟩

end Handler

theorem visit_method_handler :
    let s := Handler.site [Handler.listener, Handler.context]
    let swapped := Handler.site [Handler.context, Handler.listener]
    s.node.kind = "method_declaration" ∧
      ∃ listener context context', listener ≠ [] ∧ (∃ i ∈ context, i.id = "ContextAccess") ∧
        visit Handler.file "a.C" s = listener ++ context ∧
        visit Handler.file "a.C" swapped = listener ++ context' := by
  intro s swapped
  refine ⟨rfl, ?_⟩
  obtain ⟨m, hm, -, hreport, -⟩ := visit_method Handler.file "a.C" (s := s) (Or.inl rfl)
  obtain rfl := Option.some.inj ((Handler.ofNode?_site _).symm.trans hm)
  have hparams : (Handler.view [Handler.listener, Handler.context]).parameters ≠ [] := by
    decide +kernel
  have hdisagree : ¬(Speaks "listener" (Handler.view [Handler.listener, Handler.context]).name ↔
      ∃ p ∈ (Handler.view [Handler.listener, Handler.context]).parameters,
        Speaks "listener" p.name) := by
    decide +kernel
  have hfirst : ((Handler.view [Handler.listener, Handler.context]).parameters.find? fun p =>
      mentions contextWord p.name).any
        (fun p => !Handler.file.visibility.denotes p.type "a.C") = true := by
    decide +kernel
  obtain ⟨p, hp, hmistyped⟩ := (Option.any_eq_true _ _).1 hfirst
  obtain ⟨listener, context, h, hperm, -⟩ := hreport hparams (Handler.isPublic _)
  obtain ⟨context', h'⟩ := hperm _ _ _ Handler.isVariant Handler.perm_names
  refine ⟨listener, context, context', ?_, ?_, h.visit_eq, h'.visit_eq⟩
  · exact h.listener.ne_nil_iff.2 hdisagree
  · exact h.context.access_iff.2 ⟨p, isFirstContext_iff.2 hp, by simpa using hmistyped⟩

end Rule
end RoleNaming
