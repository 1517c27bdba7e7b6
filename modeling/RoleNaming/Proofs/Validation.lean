/-
What becomes of the values of the command line.

They give a checker, or an error that says what is wrong with them.  `make_ofGiven` tells which
one it is, and that the order and the number of the identifiers do not matter: a configuration
holds sets, and sets are kept in increasing order.  This is also what makes the unknown
identifier that is reported the least of them, whichever option it stands in.
-/
import RoleNaming.Proofs.ExitStatus

namespace RoleNaming

/-! ## Accepted and refused configurations -/

namespace Catalog

/-- There is a kind of problem with this identifier. -/
def Registered (id : String) : Prop := ∃ k ∈ kinds, k.id = id

/-- All the identifiers that are named are in the catalog. -/
def AllRegistered (Named : String → Prop) : Prop := ∀ id, Named id → Registered id

/-- The least of the identifiers that are named and not in the catalog, by code points. -/
structure LeastUnknown (Named : String → Prop) (id : String) : Prop where
  named : Named id
  unknown : ¬Registered id
  least : ∀ other, Named other → ¬Registered other → id ≤ other

theorem isKnown_iff {id : String} : isKnown id = true ↔ Registered id := by
  simp only [isKnown, find?, List.find?_isSome, beq_iff_eq, Registered]

theorem LeastUnknown.not_allRegistered {Named : String → Prop} {id : String}
    (h : LeastUnknown Named id) : ¬AllRegistered Named :=
  fun hall => h.unknown (hall id h.named)

theorem LeastUnknown.unique {Named : String → Prop} {id id' : String}
    (h : LeastUnknown Named id) (h' : LeastUnknown Named id') : id = id' :=
  String.le_antisymm (h.least id' h'.named h'.unknown) (h'.least id h.named h.unknown)

end Catalog

open Catalog

namespace Config

theorem find?_unknown_eq_some_iff {c : Config} {id : String} :
    (c.named.find? fun id => !isKnown id) = some id ↔ LeastUnknown (· ∈ c.named) id := by
  have hincreasing : c.named.Pairwise (· < ·) := OrderedSet.increasing_ofList _
  have hunknown : ∀ id, (!isKnown id) = true ↔ ¬Registered id := by
    intro id
    rw [← isKnown_iff, Bool.not_eq_true', Bool.not_eq_true]
  rw [OrderedSet.find?_eq_some_iff_least hincreasing]
  simp only [hunknown]
  exact ⟨fun ⟨hnamed, hid, hleast⟩ => ⟨hnamed, hid, hleast⟩,
    fun h => ⟨h.named, h.unknown, h.least⟩⟩

theorem find?_unknown_eq_none_iff {c : Config} :
    (c.named.find? fun id => !isKnown id) = none ↔ AllRegistered (· ∈ c.named) := by
  simp only [List.find?_eq_none, Bool.not_eq_true', Bool.not_eq_false, isKnown_iff]
  rfl

/-- No text, or text with a blank in it. -/
def IsBadType (type : String) : Prop := type = "" ∨ ' ' ∈ type.toList

/-- An unknown identifier comes first, then the context type. -/
theorem validate_cases (c : Config) :
    (∃ id, LeastUnknown (· ∈ c.named) id ∧ c.validate = .error (.unknownIssue id)) ∨
    (AllRegistered (· ∈ c.named) ∧ IsBadType c.contextType ∧
      c.validate = .error (.invalidContextType c.contextType)) ∨
    (AllRegistered (· ∈ c.named) ∧ ¬IsBadType c.contextType ∧ c.validate = .ok ()) := by
  have hbad : (c.contextType = "" ∨ c.contextType.toList.contains ' ' = true) ↔
      IsBadType c.contextType := or_congr_right List.contains_iff_mem
  unfold validate
  split
  · rename_i id hid
    exact Or.inl ⟨id, find?_unknown_eq_some_iff.1 hid, rfl⟩
  · rename_i hnone
    have hall := find?_unknown_eq_none_iff.1 hnone
    split
    · rename_i htype
      exact Or.inr (Or.inl ⟨hall, hbad.1 htype, rfl⟩)
    · rename_i htype
      exact Or.inr (Or.inr ⟨hall, fun h => htype (hbad.2 h), rfl⟩)

theorem validate_eq_unknown_iff {c : Config} {id : String} :
    c.validate = .error (.unknownIssue id) ↔ LeastUnknown (· ∈ c.named) id := by
  obtain ⟨id', hid', hv⟩ | ⟨hall, -, hv⟩ | ⟨hall, -, hv⟩ := c.validate_cases <;> rw [hv]
  · constructor
    · intro h
      obtain rfl : id' = id := Error.unknownIssue.inj (Except.error.inj h)
      exact hid'
    · intro h
      rw [hid'.unique h]
  · exact iff_of_false (fun h => by cases h) fun h => h.not_allRegistered hall
  · exact iff_of_false (fun h => by cases h) fun h => h.not_allRegistered hall

theorem validate_eq_invalid_iff {c : Config} {type : String} :
    c.validate = .error (.invalidContextType type) ↔
      AllRegistered (· ∈ c.named) ∧ IsBadType c.contextType ∧ type = c.contextType := by
  obtain ⟨id, hid, hv⟩ | ⟨hall, hbad, hv⟩ | ⟨hall, hgood, hv⟩ := c.validate_cases <;> rw [hv]
  · exact iff_of_false (fun h => by cases h) fun h => hid.not_allRegistered h.1
  · constructor
    · intro h
      exact ⟨hall, hbad, (Error.invalidContextType.inj (Except.error.inj h)).symm⟩
    · intro ⟨_, _, htype⟩
      rw [htype]
  · exact iff_of_false (fun h => by cases h) fun h => hgood h.2.1

theorem validate_eq_ok_iff {c : Config} :
    c.validate = .ok () ↔
      (∀ id, ¬LeastUnknown (· ∈ c.named) id) ∧
        ¬(AllRegistered (· ∈ c.named) ∧ IsBadType c.contextType) := by
  obtain ⟨id, hid, hv⟩ | ⟨hall, hbad, hv⟩ | ⟨hall, hgood, hv⟩ := c.validate_cases <;> rw [hv]
  · exact iff_of_false (fun h => by cases h) fun h => h.1 id hid
  · exact iff_of_false (fun h => by cases h) fun h => h.2 ⟨hall, hbad⟩
  · exact iff_of_true rfl ⟨fun _ hid => hid.not_allRegistered hall, fun h => hgood h.2⟩

end Config

namespace Checker

/-- A checker is made of every configuration that is accepted, and of no other. -/
theorem make_eq_error_iff {c : Config} {e : Error} :
    make c = .error e ↔ c.validate = .error e := by
  cases hv : c.validate with
  | ok u => rw [make_of_ok hv]; exact iff_of_false (fun h => by cases h) fun h => by cases h
  | error e' => rw [make_of_error hv]; simp

theorem exists_make_iff {c : Config} :
    (∃ ck, make c = .ok ck ∧ ck.config = c) ↔ c.validate = .ok () := by
  constructor
  · intro ⟨ck, _, hconfig⟩
    rw [← hconfig]
    exact ck.valid
  · intro hv
    exact ⟨⟨c, hv⟩, make_of_ok hv, rfl⟩

end Checker

/-! ## The values of the command line -/

namespace Arguments

/-- The identifier stands among the values of either option. -/
def Lists (a : Arguments) (id : String) : Prop :=
  id ∈ a.disable.getD [] ∨ id ∈ a.enableOnly.getD []

/-- The context type that the values ask for; the default one when they ask for none, and the
empty text asks for none. -/
def effectiveType (a : Arguments) : String :=
  (a.contextType.filter (· ≠ "")).getD defaultContextType

/-- The values list the same identifiers, in any order and any number, and ask for the same
context type. -/
structure Agree (a b : Arguments) : Prop where
  disable : ∀ id, id ∈ b.disable.getD [] ↔ id ∈ a.disable.getD []
  enableOnly : ∀ id, id ∈ b.enableOnly.getD [] ↔ id ∈ a.enableOnly.getD []
  contextType : b.effectiveType = a.effectiveType

theorem effectiveType_ne_empty (a : Arguments) : a.effectiveType ≠ "" := by
  unfold effectiveType
  cases htype : a.contextType.filter (· ≠ "") with
  | none => decide
  | some type => exact of_decide_eq_true (Option.filter_eq_some_iff.1 htype).2

end Arguments

namespace Config

theorem contextType_ofGiven (a : Arguments) : (ofGiven a).contextType = a.effectiveType := by
  show (if a.contextType.getD "" = "" then _ else a.contextType.getD "") = a.effectiveType
  unfold Arguments.effectiveType
  cases a.contextType with
  | none => rfl
  | some type => by_cases htype : type = "" <;> simp [Option.filter, htype]

theorem disabled_ofGiven (a : Arguments) :
    (ofGiven a).disabled = OrderedSet.ofList (a.disable.getD []) := rfl

theorem enabledOnly_ofGiven (a : Arguments) :
    (ofGiven a).enabledOnly =
      if a.enableOnly.getD [] = [] then none
      else some (OrderedSet.ofList (a.enableOnly.getD [])) := by
  show (if (a.enableOnly.getD []).isEmpty then none else some (a.enableOnly.getD [])).map _ = _
  cases a.enableOnly.getD [] with
  | nil => rfl
  | cons id ids => rfl

theorem mem_named_ofGiven {a : Arguments} {id : String} :
    id ∈ (ofGiven a).named ↔ a.Lists id := by
  rw [named, OrderedSet.mem_ofList, List.mem_append, disabled_ofGiven, OrderedSet.mem_ofList,
    enabledOnly_ofGiven]
  refine or_congr_right ?_
  split
  · rename_i hempty
    rw [hempty]
    exact Iff.rfl
  · exact OrderedSet.mem_ofList

/-- A configuration keeps of the identifiers what a set keeps of them. -/
theorem ofGiven_eq_of_agree {a b : Arguments} (h : a.Agree b) : ofGiven b = ofGiven a := by
  have hset : ∀ {xs ys : List String}, (∀ id, id ∈ xs ↔ id ∈ ys) →
      OrderedSet.ofList xs = OrderedSet.ofList ys := by
    intro xs ys hmem
    apply OrderedSet.eq_of_mem_iff (OrderedSet.increasing_ofList _)
      (OrderedSet.increasing_ofList _)
    simpa only [OrderedSet.mem_ofList] using hmem
  have hempty : b.enableOnly.getD [] = [] ↔ a.enableOnly.getD [] = [] := by
    simp only [List.eq_nil_iff_forall_not_mem, h.enableOnly]
  have hdisabled : (ofGiven b).disabled = (ofGiven a).disabled := hset h.disable
  have henabled : (ofGiven b).enabledOnly = (ofGiven a).enabledOnly := by
    simp only [enabledOnly_ofGiven, hempty, hset h.enableOnly]
  have htype : (ofGiven b).contextType = (ofGiven a).contextType := by
    rw [contextType_ofGiven, contextType_ofGiven, h.contextType]
  show Config.mk (ofGiven b).disabled (ofGiven b).enabledOnly (ofGiven b).contextType = ofGiven a
  rw [hdisabled, henabled, htype]

/-- What is enabled: what the identifiers to enable say, and where there are none, all that is
not disabled. -/
theorem isEnabled_ofGiven (a : Arguments) (id : String) :
    (ofGiven a).isEnabled id = true ↔
      if a.enableOnly.getD [] = [] then id ∉ a.disable.getD [] else id ∈ a.enableOnly.getD [] := by
  unfold isEnabled
  rw [enabledOnly_ofGiven, disabled_ofGiven]
  by_cases hempty : a.enableOnly.getD [] = []
  · simp [if_pos hempty]
  · simp [if_neg hempty]

end Config

namespace Checker

/-- The values of the command line are refused for the least unknown identifier among them, or
else for a blank in the context type, and otherwise they give a checker.  Order and number of
the identifiers do not matter.  Identifiers to enable, if there are any, decide alone what is
enabled. -/
theorem make_ofGiven (a : Arguments) :
    (∀ id, make (.ofGiven a) = .error (.unknownIssue id) ↔ LeastUnknown a.Lists id) ∧
    (∀ type, make (.ofGiven a) = .error (.invalidContextType type) ↔
      AllRegistered a.Lists ∧ ' ' ∈ a.effectiveType.toList ∧ type = a.effectiveType) ∧
    ((∃ ck, make (.ofGiven a) = .ok ck ∧ ck.config = .ofGiven a) ↔
      (∀ id, ¬LeastUnknown a.Lists id) ∧
        ¬(AllRegistered a.Lists ∧ ' ' ∈ a.effectiveType.toList)) ∧
    (∀ b, a.Agree b → make (.ofGiven b) = make (.ofGiven a) ∧
      ∀ id, (Config.ofGiven b).isEnabled id = (Config.ofGiven a).isEnabled id) ∧
    ∀ id, (Config.ofGiven a).isEnabled id = true ↔
      if a.enableOnly.getD [] = [] then id ∉ a.disable.getD []
      else id ∈ a.enableOnly.getD [] := by
  have hlists : (· ∈ (Config.ofGiven a).named) = a.Lists :=
    funext fun id => propext Config.mem_named_ofGiven
  have hbad : Config.IsBadType (Config.ofGiven a).contextType ↔
      ' ' ∈ a.effectiveType.toList := by
    rw [Config.contextType_ofGiven]
    exact or_iff_right a.effectiveType_ne_empty
  refine ⟨?_, ?_, ?_, ?_, Config.isEnabled_ofGiven a⟩
  · intro id
    rw [make_eq_error_iff, Config.validate_eq_unknown_iff, hlists]
  · intro type
    rw [make_eq_error_iff, Config.validate_eq_invalid_iff, hlists, hbad,
      Config.contextType_ofGiven]
  · rw [exists_make_iff, Config.validate_eq_ok_iff, hlists, hbad]
  · intro b h
    rw [Config.ofGiven_eq_of_agree h]
    exact ⟨rfl, fun _ => rfl⟩

/-! ### Several unknown identifiers

The identifiers `Nope`, `Bad` and `Odd` are not in the catalog, and the context type would not
do either. -/

namespace Unknown

def given : Arguments := ⟨some ["Nope", "ContextAccess", "Nope"], some ["Odd", "Bad"], some "a b"⟩

def regrouped : Arguments :=
  ⟨some ["ContextAccess", "Nope"], some ["Bad", "Odd", "Bad"], some "a b"⟩

theorem agree : given.Agree regrouped := by
  refine ⟨?_, ?_, rfl⟩
  · intro id
    simp only [given, regrouped, Option.getD_some, List.mem_cons, List.not_mem_nil, or_false]
    grind
  · intro id
    simp only [given, regrouped, Option.getD_some, List.mem_cons, List.not_mem_nil, or_false]
    grind

end Unknown

theorem make_ofGiven_unknown :
    Unknown.given.Agree Unknown.regrouped ∧ LeastUnknown Unknown.given.Lists "Bad" ∧
      make (.ofGiven Unknown.regrouped) = .error (.unknownIssue "Bad") ∧
      (Config.ofGiven Unknown.regrouped).isEnabled "Odd" = true ∧
      (Config.ofGiven Unknown.regrouped).isEnabled "MethodNameIsIncoherent" = false := by
  obtain ⟨hunknown, -, -, hagree, henabled⟩ := make_ofGiven Unknown.given
  obtain ⟨hmake, hsame⟩ := hagree Unknown.regrouped Unknown.agree
  have hbad : make (.ofGiven Unknown.given) = .error (.unknownIssue "Bad") :=
    make_eq_error_iff.2 (by decide +kernel)
  refine ⟨Unknown.agree, (hunknown "Bad").1 hbad, hmake.trans hbad, ?_, ?_⟩
  · rw [hsame, henabled]
    decide
  · rw [hsame, ← Bool.not_eq_true, henabled]
    decide

end Checker
end RoleNaming
