/-
The lines of a report can be told apart.

A problem is shown as a place, a severity, a message and an identifier, with nothing
escaped: the path and the context type may hold the very marks that divide the line.
`format_eq_iff` says that two problems which runs report never share a line all the same.
The line is read from its end.  Behind the last bracket stands the identifier, behind the
last `: warning: ` the message, and behind the last colons of what is left the numbers; in
each case the part behind the mark cannot bring in a later one (`EndsAfter`).  For the
messages this hangs on the context type having no blanks.
-/
import RoleNaming.Proofs.Numeral
import RoleNaming.Proofs.SourceOrder

namespace RoleNaming
namespace Text

/-! ## Reading from the end -/

/-- Behind `sep`, the text `v` brings no further `sep`. -/
def EndsAfter (sep v : List Char) : Prop := ∀ z w, sep ++ v = z ++ (sep ++ w) → z = []

theorem append_sep_inj {sep u u' v v' : List Char} (hv : EndsAfter sep v) (hv' : EndsAfter sep v')
    (h : u ++ (sep ++ v) = u' ++ (sep ++ v')) : u = u' ∧ v = v' := by
  rcases List.append_eq_append_iff.1 h with ⟨z, hu, hz⟩ | ⟨z, hu, hz⟩
  · obtain rfl := hv z v' hz
    exact ⟨by simpa using hu.symm, by simpa using hz⟩
  · obtain rfl := hv' z v hz
    exact ⟨by simpa using hu, by simpa using hz.symm⟩

/-- A text without the last character of the mark is safe behind anything that is.  A mark
further on would have to end in the text itself. -/
theorem endsAfter_append {sep fixed tail : List Char} {c : Char} (hlast : sep.getLast? = some c)
    (hfixed : occursIn sep (sep ++ fixed).tail = false) (htail : c ∉ tail) :
    EndsAfter sep (fixed ++ tail) := by
  intro z w h
  rw [← List.append_assoc, ← List.append_assoc] at h
  have hinside : ∃ rest, sep ++ fixed = z ++ sep ++ rest := by
    rcases List.append_eq_append_iff.1 h with ⟨rest, hrest, htail'⟩ | ⟨rest, hrest, -⟩
    · rcases List.eq_nil_or_concat rest with rfl | ⟨init, d, rfl⟩
      · exact ⟨[], by simpa using hrest.symm⟩
      · have hd : (z ++ sep).getLast? = some d := by
          rw [hrest, List.concat_eq_append, ← List.append_assoc, List.getLast?_concat]
        rw [List.getLast?_append, hlast] at hd
        obtain rfl : c = d := by simpa using hd
        exact absurd (by rw [htail']; simp) htail
    · exact ⟨rest, hrest⟩
  obtain ⟨rest, hrest⟩ := hinside
  cases z with
  | nil => rfl
  | cons x z =>
    have hoccurs : occursIn sep (sep ++ fixed).tail = true := by
      rw [occursIn_iff]
      exact ⟨z, rest, by rw [hrest]; rfl⟩
    rw [hfixed] at hoccurs
    cases hoccurs

theorem endsAfter_colon (n : Int) : EndsAfter [':'] (intDigits n) := by
  have hfixed : occursIn [':'] ([':'] ++ []).tail = false := rfl
  exact endsAfter_append rfl hfixed (colon_not_mem_intDigits n)

end Text

open Text Syntax Rule

/-! ## Messages -/

namespace Finding

/-- The type that a finding names. -/
def type? : Finding → Option String
  | .contextMistyped type | .contextTypePassed type => some type
  | .listenerUnsaid | .listenerUnbacked | .contextUnbacked | .contextCalled | .contextPassed => none

/-- The message up to the type. -/
def opening : Finding → String
  | .contextMistyped _ => "This code does not mention parameter of type "
  | .contextTypePassed _ => "This code mentions parameter of type "
  | f => f.message

theorem message_eq (f : Finding) : f.message = f.opening ++ f.type?.getD "" := by
  cases f with
  | contextMistyped type | contextTypePassed type => rfl
  | listenerUnsaid | listenerUnbacked | contextUnbacked | contextCalled | contextPassed => rfl

theorem severity_kind (f : Finding) : f.kind.severity = .warning := by
  cases f <;> rfl

theorem kind_mem_kinds (f : Finding) : f.kind ∈ Catalog.kinds := by
  cases f <;> simp [kind, Catalog.kinds]

theorem kind_eq_of_id {f g : Finding} (h : f.kind.id = g.kind.id) : f.kind = g.kind := by
  have hkinds : ∀ k ∈ Catalog.kinds, ∀ l ∈ Catalog.kinds, k.id = l.id → k = l := by
    decide +kernel
  exact hkinds _ f.kind_mem_kinds _ g.kind_mem_kinds h

theorem endsAfter_id (f : Finding) : EndsAfter " [".toList (f.kind.id.toList ++ [']']) := by
  have hids : ∀ k ∈ Catalog.kinds,
      occursIn " [".toList (" [".toList ++ k.id.toList).tail = false := by
    decide
  have hbracket : '[' ∉ [']'] := by decide
  exact endsAfter_append rfl (hids _ f.kind_mem_kinds) hbracket

theorem endsAfter_message {f : Finding} (h : ∀ type ∈ f.type?, ' ' ∉ type.toList) :
    EndsAfter ": warning: ".toList f.message.toList := by
  have hopening : occursIn ": warning: ".toList (": warning: ".toList ++ f.opening.toList).tail =
      false := by
    cases f <;> dsimp only [opening, message] <;> decide +kernel
  have htail : ' ' ∉ (f.type?.getD "").toList := by
    cases htype : f.type? with
    | none => exact List.not_mem_nil
    | some type => exact h type htype
  rw [message_eq, String.toList_append]
  exact endsAfter_append rfl hopening htail

end Finding

/-! ## Problems that runs report -/

namespace Rule

theorem type_of_mem_checkMethod {v : Visibility} {contextType : String} {m : View.Method}
    {f : Finding} (h : f ∈ checkMethod v contextType m) : ∀ type ∈ f.type?, type = contextType := by
  unfold checkMethod checkListener checkContext at h
  intro type htype
  cases f with
  | contextMistyped t => grind [Finding.type?]
  | contextTypePassed t => grind
  | listenerUnsaid | listenerUnbacked | contextUnbacked | contextCalled | contextPassed =>
    cases htype

theorem type_of_mem_checkCall {bytes : Bytes} {v : Visibility} {contextType : String}
    {c : View.Call} {f : Finding} (h : f ∈ checkCall bytes v contextType c) :
    ∀ type ∈ f.type?, type = contextType := by
  unfold checkCall checkCallee checkArguments at h
  intro type htype
  cases f with
  | contextMistyped t => grind
  | contextTypePassed t => grind [Finding.type?]
  | listenerUnsaid | listenerUnbacked | contextUnbacked | contextCalled | contextPassed =>
    cases htype

/-- The rules name no other type than the context type they are given. -/
theorem type_of_mem_findings {v : FileView} {contextType : String} {s : Site} {f : Finding}
    (h : f ∈ findings v contextType s) : ∀ type ∈ f.type?, type = contextType := by
  unfold findings at h
  split at h
  · exact type_of_mem_checkMethod h
  · split at h
    · exact type_of_mem_checkCall h
    · cases h

end Rule

namespace Checker

theorem blank_not_mem_contextType (ck : Checker) : ' ' ∉ ck.config.contextType.toList :=
  (Config.contextType_of_validate ck.valid).2

theorem exists_finding {ck : Checker} {faulty : Nat → Bool} {k : Nat} {src : Source}
    {path : String} {i : Issue} (h : i ∈ (ck.checkSource faulty k src path).issues) :
    ∃ n f, i = Finding.issue n path f ∧ ∀ type ∈ f.type?, ' ' ∉ type.toList := by
  rw [(ck.checkSource_isolated faulty k src path).1] at h
  obtain ⟨⟨s, number⟩, -, hfound⟩ := List.mem_flatMap.1 (List.mem_filter.1 h).1
  unfold foundAt at hfound
  split at hfound
  · cases hfound
  · obtain ⟨f, hf, rfl⟩ := List.mem_map.1 hfound
    refine ⟨s.node, f, rfl, ?_⟩
    intro type htype
    rw [type_of_mem_findings hf type htype]
    exact ck.blank_not_mem_contextType

end Checker

namespace Issue

/-- The place of a problem without its column. -/
def lead (i : Issue) : List Char :=
  if i.path = "" then intDigits i.line else i.path.toList ++ ([':'] ++ intDigits i.line)

theorem toList_place (i : Issue) : i.place.toList = i.lead ++ ([':'] ++ intDigits i.col) := by
  unfold place lead
  split
  · simp [decimal]
  · simp [decimal]

theorem toList_format {i : Issue} (h : i.kind.severity = .warning) :
    i.format.toList =
      i.place.toList ++ (": warning: ".toList ++ i.message.toList) ++
        (" [".toList ++ (i.kind.id.toList ++ [']'])) := by
  rw [format, h]
  simp [Severity.label]

/-- A place is read from its end, too: first the column, then the line, and what is left is
the path.  Without a path no colon is left. -/
theorem eq_of_lead_eq {i j : Issue} (h : i.lead = j.lead) : i.path = j.path ∧ i.line = j.line := by
  have hcolon : ∀ (path : String) (m n : Int),
      intDigits m ≠ path.toList ++ ([':'] ++ intDigits n) := by
    intro path m n heq
    apply colon_not_mem_intDigits m
    rw [heq]
    simp
  unfold lead at h
  by_cases hi : i.path = ""
  · by_cases hj : j.path = ""
    · rw [if_pos hi, if_pos hj] at h
      exact ⟨hi.trans hj.symm, intDigits_inj h⟩
    · rw [if_pos hi, if_neg hj] at h
      exact absurd h (hcolon _ _ _)
  · by_cases hj : j.path = ""
    · rw [if_neg hi, if_pos hj] at h
      exact absurd h.symm (hcolon _ _ _)
    · rw [if_neg hi, if_neg hj] at h
      obtain ⟨hpath, hline⟩ := append_sep_inj (endsAfter_colon _) (endsAfter_colon _) h
      exact ⟨String.toList_injective hpath, intDigits_inj hline⟩

end Issue

namespace Checker

/-- Whatever runs report them, under whatever settings and paths, two problems with the same
line of text are the same. -/
theorem format_eq_iff {ck ck' : Checker} {faulty faulty' : Nat → Bool} {k k' : Nat}
    {src src' : Source} {path path' : String} {i j : Issue}
    (hi : i ∈ (ck.checkSource faulty k src path).issues)
    (hj : j ∈ (ck'.checkSource faulty' k' src' path').issues) : i.format = j.format ↔ i = j := by
  constructor
  · intro h
    obtain ⟨m, f, rfl, hf⟩ := exists_finding hi
    obtain ⟨n, g, rfl, hg⟩ := exists_finding hj
    have hlines := congrArg String.toList h
    rw [Issue.toList_format f.severity_kind, Issue.toList_format g.severity_kind] at hlines
    -- From the end: the identifier, the message, the column, and then the line and the path.
    obtain ⟨hfront, hid⟩ := append_sep_inj f.endsAfter_id g.endsAfter_id hlines
    obtain ⟨hplace, hmessage⟩ :=
      append_sep_inj (Finding.endsAfter_message hf) (Finding.endsAfter_message hg) hfront
    rw [Issue.toList_place, Issue.toList_place] at hplace
    obtain ⟨hlead, hcol⟩ := append_sep_inj (endsAfter_colon _) (endsAfter_colon _) hplace
    obtain ⟨hpath, hline⟩ := Issue.eq_of_lead_eq hlead
    have hkind := Finding.kind_eq_of_id (String.toList_injective (List.append_cancel_right hid))
    have htext : f.message = g.message := String.toList_injective hmessage
    have hcolumn := intDigits_inj hcol
    rw [Issue.mk.injEq]
    exact ⟨hkind, hline, hcolumn, htext, hpath⟩
  · intro h
    rw [h]

theorem format_eq_iff_numeral :
    let i := Finding.issue Calls.outer "" .contextPassed
    let j := Finding.issue Calls.outer "1" .contextPassed
    i ∈ (Calls.checker.checkSource (fun _ => false) 0 Calls.source "").issues ∧
      j ∈ (Calls.checker.checkSource (fun _ => false) 0 Calls.source "1").issues ∧
      i.format ≠ j.format := by
  intro i j
  have hi : i ∈ (Calls.checker.checkSource (fun _ => false) 0 Calls.source "").issues := by
    decide +kernel
  have hj : j ∈ (Calls.checker.checkSource (fun _ => false) 0 Calls.source "1").issues := by
    decide +kernel
  have hpaths : i ≠ j := by decide +kernel
  exact ⟨hi, hj, (format_eq_iff hi hj).not.2 hpaths⟩

end Checker
end RoleNaming
