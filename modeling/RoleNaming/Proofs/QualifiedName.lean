/-
Qualified names.

`IsCut` says what it is to cut a name at its last dot, and `isCut_iff` that
`packageOf` and `simpleName` do so.  `IsQualified` picks out the names that are
identifiers joined by dots; no type that ends in three dots is one of them or the
simple name of one.
-/
import RoleNaming.Text.Blank
import RoleNaming.Text.CharClass
import RoleNaming.Text.Search

namespace RoleNaming
namespace Text

/-! ## The last dot -/

/-- The name `q` is the simple name `simple` in `package`: it is cut at its last
dot, and a name without a dot has the empty package. -/
def IsCut (q package simple : String) : Prop :=
  '.' ∉ simple.toList ∧ (q = package ++ "." ++ simple ∨ package = "" ∧ q = simple)

theorem cutFirst_append {sep : Char} {before : List Char} (h : sep ∉ before)
    (after : List Char) :
    cutFirst sep (before ++ sep :: after) = some (before, after) := by
  induction before with
  | nil => simp [cutFirst]
  | cons c before ih =>
    obtain ⟨hc, hbefore⟩ := not_or.1 (fun hmem => h (List.mem_cons.2 hmem))
    rw [List.cons_append, cutFirst, if_neg (Ne.symm hc), ih hbefore]
    rfl

theorem cutFirst_eq_none {sep : Char} {cs : List Char} (h : sep ∉ cs) : cutFirst sep cs = none := by
  induction cs with
  | nil => rfl
  | cons c cs ih =>
    obtain ⟨hc, hcs⟩ := not_or.1 (fun hmem => h (List.mem_cons.2 hmem))
    rw [cutFirst, if_neg (Ne.symm hc), ih hcs]
    rfl

theorem splitQualified_of_isCut {q package simple : String} (h : IsCut q package simple) :
    splitQualified q = (package, simple) := by
  obtain ⟨hdot, rfl | ⟨rfl, rfl⟩⟩ := h
  · have hrev : (package ++ "." ++ simple).toList.reverse =
        simple.toList.reverse ++ '.' :: package.toList.reverse := by simp
    have hcut := cutFirst_append (fun hmem => hdot (List.mem_reverse.1 hmem))
      package.toList.reverse
    rw [splitQualified, hrev, hcut]
    simp
  · have hcut := cutFirst_eq_none (fun hmem => hdot (List.mem_reverse.1 hmem))
    rw [splitQualified, hcut]

/-- Every name can be cut. -/
theorem exists_isCut (q : String) : ∃ package simple, IsCut q package simple := by
  by_cases h : '.' ∈ q.toList.reverse
  · obtain ⟨after, before, hq, hdot⟩ := List.eq_append_cons_of_mem h
    refine ⟨String.ofList before.reverse, String.ofList after.reverse, ?_, Or.inl ?_⟩
    · simpa using hdot
    · apply String.toList_injective
      have hq' := congrArg List.reverse hq
      simpa using hq'
  · exact ⟨"", q, fun hmem => h (List.mem_reverse.2 hmem), Or.inr ⟨rfl, rfl⟩⟩

/-- So `packageOf` and `simpleName` are the two parts of the cut. -/
theorem isCut_iff {q package simple : String} :
    IsCut q package simple ↔ packageOf q = package ∧ simpleName q = simple := by
  constructor
  · intro h
    rw [packageOf, simpleName, splitQualified_of_isCut h]
    exact ⟨rfl, rfl⟩
  · rintro ⟨rfl, rfl⟩
    obtain ⟨package, simple, h⟩ := exists_isCut q
    rw [packageOf, simpleName, splitQualified_of_isCut h]
    exact h

theorem isCut_self (q : String) : IsCut q (packageOf q) (simpleName q) := isCut_iff.2 ⟨rfl, rfl⟩

/-! ## Identifiers joined by dots -/

/-- Characters of Java identifiers.  Of ASCII these are letters, digits, two signs and
the control characters that an identifier may hold; past ASCII the class is not
narrowed down to letters, since nothing here hangs on which of them count. -/
def identifierChars : CharClass :=
  [(0x00, 0x08), (0x0E, 0x1B), (0x24, 0x24), (0x30, 0x39), (0x41, 0x5A), (0x5F, 0x5F),
   (0x61, 0x7A), (0x7F, 0x10FFFF)]

def IsIdentifier (w : List Char) : Prop := w ≠ [] ∧ ∀ c ∈ w, identifierChars.has c.toNat = true

instance (w : List Char) : Decidable (IsIdentifier w) :=
  decidable_of_iff (w ≠ [] ∧ (w.all fun c => identifierChars.has c.toNat) = true)
    (and_congr_right fun _ => List.all_eq_true)

inductive IsQualified : List Char → Prop where
  | simple {w : List Char} (h : IsIdentifier w) : IsQualified w
  | dot {w rest : List Char} (h : IsIdentifier w) (hrest : IsQualified rest) :
      IsQualified (w ++ '.' :: rest)

theorem not_dot_of_isIdentifier {w : List Char} (h : IsIdentifier w) : '.' ∉ w := by
  intro hdot
  have hhas := h.2 '.' hdot
  exact absurd hhas (by decide)

theorem ne_nil_of_isQualified {cs : List Char} (h : IsQualified cs) : cs ≠ [] := by
  cases h with
  | simple h => exact h.1
  | dot h _ => simp

theorem getLast?_ne_dot {cs : List Char} (h : IsQualified cs) : cs.getLast? ≠ some '.' := by
  induction h with
  | simple h =>
    intro hlast
    exact not_dot_of_isIdentifier h (List.mem_of_getLast? hlast)
  | @dot w rest _ hrest ih =>
    have hne := ne_nil_of_isQualified hrest
    rw [List.getLast?_append, List.getLast?_cons_of_ne_nil hne]
    cases hlast : rest.getLast? with
    | none => exact absurd (List.getLast?_eq_none_iff.1 hlast) hne
    | some c =>
      rw [hlast] at ih
      exact ih

/-- All characters of a qualified name are dots or stand in identifiers. -/
theorem char_of_isQualified {cs : List Char} (h : IsQualified cs) {c : Char} (hc : c ∈ cs) :
    c = '.' ∨ identifierChars.has c.toNat = true := by
  induction h with
  | simple h => exact Or.inr (h.2 c hc)
  | dot h _ ih =>
    rcases List.mem_append.1 hc with hc | hc
    · exact Or.inr (h.2 c hc)
    · rcases List.mem_cons.1 hc with rfl | hc
      · exact Or.inl rfl
      · exact ih hc

theorem mem_of_mem_simpleName {q : String} {c : Char} (hc : c ∈ (simpleName q).toList) :
    c ∈ q.toList := by
  obtain ⟨-, hq | ⟨-, hq⟩⟩ := isCut_self q
  · rw [hq]
    simp [hc]
  · rwa [hq]

/-! ## Types that end in dots

The type of a parameter that takes a variable number of arguments. -/

theorem toList_squeeze_dots (t : String) :
    (squeeze (t ++ "...")).toList = (squeeze t).toList ++ ['.', '.', '.'] := by
  rw [toList_squeeze, toList_squeeze, String.toList_append, List.filter_append]
  rfl

theorem squeeze_dots_ne {q : String} (hq : IsQualified q.toList) (t : String) :
    squeeze (t ++ "...") ≠ q := by
  intro h
  apply getLast?_ne_dot hq
  rw [← h, toList_squeeze_dots, List.getLast?_append]
  rfl

theorem squeeze_dots_ne_simpleName (q t : String) : squeeze (t ++ "...") ≠ simpleName q := by
  intro h
  apply (isCut_self q).1
  rw [← h, toList_squeeze_dots]
  simp

end Text
end RoleNaming
