/-
Searching and cutting texts: whether one text occurs in another, how a text
ends, and the last dot of a qualified name.
-/

namespace RoleNaming
namespace Text

/-- Whether `w` stands somewhere in the list. -/
def occursIn {α : Type} [BEq α] (w : List α) : List α → Bool
  | [] => w.isEmpty
  | x :: xs => w.isPrefixOf (x :: xs) || occursIn w xs

theorem occursIn_iff {α : Type} [BEq α] [LawfulBEq α] {w xs : List α} :
    occursIn w xs = true ↔ ∃ u v, xs = u ++ w ++ v := by
  induction xs with
  | nil =>
    simp only [occursIn, List.isEmpty_iff]
    constructor
    · rintro rfl; exact ⟨[], [], rfl⟩
    · rintro ⟨u, v, h⟩
      have := congrArg List.length h
      simp only [List.length_nil, List.length_append] at this
      exact List.length_eq_zero_iff.mp (by omega)
  | cons x xs ih =>
    simp only [occursIn, Bool.or_eq_true, List.isPrefixOf_iff_prefix, ih]
    constructor
    · rintro (⟨v, h⟩ | ⟨u, v, h⟩)
      · exact ⟨[], v, h.symm⟩
      · exact ⟨x :: u, v, by simp [h]⟩
    · rintro ⟨u, v, h⟩
      cases u with
      | nil => exact Or.inl ⟨v, h.symm⟩
      | cons y u =>
        simp only [List.cons_append, List.cons.injEq] at h
        exact Or.inr ⟨u, v, h.2⟩

/-- Whether the text holds `word`. -/
def mentions (word s : String) : Bool := occursIn word.toList s.toList

/-- Whether the text ends in `tail`. -/
def endsIn (tail s : String) : Bool := tail.toList.isSuffixOf s.toList

/-- The part before the first `sep` and the part after it, when there is one. -/
def cutFirst (sep : Char) : List Char → Option (List Char × List Char)
  | [] => none
  | c :: cs =>
    if c = sep then some ([], cs)
    else (cutFirst sep cs).map fun (before, after) => (c :: before, after)

/-- A qualified name as its package and its simple name: what stands before
and after the last dot.  A name without a dot has the empty package. -/
def splitQualified (q : String) : String × String :=
  match cutFirst '.' q.toList.reverse with
  | some (simple, package) => (String.ofList package.reverse, String.ofList simple.reverse)
  | none => ("", q)

def packageOf (q : String) : String := (splitQualified q).1

def simpleName (q : String) : String := (splitQualified q).2

end Text
end RoleNaming
