/-
Finite sets as strictly increasing lists.  Names, identifiers and paths are
gathered in any order and shown in increasing order without repetition.
-/

namespace RoleNaming
namespace OrderedSet

variable {α : Type} [LT α] [DecidableLT α] [DecidableEq α]

/-- Put an element in its place; one that is there already stays once. -/
def insert (x : α) : List α → List α
  | [] => [x]
  | y :: ys =>
    if x = y then y :: ys
    else if x < y then x :: y :: ys
    else y :: insert x ys

def ofList (xs : List α) : List α := xs.foldr insert []

@[simp] theorem mem_insert {x a : α} {ys : List α} : a ∈ insert x ys ↔ a = x ∨ a ∈ ys := by
  induction ys with
  | nil => simp [insert]
  | cons y ys ih =>
    unfold insert
    by_cases hxy : x = y
    · rw [if_pos hxy]
      constructor
      · exact Or.inr
      · intro h
        rcases h with h | h
        · rw [h, hxy]
          exact List.mem_cons_self
        · exact h
    · rw [if_neg hxy]
      by_cases hlt : x < y
      · rw [if_pos hlt]
        exact List.mem_cons
      · rw [if_neg hlt, List.mem_cons, ih, List.mem_cons]
        constructor
        · intro h
          rcases h with h | h | h
          · exact Or.inr (Or.inl h)
          · exact Or.inl h
          · exact Or.inr (Or.inr h)
        · intro h
          rcases h with h | h | h
          · exact Or.inr (Or.inl h)
          · exact Or.inl h
          · exact Or.inr (Or.inr h)

/-- The set of a list holds what the list holds. -/
@[simp] theorem mem_ofList {a : α} {xs : List α} : a ∈ ofList xs ↔ a ∈ xs := by
  induction xs with
  | nil => simp [ofList]
  | cons x xs ih =>
    show a ∈ insert x (ofList xs) ↔ _
    rw [mem_insert, ih, List.mem_cons]

theorem insert_perm {x : α} {ys : List α} (h : x ∉ ys) : (insert x ys).Perm (x :: ys) := by
  induction ys with
  | nil => exact .refl _
  | cons y ys ih =>
    rw [List.mem_cons, not_or] at h
    unfold insert
    rw [if_neg h.1]
    by_cases hlt : x < y
    · rw [if_pos hlt]
    · rw [if_neg hlt]
      exact ((ih h.2).cons y).trans (.swap x y ys)

/-- Without repetition, the set of a list is the list in another order. -/
theorem ofList_perm {xs : List α} (h : xs.Nodup) : (ofList xs).Perm xs := by
  induction xs with
  | nil => exact .refl _
  | cons x xs ih =>
    rw [List.nodup_cons] at h
    have hx : x ∉ ofList xs := by
      rw [mem_ofList]
      exact h.1
    exact (insert_perm hx).trans ((ih h.2).cons x)

/-! ## The order

Sets are lists in increasing order, so that equal sets are equal lists. -/

section

variable [Trans (α := α) (· < ·) (· < ·) (· < ·)]

theorem increasing_insert [Std.Trichotomous (α := α) (· < ·)] (x : α) {ys : List α}
    (h : ys.Pairwise (· < ·)) : (insert x ys).Pairwise (· < ·) := by
  induction ys with
  | nil => exact List.pairwise_singleton _ _
  | cons y ys ih =>
    obtain ⟨hy, hys⟩ := List.pairwise_cons.1 h
    unfold insert
    by_cases heq : x = y
    · rw [if_pos heq]
      exact h
    rw [if_neg heq]
    by_cases hlt : x < y
    · rw [if_pos hlt]
      refine List.pairwise_cons.2 ⟨fun z hz => ?_, h⟩
      rcases List.mem_cons.1 hz with hz | hz
      · rw [hz]
        exact hlt
      · exact Trans.trans hlt (hy z hz)
    · rw [if_neg hlt]
      refine List.pairwise_cons.2 ⟨fun z hz => ?_, ih hys⟩
      rcases mem_insert.1 hz with hz | hz
      · rw [hz]
        exact Classical.byContradiction fun hge =>
          heq (Std.Trichotomous.trichotomous x y hlt hge)
      · exact hy z hz

theorem increasing_ofList [Std.Trichotomous (α := α) (· < ·)] (xs : List α) :
    (ofList xs).Pairwise (· < ·) := by
  induction xs with
  | nil => exact .nil
  | cons x xs ih => exact increasing_insert x ih

omit [DecidableLT α] [DecidableEq α] in
theorem eq_of_mem_iff [Std.Irrefl (α := α) (· < ·)] {xs ys : List α}
    (hxs : xs.Pairwise (· < ·)) (hys : ys.Pairwise (· < ·)) (h : ∀ a, a ∈ xs ↔ a ∈ ys) :
    xs = ys := by
  have hne : ∀ {a b : α}, a < b → a ≠ b := by
    intro a b hlt heq
    rw [heq] at hlt
    exact Std.Irrefl.irrefl b hlt
  have hperm : xs.Perm ys :=
    (List.perm_ext_iff_of_nodup (hxs.imp hne) (hys.imp hne)).2 h
  refine hperm.eq_of_pairwise ?_ hxs hys
  intro a b _ _ hab hba
  exact absurd (Trans.trans hab hba) (Std.Irrefl.irrefl a)

omit [DecidableLT α] [DecidableEq α] in
/-- The first element with a property is the least one that has it. -/
theorem find?_eq_some_iff_least [Std.Irrefl (α := α) (· < ·)] {xs : List α}
    (h : xs.Pairwise (· < ·)) {p : α → Bool} {x : α} :
    xs.find? p = some x ↔ x ∈ xs ∧ p x = true ∧ ∀ y ∈ xs, p y = true → ¬y < x := by
  induction xs with
  | nil => simp
  | cons y ys ih =>
    obtain ⟨hy, hys⟩ := List.pairwise_cons.1 h
    by_cases hp : p y = true
    · rw [List.find?_cons_of_pos hp, Option.some.injEq]
      constructor
      · intro heq
        subst heq
        refine ⟨List.mem_cons_self, hp, ?_⟩
        intro z hz _ hlt
        rcases List.mem_cons.1 hz with heq | hz
        · exact Std.Irrefl.irrefl y (heq ▸ hlt)
        · exact Std.Irrefl.irrefl y (Trans.trans (hy z hz) hlt)
      · intro ⟨hx, _, hleast⟩
        rcases List.mem_cons.1 hx with heq | hx
        · exact heq.symm
        · exact absurd (hy x hx) (hleast y List.mem_cons_self hp)
    · rw [List.find?_cons_of_neg hp, ih hys]
      constructor
      · intro ⟨hx, hpx, hleast⟩
        refine ⟨List.mem_cons_of_mem y hx, hpx, ?_⟩
        intro z hz hpz
        rcases List.mem_cons.1 hz with heq | hz
        · exact absurd (heq ▸ hpz) hp
        · exact hleast z hz hpz
      · intro ⟨hx, hpx, hleast⟩
        rcases List.mem_cons.1 hx with heq | hx
        · exact absurd (heq ▸ hpx) hp
        · exact ⟨hx, hpx, fun z hz => hleast z (List.mem_cons_of_mem y hz)⟩

end

end OrderedSet
end RoleNaming
