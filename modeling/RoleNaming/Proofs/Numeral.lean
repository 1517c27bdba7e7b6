/-
Numbers in decimal notation: their digits tell them apart and are nothing but digits, and
only zero starts with one.
-/
import RoleNaming.Text.Decimal

namespace RoleNaming
namespace Text

theorem natDigits_inj {m n : Nat} (h : natDigits m = natDigits n) : m = n := by
  have hread := congrArg (Nat.ofDigitChars 10 · 0) h
  simpa [natDigits] using hread

theorem isDigit_of_mem_natDigits {n : Nat} {c : Char} (h : c ∈ natDigits n) : c.isDigit = true :=
  Nat.isDigit_of_mem_toDigits (by decide) (by decide) h

theorem exists_natDigits_eq_cons (n : Nat) :
    ∃ d ds, natDigits n = d :: ds ∧ d.isDigit = true := by
  cases h : natDigits n with
  | nil => exact absurd h Nat.toDigits_ne_nil
  | cons d ds => exact ⟨d, ds, rfl, isDigit_of_mem_natDigits (by rw [h]; exact List.mem_cons_self)⟩

/-- The first digit of a number is that of its tenth. -/
theorem head?_natDigits {n : Nat} (h : 0 < n) : (natDigits n).head? ≠ some '0' := by
  induction n using Nat.strongRecOn with
  | ind n ih =>
    unfold natDigits at *
    by_cases hn : n < 10
    · rw [Nat.toDigits_of_lt_base hn]
      have hdigits : ∀ d < 10, 0 < d → [d.digitChar].head? ≠ some '0' := by decide
      exact hdigits n hn h
    · have htenth := ih (n / 10) (by omega) (by omega)
      rw [Nat.toDigits_of_base_le (by decide) (by omega)]
      cases hdigits : Nat.toDigits 10 (n / 10) with
      | nil => exact absurd hdigits Nat.toDigits_ne_nil
      | cons d ds =>
        rw [hdigits] at htenth
        exact htenth

theorem colon_not_mem_intDigits (n : Int) : ':' ∉ intDigits n := by
  cases n with
  | ofNat n =>
    intro h
    exact absurd (isDigit_of_mem_natDigits h) (by decide)
  | negSucc n =>
    intro h
    cases List.mem_cons.1 h with
    | inl hsign => exact absurd hsign (by decide)
    | inr hdigit => exact absurd (isDigit_of_mem_natDigits hdigit) (by decide)

theorem exists_intDigits_eq_cons (n : Int) :
    ∃ c cs, intDigits n = c :: cs ∧ (c.isDigit = true ∨ c = '-') := by
  cases n with
  | ofNat n =>
    obtain ⟨d, ds, hdigits, hd⟩ := exists_natDigits_eq_cons n
    exact ⟨d, ds, hdigits, Or.inl hd⟩
  | negSucc n => exact ⟨'-', natDigits (n + 1), rfl, Or.inr rfl⟩

theorem minus_not_mem_natDigits (n : Nat) : '-' ∉ natDigits n := by
  intro h
  exact absurd (isDigit_of_mem_natDigits h) (by decide)

theorem intDigits_inj {m n : Int} (h : intDigits m = intDigits n) : m = n := by
  cases m with
  | ofNat m =>
    cases n with
    | ofNat n => rw [natDigits_inj h]
    | negSucc n =>
      have hminus : '-' ∈ natDigits m := by
        rw [show natDigits m = '-' :: natDigits (n + 1) from h]
        exact List.mem_cons_self
      exact absurd hminus (minus_not_mem_natDigits m)
  | negSucc m =>
    cases n with
    | ofNat n =>
      have hminus : '-' ∈ natDigits n := by
        rw [← show '-' :: natDigits (m + 1) = natDigits n from h]
        exact List.mem_cons_self
      exact absurd hminus (minus_not_mem_natDigits n)
    | negSucc n =>
      have hdigits : natDigits (m + 1) = natDigits (n + 1) := (List.cons.inj h).2
      have hsucc := natDigits_inj hdigits
      obtain rfl : m = n := by omega
      rfl

end Text
end RoleNaming
