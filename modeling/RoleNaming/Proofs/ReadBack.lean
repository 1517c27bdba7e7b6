/-
Documents are read back as they were written.

The printer knows one way to write a document and the reader many to read one, so the two
share no code.  `value_printed` brings them together: in front of any text that does not
run on as a number, the reader takes exactly what the printer wrote and makes the same
document of it.  A string goes through its units of sixteen bits (`utf16`), which the
printer writes as escapes and the reader puts together again.  The fuel of the reader is
measured by the text that is left.

So what the command prints of its problems can be read back (`parse?_stdout_perform`).
-/
import Mathlib.Tactic.SplitIfs
import RoleNaming.Command.Run
import RoleNaming.Json.Reader
import RoleNaming.Proofs.Numeral

namespace RoleNaming
namespace Json

open Text

/-! ## Strings -/

/-- The units of sixteen bits of a character. -/
def utf16 (c : Char) : List Nat :=
  if c.toNat < 0x10000 then [c.toNat]
  else [0xD800 + (c.toNat - 0x10000) / 0x400, 0xDC00 + (c.toNat - 0x10000) % 0x400]

theorem hexValue?_hexDigit {d : Nat} (h : d < 16) : hexValue? (hexDigit d) = some d := by
  have hdigits : ∀ d < 16, hexValue? (hexDigit d) = some d := by decide
  exact hdigits d h

/-- Code points leave out the surrogates. -/
theorem toNat_cases (c : Char) : c.toNat < 0xD800 ∨ 0xDFFF < c.toNat ∧ c.toNat < 0x110000 :=
  c.valid

namespace Reader

theorem units_unit {n : Nat} (h : n < 0x10000) (cs : List Char) :
    units (Printer.unit n ++ cs) = (units cs).map fun (us, rest) => (n :: us, rest) := by
  have hdigits : unit? (hexDigit (n / 16 / 16 / 16 % 16)) (hexDigit (n / 16 / 16 % 16))
      (hexDigit (n / 16 % 16)) (hexDigit (n % 16)) = some n := by
    have hmod : ∀ m, m % 16 < 16 := fun m => Nat.mod_lt m (by decide)
    simp only [unit?, hexValue?_hexDigit (hmod _), Option.bind_eq_bind, Option.bind_some]
    show some _ = some n
    congr 1
    omega
  show units (backslash :: 'u' :: hexDigit (n / 16 / 16 / 16 % 16) ::
    hexDigit (n / 16 / 16 % 16) :: hexDigit (n / 16 % 16) :: hexDigit (n % 16) :: cs) = _
  rw [units, if_neg (by decide), if_pos rfl]
  simp only [hdigits]
  cases units cs <;> rfl

theorem units_escaped {e : Char} {n : Nat} (he : e ≠ 'u') (h : escaped? e = some n)
    (cs : List Char) :
    units (backslash :: e :: cs) = (units cs).map fun (us, rest) => (n :: us, rest) := by
  rw [units, if_neg (by decide), if_pos rfl, h]
  · cases units cs <;> rfl
  · intro h₁ h₂ h₃ h₄ rest hletter
    exact absurd hletter he

theorem units_plain {c : Char} (hquote : c ≠ doubleQuote) (hbackslash : c ≠ backslash)
    (h : 0x20 ≤ c.toNat) (cs : List Char) :
    units (c :: cs) = (units cs).map fun (us, rest) => (c.toNat :: us, rest) := by
  rw [units.eq_def]
  simp only [if_neg hquote, if_neg hbackslash, if_neg (Nat.not_lt.2 h)]
  cases units cs <;> rfl

/-- The cases are the branches of the printer. -/
theorem units_char (c : Char) (cs : List Char) :
    units (Printer.char c ++ cs) = (units cs).map fun (us, rest) => (utf16 c ++ us, rest) := by
  have hsmall : ∀ {c : Char}, c.toNat < 0x10000 → utf16 c = [c.toNat] := by
    intro c h
    rw [utf16, if_pos h]
  dsimp only [Printer.char]
  split_ifs with hmark hn hr ht hb hf hascii hplane
  · rcases hmark with rfl | rfl
    · exact units_escaped (by decide) rfl cs
    · exact units_escaped (by decide) rfl cs
  · subst hn
    exact units_escaped (by decide) rfl cs
  · subst hr
    exact units_escaped (by decide) rfl cs
  · subst ht
    exact units_escaped (by decide) rfl cs
  -- Backspace and form feed are known by their code points, not as characters.
  · rw [hsmall (by omega), hb]
    exact units_escaped (by decide) rfl cs
  · rw [hsmall (by omega), hf]
    exact units_escaped (by decide) rfl cs
  · rw [hsmall (by omega)]
    rw [not_or] at hmark
    exact units_plain hmark.1 hmark.2 hascii.1 cs
  · rw [hsmall hplane]
    exact units_unit hplane cs
  · have hpoint := toNat_cases c
    rw [utf16, if_neg hplane, List.append_assoc, units_unit (by omega), units_unit (by omega)]
    cases units cs <;> rfl

theorem chars_utf16 (c : Char) (us : List Nat) :
    chars (utf16 c ++ us) = (chars us).map (c :: ·) := by
  have hcases := toNat_cases c
  unfold utf16
  split
  · have hhigh : isHigh c.toNat = false := decide_eq_false (by omega)
    have hlow : isLow c.toNat = false := decide_eq_false (by omega)
    rw [List.singleton_append, chars.eq_def]
    simp only [hhigh, hlow, Char.ofNat_toNat]
    cases chars us <;> rfl
  · have hhigh : isHigh (0xD800 + (c.toNat - 0x10000) / 0x400) = true :=
      decide_eq_true (by omega)
    have hlow : isLow (0xDC00 + (c.toNat - 0x10000) % 0x400) = true :=
      decide_eq_true (by omega)
    have hpoint : 0x10000 + (0xD800 + (c.toNat - 0x10000) / 0x400 - 0xD800) * 0x400 +
        (0xDC00 + (c.toNat - 0x10000) % 0x400 - 0xDC00) = c.toNat := by
      omega
    rw [List.cons_append, List.singleton_append, chars, if_pos hhigh, if_pos hlow, hpoint,
      Char.ofNat_toNat]
    cases chars us <;> rfl

theorem units_printed (s rest : List Char) :
    units (s.flatMap Printer.char ++ doubleQuote :: rest) = some (s.flatMap utf16, rest) := by
  induction s with
  | nil =>
    show units (doubleQuote :: rest) = some ([], rest)
    rw [units.eq_def]
    exact if_pos rfl
  | cons c s ih =>
    rw [List.flatMap_cons, List.append_assoc, units_char, ih]
    rfl

theorem chars_printed (s : List Char) : chars (s.flatMap utf16) = some s := by
  induction s with
  | nil => exact chars.eq_1
  | cons c s ih =>
    rw [List.flatMap_cons, chars_utf16, ih]
    rfl

theorem string_printed (s : String) (rest : List Char) :
    string (s.toList.flatMap Printer.char ++ doubleQuote :: rest) = some (s, rest) := by
  rw [string, units_printed]
  simp [chars_printed]

/-! ## Numbers -/

theorem span_natDigits {rest : List Char} (h : continuesNumber rest = false) (n : Nat) :
    (natDigits n ++ rest).takeWhile isDigit = natDigits n ∧
      (natDigits n ++ rest).dropWhile isDigit = rest := by
  have hall : ∀ c ∈ natDigits n, isDigit c = true := by
    intro c hc
    have hdigit := isDigit_of_mem_natDigits hc
    simpa [Char.isDigit, isDigit, Char.le_def] using hdigit
  rw [List.takeWhile_append_of_pos hall, List.dropWhile_append_of_pos hall]
  cases rest with
  | nil => simp
  | cons c rest =>
    have hc : isDigit c = false := by
      simp only [continuesNumber, Bool.or_eq_false_iff] at h
      exact h.1.1.1
    simp [hc]

theorem nat_printed {rest : List Char} (h : continuesNumber rest = false) (n : Nat) :
    nat (natDigits n ++ rest) = some (n, rest) := by
  obtain ⟨htake, hdrop⟩ := span_natDigits h n
  have hsome : ¬(natDigits n = [] ∨ continuesNumber rest = true) := by
    rw [h]
    intro hor
    cases hor with
    | inl hnil => exact absurd hnil Nat.toDigits_ne_nil
    | inr hcontinues => cases hcontinues
  -- Only zero starts with a zero, and it has no other digit.
  have hzero : ¬((natDigits n).head? = some '0' ∧ (natDigits n).length ≠ 1) := by
    intro hneedless
    cases n with
    | zero => exact hneedless.2 rfl
    | succ n => exact absurd hneedless.1 (head?_natDigits (Nat.succ_pos n))
  simp only [nat, htake, hdrop, if_neg hsome, if_neg hzero]
  rw [natDigits, Nat.ofDigitChars_ten_toDigits]

theorem int_printed {rest : List Char} (h : continuesNumber rest = false) (n : Int) :
    int (intDigits n ++ rest) = some (n, rest) := by
  cases n with
  | ofNat n =>
    have hread := nat_printed h n
    obtain ⟨d, ds, hdigits, hd⟩ := exists_natDigits_eq_cons n
    rw [hdigits] at hread
    rw [intDigits, hdigits, List.cons_append, int, ← List.cons_append, hread]
    · rfl
    · intro _ hminus
      rw [(List.cons.inj hminus).1] at hd
      cases hd
  | negSucc n =>
    rw [intDigits, List.cons_append, int, nat_printed h]
    rfl

/-! ## Documents -/

theorem skip_newline (depth : Nat) (cs : List Char) :
    skip (Printer.newline depth ++ cs) = skip cs := by
  have hspaces : ∀ c ∈ Printer.newline depth, isSpace c = true := by
    intro c hc
    cases List.mem_cons.1 hc with
    | inl hline => rw [hline]; rfl
    | inr hblank => rw [List.eq_of_mem_replicate hblank]; rfl
  exact List.dropWhile_append_of_pos hspaces

theorem skip_cons {c : Char} (h : isSpace c = false) (cs : List Char) :
    skip (c :: cs) = c :: cs := by
  rw [skip, List.dropWhile_cons_of_neg (by simp [h])]

theorem skip_newline_string (depth : Nat) (k : String) (cs : List Char) :
    skip (Printer.newline depth ++ (Printer.string k ++ cs)) =
      doubleQuote :: (k.toList.flatMap Printer.char ++ doubleQuote :: cs) := by
  rw [skip_newline, Printer.string, List.append_assoc, List.cons_append]
  exact skip_cons rfl _

/- The branches of the reader, each with what it takes for a result. -/

theorem value_skip (fuel : Nat) {cs ds : List Char} (h : skip cs = skip ds) :
    value fuel cs = value fuel ds := by
  cases fuel with
  | zero => rw [value, value]
  | succ fuel => rw [value, value, h]

theorem value_number {c : Char} (h : c.isDigit = true ∨ c = '-') (fuel : Nat) (cs : List Char) :
    value (fuel + 1) (c :: cs) = (int (c :: cs)).map fun (n, rest) => (.int n, rest) := by
  have hne : ∀ d, ¬(d.isDigit = true ∨ d = '-') → c ≠ d := by
    intro d hd hc
    rw [hc] at h
    exact hd h
  have hspace : isSpace c = false := by
    simp [isSpace, hne ' ' (by decide), hne '\n' (by decide), hne '\r' (by decide),
      hne '\t' (by decide)]
  rw [value, skip_cons hspace]
  simp only [hne doubleQuote (by decide), hne '[' (by decide), hne openBrace (by decide),
    hne 'n' (by decide), hne 't' (by decide), hne 'f' (by decide), if_false]

/-- No document starts with the bracket that ends a list. -/
theorem after?_of_value {fuel : Nat} {cs : List Char} {r : Json × List Char}
    (h : value fuel cs = some r) : after? [']'] (skip cs) = none := by
  -- The reader would take the bracket for the start of a number and find no digit.
  cases fuel with
  | zero =>
    rw [value] at h
    cases h
  | succ fuel =>
    rw [value] at h
    cases hskip : skip cs with
    | nil => rfl
    | cons c rest =>
      rw [hskip] at h
      have hc : ']' ≠ c := by
        intro hc
        subst hc
        cases h
      exact if_neg hc

theorem value_list {fuel : Nat} {cs rest : List Char} {js : List Json}
    (h : items fuel cs = some (js, rest)) :
    value (fuel + 1) ('[' :: cs) = some (.arr js, rest) := by
  have hopen : after? [']'] (skip cs) = none := by
    cases fuel with
    | zero =>
      rw [items] at h
      cases h
    | succ fuel =>
      rw [items] at h
      cases hfirst : value fuel cs with
      | none =>
        rw [hfirst] at h
        cases h
      | some r => exact after?_of_value hfirst
  rw [value, skip_cons rfl]
  simp only [hopen, h]
  rfl

theorem value_record {fuel : Nat} {cs ks rest : List Char} {ms : List (String × Json)}
    (hquote : skip cs = doubleQuote :: ks) (h : members fuel cs = some (ms, rest)) :
    value (fuel + 1) (openBrace :: cs) = some (.obj ms, rest) := by
  rw [value, skip_cons rfl]
  simp only [hquote, h]
  rfl

theorem items_last {fuel : Nat} {cs tail rest : List Char} {j : Json}
    (hj : value fuel cs = some (j, tail)) (htail : skip tail = ']' :: rest) :
    items (fuel + 1) cs = some ([j], rest) := by
  rw [items, hj]
  simp [htail]

theorem items_more {fuel : Nat} {cs tail more : List Char} {j : Json}
    (hj : value fuel cs = some (j, tail)) (htail : skip tail = ',' :: more) :
    items (fuel + 1) cs = (items fuel more).map fun (js, rest) => (j :: js, rest) := by
  rw [items, hj]
  simp only [Option.bind_eq_bind, Option.bind_some, htail]
  cases items fuel more <;> rfl

section Members

variable {fuel : Nat} {cs ks afterKey vs tail : List Char} {k : String} {j : Json}
  (hquote : skip cs = doubleQuote :: ks) (hk : string ks = some (k, afterKey))
  (hcolon : skip afterKey = ':' :: vs) (hj : value fuel vs = some (j, tail))
include hquote hk hcolon hj

theorem members_last {rest : List Char} (htail : skip tail = closeBrace :: rest) :
    members (fuel + 1) cs = some ([(k, j)], rest) := by
  rw [members, hquote]
  simp [hk, hcolon, hj, htail]

theorem members_more {more : List Char} (htail : skip tail = ',' :: more) :
    members (fuel + 1) cs = (members fuel more).map fun (ms, rest) => ((k, j) :: ms, rest) := by
  have hcomma : ',' ≠ closeBrace := by decide
  rw [members, hquote]
  simp only [hk, hcolon, hj, htail, if_neg hcomma, Option.bind_eq_bind, Option.bind_some, if_true]
  cases members fuel more <;> rfl

end Members

/-- The reader takes the document from the front of any text that does not run on as a
number, with fuel for each of its characters. -/
def ReadBack (j : Json) : Prop :=
  ∀ depth fuel rest, (Printer.value depth j).length ≤ fuel → continuesNumber rest = false →
    value (fuel + 1) (Printer.value depth j ++ rest) = some (j, rest)

theorem items_printed {js : List Json} (hjs : ∀ j ∈ js, ReadBack j) {j : Json} (hj : ReadBack j)
    (depth : Nat) {fuel : Nat} {tail rest : List Char} (htail : skip tail = ']' :: rest)
    (hend : continuesNumber tail = false)
    (hfuel : (Printer.value depth j).length + (Printer.items depth js).length ≤ fuel) :
    items (fuel + 2) (Printer.newline depth ++ (Printer.value depth j ++
      (Printer.items depth js ++ tail))) = some (j :: js, rest) := by
  induction js generalizing j fuel with
  | nil =>
    have hread := hj depth fuel tail (by omega) hend
    rw [← value_skip (fuel + 1) (skip_newline depth _)] at hread
    exact items_last hread htail
  | cons k js ih =>
    rw [List.forall_mem_cons] at hjs
    simp only [Printer.items, List.length_append, List.length_cons] at hfuel
    simp only [Printer.items, List.cons_append, List.append_assoc]
    -- The comma before the next item is what pays for it.
    obtain ⟨fuel, rfl⟩ : ∃ less, fuel = less + 1 := ⟨fuel - 1, by omega⟩
    have hread := hj depth (fuel + 1) (',' :: (Printer.newline depth ++
      (Printer.value depth k ++ (Printer.items depth js ++ tail)))) (by omega) rfl
    rw [← value_skip (fuel + 2) (skip_newline depth _)] at hread
    rw [items_more hread (skip_cons rfl _), ih hjs.2 hjs.1 (by omega)]
    rfl

theorem members_printed {ms : List (String × Json)} (hms : ∀ m ∈ ms, ReadBack m.2) (k : String)
    {j : Json} (hj : ReadBack j) (depth : Nat) {fuel : Nat} {tail rest : List Char}
    (htail : skip tail = closeBrace :: rest) (hend : continuesNumber tail = false)
    (hfuel : (Printer.value depth j).length + (Printer.members depth ms).length ≤ fuel) :
    members (fuel + 2) (Printer.newline depth ++ (Printer.string k ++ (':' :: ' ' ::
      (Printer.value depth j ++ (Printer.members depth ms ++ tail))))) =
        some ((k, j) :: ms, rest) := by
  have hblank : ∀ cs, skip (' ' :: cs) = skip cs := fun cs => rfl
  induction ms generalizing k j fuel with
  | nil =>
    have hread := hj depth fuel tail (by omega) hend
    rw [← value_skip (fuel + 1) (hblank _)] at hread
    exact members_last (skip_newline_string depth k _) (string_printed k _) (skip_cons rfl _)
      hread htail
  | cons m ms ih =>
    obtain ⟨l, i⟩ := m
    obtain ⟨hi, hms⟩ : ReadBack i ∧ ∀ m ∈ ms, ReadBack m.2 := List.forall_mem_cons.1 hms
    simp only [Printer.members, List.length_append, List.length_cons] at hfuel
    simp only [Printer.members, List.cons_append, List.append_assoc, List.nil_append]
    obtain ⟨fuel, rfl⟩ : ∃ less, fuel = less + 1 := ⟨fuel - 1, by omega⟩
    have hread := hj depth (fuel + 1) (',' :: (Printer.newline depth ++ (Printer.string l ++
      (':' :: ' ' :: (Printer.value depth i ++ (Printer.members depth ms ++ tail))))))
      (by omega) rfl
    rw [← value_skip (fuel + 2) (hblank _)] at hread
    rw [members_more (skip_newline_string depth k _) (string_printed k _) (skip_cons rfl _) hread
      (skip_cons rfl _), ih hms l hi (by omega)]
    rfl

end Reader

/-- Induction over documents, through the items of arrays and the members of objects. -/
theorem induct {P : Json → Prop} (null : P .null) (bool : ∀ b, P (.bool b))
    (int : ∀ n, P (.int n)) (str : ∀ s, P (.str s))
    (arr : ∀ js, (∀ j ∈ js, P j) → P (.arr js))
    (obj : ∀ ms, (∀ m ∈ ms, P m.2) → P (.obj ms)) (j : Json) : P j := by
  refine @Json.rec P (fun js => ∀ j ∈ js, P j) (fun ms => ∀ m ∈ ms, P m.2) (fun m => P m.2)
    null bool int str arr obj ?_ ?_ ?_ ?_ ?_ j
  · intro j hj
    cases hj
  · intro j js hj hjs
    exact List.forall_mem_cons.2 ⟨hj, hjs⟩
  · intro m hm
    cases hm
  · intro m ms hm hms
    exact List.forall_mem_cons.2 ⟨hm, hms⟩
  · intro k j hj
    exact hj

namespace Reader

theorem value_printed (j : Json) : ReadBack j := by
  induction j using Json.induct with
  | null =>
    intro depth fuel rest hfuel hrest
    rfl
  | bool b =>
    intro depth fuel rest hfuel hrest
    cases b <;> rfl
  | int n =>
    intro depth fuel rest hfuel hrest
    have hread := int_printed hrest n
    obtain ⟨c, cs, hdigits, hc⟩ := exists_intDigits_eq_cons n
    rw [hdigits] at hread
    rw [Printer.value, hdigits, List.cons_append, value_number hc, ← List.cons_append, hread]
    rfl
  | str s =>
    intro depth fuel rest hfuel hrest
    rw [Printer.value, Printer.string, List.append_assoc, List.cons_append, value, skip_cons rfl]
    simp only [if_true]
    rw [List.singleton_append, string_printed]
    rfl
  | arr js hjs =>
    intro depth fuel rest hfuel hrest
    cases js with
    | nil => rfl
    | cons j js =>
      obtain ⟨hj, hjs⟩ := List.forall_mem_cons.1 hjs
      simp only [Printer.value, List.length_append, List.length_cons] at hfuel
      simp only [Printer.value, List.cons_append, List.append_assoc, List.nil_append]
      obtain ⟨fuel, rfl⟩ : ∃ less, fuel = less + 2 := ⟨fuel - 2, by omega⟩
      have htail : skip (Printer.newline depth ++ ']' :: rest) = ']' :: rest := by
        rw [skip_newline, skip_cons rfl]
      exact value_list (items_printed hjs hj (depth + 1) htail rfl (by omega))
  | obj ms hms =>
    intro depth fuel rest hfuel hrest
    cases ms with
    | nil => rfl
    | cons m ms =>
      obtain ⟨k, j⟩ := m
      obtain ⟨hj, hms⟩ : ReadBack j ∧ ∀ m ∈ ms, ReadBack m.2 := List.forall_mem_cons.1 hms
      simp only [Printer.value, List.length_append, List.length_cons] at hfuel
      simp only [Printer.value, List.cons_append, List.append_assoc, List.nil_append]
      obtain ⟨fuel, rfl⟩ : ∃ less, fuel = less + 2 := ⟨fuel - 2, by omega⟩
      have htail : skip (Printer.newline depth ++ closeBrace :: rest) = closeBrace :: rest := by
        rw [skip_newline, skip_cons rfl]
      exact value_record (skip_newline_string (depth + 1) k _)
        (members_printed hms k hj (depth + 1) htail rfl (by omega))

end Reader

theorem parse?_render (j : Json) : parse? (j.render ++ "\n") = some j := by
  have htext : (j.render ++ "\n").toList = Printer.value 0 j ++ ['\n'] := by simp [render]
  have hread := Reader.value_printed j 0 (Printer.value 0 j ++ ['\n']).length ['\n'] (by simp) rfl
  rw [parse?, htext, hread]
  rfl

/-! ## Characters -/

def IsAscii (cs : List Char) : Prop := ∀ c ∈ cs, c.toNat < 0x80

@[simp] theorem isAscii_nil : IsAscii [] := by
  intro c hc
  cases hc

@[simp] theorem isAscii_cons {c : Char} {cs : List Char} :
    IsAscii (c :: cs) ↔ c.toNat < 0x80 ∧ IsAscii cs :=
  List.forall_mem_cons

@[simp] theorem isAscii_append {cs ds : List Char} :
    IsAscii (cs ++ ds) ↔ IsAscii cs ∧ IsAscii ds :=
  List.forall_mem_append

theorem isAscii_natDigits (n : Nat) : IsAscii (natDigits n) := by
  intro c hc
  have hdigit : '0'.toNat ≤ c.toNat ∧ c.toNat ≤ '9'.toNat :=
    Char.isDigit_iff_toNat.1 (isDigit_of_mem_natDigits hc)
  have hnine : '9'.toNat < 0x80 := by decide
  omega

theorem isAscii_intDigits (n : Int) : IsAscii (intDigits n) := by
  cases n with
  | ofNat n => exact isAscii_natDigits n
  | negSucc n => simp [intDigits, isAscii_natDigits]

namespace Printer

@[simp] theorem isAscii_newline (depth : Nat) : IsAscii (newline depth) := by
  rw [newline, isAscii_cons]
  refine ⟨by decide, ?_⟩
  intro c hc
  rw [List.eq_of_mem_replicate hc]
  decide

theorem isAscii_hexDigits (width n : Nat) : IsAscii (hexDigits width n) := by
  have hdigits : ∀ d < 16, (hexDigit d).toNat < 0x80 := by decide
  induction width generalizing n with
  | zero => simp [hexDigits]
  | succ width ih => simp [hexDigits, ih, hdigits _ (Nat.mod_lt n (by decide))]

theorem isAscii_unit (n : Nat) : IsAscii (unit n) := by
  simp [unit, backslash, isAscii_hexDigits]

theorem isAscii_char (c : Char) : IsAscii (char c) := by
  dsimp only [char]
  split_ifs with hmark hn hr ht hb hf hascii hplane
  · rcases hmark with rfl | rfl <;> simp [doubleQuote, backslash]
  · simp [backslash]
  · simp [backslash]
  · simp [backslash]
  · simp [backslash]
  · simp [backslash]
  · rw [isAscii_cons]
    exact ⟨by omega, isAscii_nil⟩
  · exact isAscii_unit _
  · simp [isAscii_unit]

@[simp] theorem isAscii_string (s : String) : IsAscii (string s) := by
  have hchars : IsAscii (s.toList.flatMap char) := by
    intro c hc
    obtain ⟨d, -, hd⟩ := List.mem_flatMap.1 hc
    exact isAscii_char d c hd
  simp [string, doubleQuote, hchars]

theorem isAscii_items {depth : Nat} {js : List Json} (h : ∀ j ∈ js, IsAscii (value depth j)) :
    IsAscii (items depth js) := by
  induction js with
  | nil => simp [items]
  | cons j js ih =>
    rw [List.forall_mem_cons] at h
    simp [items, h.1, ih h.2]

theorem isAscii_members {depth : Nat} {ms : List (String × Json)}
    (h : ∀ m ∈ ms, IsAscii (value depth m.2)) : IsAscii (members depth ms) := by
  induction ms with
  | nil => simp [members]
  | cons m ms ih =>
    rw [List.forall_mem_cons] at h
    simp [members, h.1, ih h.2]

theorem isAscii_value (depth : Nat) (j : Json) : IsAscii (value depth j) := by
  induction j using Json.induct generalizing depth with
  | null => simp [value]
  | bool b => cases b <;> simp [value]
  | int n => exact isAscii_intDigits n
  | str s => exact isAscii_string s
  | arr js hjs =>
    cases js with
    | nil => simp [value]
    | cons j js =>
      rw [List.forall_mem_cons] at hjs
      have hitems := isAscii_items fun i hi => hjs.2 i hi (depth + 1)
      simp [value, hjs.1, hitems]
  | obj ms hms =>
    cases ms with
    | nil => simp [value, openBrace, closeBrace]
    | cons m ms =>
      rw [List.forall_mem_cons] at hms
      have hmembers := isAscii_members fun i hi => hms.2 i hi (depth + 1)
      simp [value, openBrace, closeBrace, hms.1, hmembers]

end Printer
end Json

/-! ## Reports -/

namespace Command

open Json Files

theorem stdout_conclude {o : Options} (hjson : o.format = .json) (channel : String) (t : Tally) :
    (conclude channel o t).stdout = (Json.arr (t.issues.map Issue.record)).render ++ "\n" := by
  rw [conclude, hjson]
  rfl

theorem parse?_stdout_conclude {o : Options} (hjson : o.format = .json) (channel : String)
    (t : Tally) :
    parse? (conclude channel o t).stdout = some (.arr (t.issues.map Issue.record)) := by
  rw [stdout_conclude hjson, parse?_render]

/-- Whatever problems a run ends with, what it prints of them is plain text that reads as
their records, in the same order.  So other records would print otherwise. -/
theorem stdout_json_reads_back {o : Options} (hjson : o.format = .json) (channel : String)
    (t : Tally) :
    IsAscii (conclude channel o t).stdout.toList ∧
      parse? (conclude channel o t).stdout = some (.arr (t.issues.map Issue.record)) ∧
      ∀ u : Tally, (conclude channel o u).stdout = (conclude channel o t).stdout →
        u.issues.map Issue.record = t.issues.map Issue.record := by
  have hread := parse?_stdout_conclude hjson channel
  refine ⟨?_, hread t, ?_⟩
  · rw [stdout_conclude hjson, render, String.toList_append, String.toList_ofList, isAscii_append]
    exact ⟨Printer.isAscii_value 0 _, by simp⟩
  · intro u hsame
    have hrecords := hread u
    rw [hsame, hread t] at hrecords
    exact (Json.arr.inj (Option.some.inj hrecords)).symm

theorem stdout_json_reads_back_astral :
    let o : Options := { Options.default with format := .json }
    let i : Issue := ⟨Catalog.contextAccess, 1, -2, "a \"quoted\"\tmessage", "\\naïve\n😀.java"⟩
    o.format = .json ∧
      parse? (conclude channel o ⟨[i], [], 1, []⟩).stdout = some (.arr [i.record]) := by
  intro o i
  exact ⟨rfl, (stdout_json_reads_back rfl channel ⟨[i], [], 1, []⟩).2.1⟩

/-- The command itself prints what reads as the records of the problems that checking the paths
comes to, unless it is stopped on the way. -/
theorem parse?_stdout_perform (channel : String) (tree : Tree) {o : Options}
    (hjson : o.format = .json) (hlist : o.listIssues = false) (hpaths : o.paths ≠ [])
    {config : Config} (hconfig : o.config = .ok config) {ck : Checker}
    (hck : Checker.make config = .ok ck) :
    (perform channel tree o).map (fun out => parse? out.stdout) =
      (ck.checkPaths tree (o.paths.map Path.parse)).map fun t =>
        some (.arr (t.issues.map Issue.record)) := by
  have hlist' : ¬o.listIssues = true := by simp [hlist]
  have hpaths' : ¬o.paths.isEmpty = true := by simp [hpaths]
  have hperform : perform channel tree o = checkWith channel tree o config := by
    rw [perform, if_neg hlist', if_neg hpaths', check, hconfig]
    rfl
  rw [hperform, checkWith, hck]
  cases hrun : ck.checkPaths tree (o.paths.map Path.parse) with
  | error e =>
    simp only [hrun]
    rfl
  | ok t =>
    simp only [hrun]
    exact congrArg Except.ok (parse?_stdout_conclude hjson channel t)

end Command
end RoleNaming
