/-
Mentions are a search for bytes.

The rules ask whether the text of a node, read as UTF-8 and put in lower case, holds one
of two words.  `mentions_lowercase_text_iff` says what that comes to: the bytes of the
node hold the word, each letter in either case.  Nothing that is wrong with the bytes
before or after hides the word, and no letter past ASCII makes one up.

The second half is about lower case.  Two characters past ASCII have ASCII in their lower
case, the Kelvin sign and the dotted capital I; a word without `k` that does not end in
`i` never meets them (`IsPlain`).
-/
import RoleNaming.Proofs.Decoding
import RoleNaming.Proofs.Tree
import RoleNaming.Rule.Method

namespace RoleNaming
namespace Text

/-! ## Letters in lower case -/

/-- A table over ASCII. -/
theorem forall_ascii_of_lt {P : Char → Prop} (h : ∀ n < 0x80, P (Char.ofNat n)) {c : Char}
    (hc : c.toNat < 0x80) : P c := by
  have hrow := h c.toNat hc
  rwa [Char.ofNat_toNat] at hrow

theorem toLower_of_le_toNat {c : Char} (hc : 0x80 ≤ c.toNat) : c.toLower = c := by
  have hout : ¬(c.val ≥ 'A'.val ∧ c.val ≤ 'Z'.val) := by
    rintro ⟨-, hle⟩
    have hle' : c.toNat ≤ 0x5A := UInt32.le_iff_toNat_le.1 hle
    omega
  exact dif_neg hout

theorem toNat_toLower_lt {c : Char} (hc : c.toNat < 0x80) : c.toLower.toNat < 0x80 :=
  forall_ascii_of_lt (P := fun c => c.toLower.toNat < 0x80) (by decide) hc

/-- Of ASCII, lower case is what it is for ASCII alone. -/
theorem lowerChar_ascii {c : Char} (hc : c.toNat < 0x80) : lowerChar c = [c.toLower] :=
  forall_ascii_of_lt (P := fun c => lowerChar c = [c.toLower]) (by decide +kernel) hc

/-- The runs of capitals: those of ASCII, the Kelvin sign, and runs whose small letters
are all past ASCII. -/
theorem caseRuns_cases : ∀ r ∈ caseRuns,
    r.last < 0x80 ∨ r = ⟨0x212A, 0x212A, 1, 0x6B⟩ ∨
      0x80 ≤ r.small ∧ (r.small + (r.last - r.first) < 0xD800 ∨
        0xDFFF < r.small ∧ r.small + (r.last - r.first) < 0x110000) := by
  decide +kernel

/-- A letter past ASCII has one small letter, which is past ASCII too or `k`; the dotted
capital I apart. -/
theorem lowerChar_past {c : Char} (hc : 0x80 ≤ c.toNat) (hdot : c ≠ dottedCapitalI) :
    ∃ d, lowerChar c = [d] ∧ (0x80 ≤ d.toNat ∨ d = 'k') := by
  rw [lowerChar, if_neg hdot]
  cases hfound : caseRuns.findSome? fun r => r.small? c.toNat with
  | none => exact ⟨c, rfl, Or.inl hc⟩
  | some n =>
    refine ⟨Char.ofNat n, rfl, ?_⟩
    obtain ⟨r, hr, hsmall⟩ := List.exists_of_findSome?_eq_some hfound
    unfold CaseRun.small? at hsmall
    split at hsmall
    · rename_i hin
      obtain rfl := Option.some.inj hsmall
      rcases caseRuns_cases r hr with hascii | rfl | ⟨hpast, hvalid⟩
      · omega
      · right
        have hkelvin : c.toNat = 0x212A := Nat.le_antisymm hin.2.1 hin.1
        rw [hkelvin]
        rfl
      · left
        rw [toNat_ofNat]
        · omega
        · unfold Nat.isValidChar
          omega
    · cases hsmall

/-- One character more.  Whether it stands in a word matters for a capital sigma only,
whose two small letters are both past ASCII. -/
theorem lowerFrom_cons (inWord : Bool) (c : Char) (cs : List Char) :
    ∃ inWord',
      c.toNat < 0x80 ∧ lowerFrom inWord (c :: cs) = c.toLower :: lowerFrom inWord' cs ∨
      0x80 ≤ c.toNat ∧
        ((∃ d, (0x80 ≤ d.toNat ∨ d = 'k') ∧
            lowerFrom inWord (c :: cs) = d :: lowerFrom inWord' cs) ∨
          lowerFrom inWord (c :: cs) = 'i' :: Char.ofNat 0x0307 :: lowerFrom inWord' cs) := by
  refine ⟨if isCaseIgnorable c then inWord else isCased c, ?_⟩
  rw [lowerFrom]
  rcases Nat.lt_or_ge c.toNat 0x80 with hc | hc
  · have hsigma : c ≠ capitalSigma := by
      rintro rfl
      exact absurd hc (by decide)
    left
    rw [if_neg hsigma, lowerChar_ascii hc]
    exact ⟨hc, rfl⟩
  · right
    refine ⟨hc, ?_⟩
    by_cases hsigma : c = capitalSigma
    · left
      rw [if_pos hsigma]
      refine ⟨_, Or.inl ?_, rfl⟩
      split <;> decide
    by_cases hdot : c = dottedCapitalI
    · right
      rw [if_neg hsigma, lowerChar, if_pos hdot]
      rfl
    · left
      obtain ⟨d, hlower, hd⟩ := lowerChar_past hc hdot
      rw [if_neg hsigma, hlower]
      exact ⟨d, hd, rfl⟩

/-! ## Words that only ASCII can spell -/

/-- Small letters other than `k`, of which the last is not `i`. -/
structure IsPlain (w : List Char) : Prop where
  letters : ∀ c ∈ w, 0x61 ≤ c.toNat ∧ c.toNat ≤ 0x7A ∧ c ≠ 'k'
  last : w.getLast? ≠ some 'i'

instance (w : List Char) : Decidable (IsPlain w) :=
  decidable_of_iff
    ((w.all fun c => 0x61 ≤ c.toNat ∧ c.toNat ≤ 0x7A ∧ c ≠ 'k') = true ∧ w.getLast? ≠ some 'i')
    ⟨fun h => ⟨fun c hc => of_decide_eq_true (List.all_eq_true.1 h.1 c hc), h.2⟩,
     fun h => ⟨List.all_eq_true.2 fun c hc => decide_eq_true (h.letters c hc), h.last⟩⟩

theorem IsPlain.tail {c : Char} {w : List Char} (h : IsPlain (c :: w)) : IsPlain w := by
  constructor
  · intro d hd
    exact h.letters d (List.mem_cons_of_mem c hd)
  · cases w with
    | nil => simp
    | cons d w =>
      have hlast := h.last
      rwa [List.getLast?_cons_cons] at hlast

/-- A letter of a plain word is not what a character past ASCII has in its lower case, nor
such a character itself. -/
theorem IsPlain.ne {x d : Char} {w : List Char} (h : IsPlain (x :: w))
    (hd : 0x80 ≤ d.toNat ∨ d = 'k') : x ≠ d := by
  obtain ⟨-, hhigh, hk⟩ := h.letters x List.mem_cons_self
  rintro rfl
  rcases hd with hd | hd
  · omega
  · exact hk hd

/-- A plain word can start the text in lower case only where ASCII letters spell it: by
induction on the word, its first letter against the first character. -/
theorem prefix_lowerFrom_iff {w : List Char} (hw : IsPlain w) (inWord : Bool) (cs : List Char) :
    w <+: lowerFrom inWord cs ↔ w <+: cs.map Char.toLower := by
  induction w generalizing inWord cs with
  | nil => exact ⟨fun _ => List.nil_prefix, fun _ => List.nil_prefix⟩
  | cons x w ih =>
    cases cs with
    | nil => rfl
    | cons c cs =>
      rw [List.map_cons, List.cons_prefix_cons]
      obtain ⟨inWord', ⟨hc, h⟩ | ⟨hc, hpast⟩⟩ := lowerFrom_cons inWord c cs
      · rw [h, List.cons_prefix_cons, ih hw.tail]
      · have hright : ¬(x = c.toLower ∧ w <+: cs.map Char.toLower) := by
          rw [toLower_of_le_toNat hc]
          exact fun hx => hw.ne (Or.inl hc) hx.1
        rcases hpast with ⟨d, hd, h⟩ | h
        · rw [h, List.cons_prefix_cons]
          exact iff_of_false (fun hx => hw.ne hd hx.1) hright
        · rw [h, List.cons_prefix_cons]
          refine iff_of_false ?_ hright
          rintro ⟨rfl, hrest⟩
          -- The dotted capital I gives an `i`, but no second letter after it.
          cases w with
          | nil => exact hw.last rfl
          | cons y w =>
            have hy := (List.cons_prefix_cons.1 hrest).1
            exact hw.tail.ne (Or.inl (by decide)) hy

theorem infix_lowerFrom_iff {w : List Char} (hw : IsPlain w) (hne : w ≠ []) (inWord : Bool)
    (cs : List Char) : w <:+: lowerFrom inWord cs ↔ w <:+: cs.map Char.toLower := by
  induction cs generalizing inWord with
  | nil => rfl
  | cons c cs ih =>
    have hprefix := prefix_lowerFrom_iff hw inWord (c :: cs)
    rw [List.map_cons] at hprefix ⊢
    obtain ⟨inWord', ⟨_, h⟩ | ⟨_, ⟨d, _, h⟩ | h⟩⟩ := lowerFrom_cons inWord c cs
    · rw [h] at hprefix ⊢
      rw [List.infix_cons_iff, List.infix_cons_iff, hprefix, ih]
    · rw [h] at hprefix ⊢
      rw [List.infix_cons_iff, List.infix_cons_iff, hprefix, ih]
    · -- No plain word starts at the dot that the capital I leaves behind.
      have hdot : ¬w <+: Char.ofNat 0x0307 :: lowerFrom inWord' cs := by
        cases w with
        | nil => exact absurd rfl hne
        | cons x w => exact fun hx => hw.ne (Or.inl (by decide)) (List.cons_prefix_cons.1 hx).1
      rw [h] at hprefix ⊢
      rw [List.infix_cons_iff, List.infix_cons_iff, List.infix_cons_iff, hprefix, ih,
        or_iff_right hdot]

/-! ## From letters to bytes -/

/-- A byte with an ASCII capital made small. -/
def lowerByte (b : UInt8) : UInt8 := if 0x41 ≤ b ∧ b ≤ 0x5A then b + 0x20 else b

theorem lowerByte_byteOf {c : Char} (hc : c.toNat < 0x80) :
    lowerByte (UInt8.ofNat c.toNat) = UInt8.ofNat c.toLower.toNat :=
  forall_ascii_of_lt
    (P := fun c => lowerByte (UInt8.ofNat c.toNat) = UInt8.ofNat c.toLower.toNat)
    (by decide +kernel) hc

theorem map_lowerByte_asciiBytes {cs : List Char} (h : ∀ c ∈ cs, c.toNat < 0x80) :
    (asciiBytes cs).map lowerByte = asciiBytes (cs.map Char.toLower) := by
  rw [asciiBytes, asciiBytes, List.map_map, List.map_map]
  exact List.map_congr_left fun c hc => lowerByte_byteOf (h c hc)

theorem lowerByte_of_le {b : UInt8} (hb : 0x80 ≤ b.toNat) : lowerByte b = b := by
  have hout : ¬(0x41 ≤ b ∧ b ≤ 0x5A) := by
    rintro ⟨-, hle⟩
    have hle' : b.toNat ≤ 0x5A := UInt8.le_iff_toNat_le.1 hle
    omega
  rw [lowerByte, if_neg hout]

/-- A plain word stands in the lower case of a decoded text if and only if the bytes spell
it, in letters of either case. -/
theorem infix_lowerFrom_decode_iff {w : List Char} (hw : IsPlain w) (hne : w ≠ [])
    (bs : List UInt8) :
    w <:+: lowerFrom false (Utf8.decode bs) ↔
      ∃ spelled, spelled <:+: bs ∧ spelled.map lowerByte = asciiBytes w := by
  have hascii : ∀ c ∈ w, c.toNat < 0x80 := by
    intro c hc
    have hle := (hw.letters c hc).2.1
    omega
  rw [infix_lowerFrom_iff hw hne, List.infix_map_iff]
  constructor
  · rintro ⟨m, hm, rfl⟩
    have hm' : ∀ c ∈ m, c.toNat < 0x80 := by
      intro c hc
      have hlower := hascii c.toLower (List.mem_map_of_mem hc)
      rcases Nat.lt_or_ge c.toNat 0x80 with h | h
      · exact h
      · rwa [toLower_of_le_toNat h] at hlower
    exact ⟨asciiBytes m, (Utf8.infix_decode_iff hm').1 hm, map_lowerByte_asciiBytes hm'⟩
  · rintro ⟨spelled, hspelled, h⟩
    have hbytes : ∀ b ∈ spelled, b.toNat < 0x80 := by
      intro b hb
      have hmem : lowerByte b ∈ asciiBytes w := h ▸ List.mem_map_of_mem hb
      obtain ⟨c, hc, hbc⟩ := List.mem_map.1 hmem
      have hlower : (lowerByte b).toNat < 0x80 := by
        rw [← hbc, toNat_byteOf (hascii c hc)]
        exact hascii c hc
      rcases Nat.lt_or_ge b.toNat 0x80 with hlt | hge
      · exact hlt
      · rwa [lowerByte_of_le hge] at hlower
    let m := spelled.map fun b => Char.ofNat b.toNat
    have hback : asciiBytes m = spelled := asciiBytes_map_ofNat spelled
    have hm : ∀ c ∈ m, c.toNat < 0x80 := by
      intro c hc
      obtain ⟨b, hb, rfl⟩ := List.mem_map.1 hc
      rw [toNat_ofNat_byte]
      exact hbytes b hb
    have hlower : ∀ c ∈ m.map Char.toLower, c.toNat < 0x80 := by
      intro c hc
      obtain ⟨d, hd, rfl⟩ := List.mem_map.1 hc
      exact toNat_toLower_lt (hm d hd)
    refine ⟨m, (Utf8.infix_decode_iff hm).2 (hback ▸ hspelled), asciiBytes_inj hascii hlower ?_⟩
    rw [← map_lowerByte_asciiBytes hm, hback, h]

theorem mentions_iff {word s : String} : mentions word s = true ↔ word.toList <:+: s.toList := by
  rw [mentions, occursIn_iff]
  exact ⟨fun ⟨u, v, h⟩ => ⟨u, v, h.symm⟩, fun ⟨u, v, h⟩ => ⟨u, v, h.symm⟩⟩

end Text

namespace Rule

open Syntax Text

theorem isPlain_listenerWord : IsPlain listenerWord.toList := by decide

theorem isPlain_contextWord : IsPlain contextWord.toList := by decide

/-- The text of a node mentions a listener or a context if and only if the bytes of the
node, as far as the source has them, spell the word in letters of either case. -/
theorem mentions_lowercase_text_iff {word : String}
    (hword : word = listenerWord ∨ word = contextWord) (bytes : Bytes) (n : Node) :
    mentions word (lowercase (n.text bytes)) = true ↔
      ∃ spelled, spelled <:+: (bytes.take n.stop).drop n.start ∧
        spelled.map lowerByte = word.toUTF8.toList := by
  have hplain : IsPlain word.toList ∧ word.toList ≠ [] ∧
      word.toUTF8.toList = asciiBytes word.toList := by
    rcases hword with rfl | rfl
    · exact ⟨isPlain_listenerWord, by decide, by decide +kernel⟩
    · exact ⟨isPlain_contextWord, by decide, by decide +kernel⟩
  rw [mentions_iff, lowercase, Node.text, String.toList_ofList, String.toList_ofList,
    infix_lowerFrom_decode_iff hplain.1 hplain.2.1, hplain.2.2]
  rfl

/-! ### A word between broken characters, and a word with a foreign letter

The bytes around the first word are the front parts of characters that never come.  In the
second the letter `i` is the dotted capital. -/

namespace Damaged

def bytes : Bytes := [0xE2, 0x82] ++ "onListener".toUTF8.toList ++ [0xF0, 0x9F]

def node : Node := .onFirstLine "identifier" none 0 90 []

def foreign : Bytes := "onLİstener".toUTF8.toList

end Damaged

theorem mentions_lowercase_text_iff_damaged :
    mentions "listener" (lowercase (Damaged.node.text Damaged.bytes)) = true ∧
      ¬∃ spelled, spelled <:+: (Damaged.foreign.take 90).drop 0 ∧
        spelled.map lowerByte = "listener".toUTF8.toList := by
  constructor
  · apply (mentions_lowercase_text_iff (Or.inl rfl) Damaged.bytes Damaged.node).2
    exact ⟨"Listener".toUTF8.toList, ⟨[0xE2, 0x82, 0x6F, 0x6E], [0xF0, 0x9F], by decide +kernel⟩,
      by decide +kernel⟩
  · intro h
    have hfound := (mentions_lowercase_text_iff (Or.inl rfl) Damaged.foreign Damaged.node).2 h
    exact absurd hfound (by decide +kernel)

end Rule
end RoleNaming
