/-
ASCII in a text and in the bytes it is read from.

The decoder reads any bytes at all and replaces what it cannot complete.  A byte below
`0x80` is never lost on the way: it ends a character left open before it, stands for
itself and leaves nothing open.  `decode_append_cons` cuts a reading at such a byte, and
`exists_cut_of_decode` goes back from an ASCII character of the text to its byte.  What
carries the second is `Pending.Sound`: a character left open can only be completed to one
past ASCII.
-/
import Mathlib.Algebra.Group.Nat.Defs
import RoleNaming.Text.Utf8

namespace RoleNaming
namespace Text

theorem toNat_ofNat {n : Nat} (h : n.isValidChar) : (Char.ofNat n).toNat = n := by
  rw [Char.ofNat, dif_pos h]
  rfl

theorem toNat_byteOf {c : Char} (hc : c.toNat < 0x80) : (UInt8.ofNat c.toNat).toNat = c.toNat := by
  rw [UInt8.toNat_ofNat']
  omega

theorem toNat_ofNat_byte (b : UInt8) : (Char.ofNat b.toNat).toNat = b.toNat := by
  have hb := b.toNat_lt
  exact toNat_ofNat (Or.inl (by omega))

/-- A table over all bytes. -/
theorem forall_byte_of_lt {P : UInt8 → Prop} (h : ∀ n < 256, P (UInt8.ofNat n)) (b : UInt8) :
    P b := by
  have hrow := h b.toNat b.toNat_lt
  rwa [UInt8.ofNat_toNat] at hrow

/-- The bytes of a text of ASCII characters. -/
def asciiBytes (cs : List Char) : List UInt8 := cs.map fun c => UInt8.ofNat c.toNat

theorem asciiBytes_map_ofNat (bs : List UInt8) :
    asciiBytes (bs.map fun b => Char.ofNat b.toNat) = bs := by
  simp [asciiBytes, Function.comp_def, toNat_ofNat_byte]

theorem asciiBytes_inj {v w : List Char} (hv : ∀ c ∈ v, c.toNat < 0x80)
    (hw : ∀ c ∈ w, c.toNat < 0x80) (h : asciiBytes v = asciiBytes w) : v = w := by
  have hback : ∀ cs : List Char, (∀ c ∈ cs, c.toNat < 0x80) →
      (asciiBytes cs).map (fun b => Char.ofNat b.toNat) = cs := by
    intro cs hcs
    rw [asciiBytes, List.map_map]
    refine (List.map_congr_left fun c hc => ?_).trans (List.map_id cs)
    show Char.ofNat (UInt8.ofNat c.toNat).toNat = c
    rw [toNat_byteOf (hcs c hc), Char.ofNat_toNat]
  rw [← hback v hv, ← hback w hw, h]

namespace Utf8

/-! ## Open characters -/

/-- The least character that the bytes read so far can still become. -/
def Pending.least (p : Pending) : Nat := (p.bits * 64 + (p.low - 0x80)) * 64 ^ p.more

/-- The greatest one. -/
def Pending.greatest (p : Pending) : Nat :=
  (p.bits * 64 + (p.high - 0x80)) * 64 ^ p.more + (64 ^ p.more - 1)

/-- What holds of every character that the decoder leaves open: no byte below `0x80`
continues it, and all it can become are characters past ASCII. -/
structure Pending.Sound (p : Pending) : Prop where
  more_le : p.more ≤ 2
  low_le : 0x80 ≤ p.low
  past_ascii : 0x80 ≤ p.least
  valid : p.greatest < 0xD800 ∨ 0xDFFF < p.least ∧ p.greatest < 0x110000

theorem start_ascii {b : UInt8} (hb : b.toNat < 0x80) :
    start b = ([Char.ofNat b.toNat], none) := by
  simp only [start, hb, if_true]

instance (p : Pending) : Decidable p.Sound :=
  decidable_of_iff
    (p.more ≤ 2 ∧ 0x80 ≤ p.low ∧ 0x80 ≤ p.least ∧
      (p.greatest < 0xD800 ∨ 0xDFFF < p.least ∧ p.greatest < 0x110000))
    ⟨fun ⟨hmore, hlow, hpast, hvalid⟩ => ⟨hmore, hlow, hpast, hvalid⟩,
      fun h => ⟨h.more_le, h.low_le, h.past_ascii, h.valid⟩⟩

/-- The table of first bytes, row by row. -/
theorem sound_start : ∀ b : UInt8, ∀ p ∈ (start b).2, p.Sound :=
  forall_byte_of_lt (by decide +kernel)

/-- One byte more, with others still owed: the range of what can come out only gets
smaller. -/
theorem Pending.Sound.next {p : Pending} (h : p.Sound) {n more : Nat} (hlow : p.low ≤ n)
    (hhigh : n ≤ p.high) (hmore : p.more = more + 1) :
    Sound ⟨p.bits * 64 + (n - 0x80), 0x80, 0xBF, more⟩ := by
  obtain ⟨bits, low, high, m⟩ := p
  obtain ⟨hle, hlow', hpast, hvalid⟩ := h
  simp only [least, greatest] at hlow hhigh hmore hle hlow' hpast hvalid
  subst hmore
  have hcount : more = 0 ∨ more = 1 := by omega
  rcases hcount with rfl | rfl <;> constructor <;> simp only [least, greatest] <;> omega

/-- The last byte owed gives a character past ASCII. -/
theorem Pending.Sound.complete {p : Pending} (h : p.Sound) {n : Nat} (hlow : p.low ≤ n)
    (hhigh : n ≤ p.high) (hmore : p.more = 0) :
    0x80 ≤ (Char.ofNat (p.bits * 64 + (n - 0x80))).toNat := by
  obtain ⟨bits, low, high, m⟩ := p
  obtain ⟨_, hlow', hpast, hvalid⟩ := h
  simp only [least, greatest] at hlow hhigh hmore hlow' hpast hvalid
  subst hmore
  have hchar : (bits * 64 + (n - 0x80)).isValidChar := by
    unfold Nat.isValidChar
    omega
  rw [toNat_ofNat hchar]
  omega

/-! ## One byte -/

/-- A byte below `0x80` ends what is open and stands for itself. -/
theorem step_ascii {p : Option Pending} (hp : ∀ q ∈ p, q.Sound) {b : UInt8}
    (hb : b.toNat < 0x80) : step p b = (flush p ++ [Char.ofNat b.toNat], none) := by
  cases p with
  | none => exact start_ascii hb
  | some q =>
    have hlow := (hp q rfl).low_le
    have hout : ¬(q.low ≤ b.toNat ∧ b.toNat ≤ q.high) := by omega
    simp only [step, hout, if_false, start_ascii hb]
    rfl

theorem sound_step {p : Option Pending} (hp : ∀ q ∈ p, q.Sound) (b : UInt8) :
    ∀ q ∈ (step p b).2, q.Sound := by
  cases p with
  | none => exact sound_start b
  | some q =>
    intro r hr
    by_cases hin : q.low ≤ b.toNat ∧ b.toNat ≤ q.high
    · simp only [step, hin, and_self, if_true] at hr
      cases hmore : q.more with
      | zero =>
        rw [hmore] at hr
        cases hr
      | succ more =>
        simp only [hmore, Option.mem_some_iff] at hr
        subst hr
        exact (hp q rfl).next hin.1 hin.2 hmore
    · simp only [step, hin, if_false] at hr
      exact sound_start b r hr

theorem le_toNat_of_mem_flush {p : Option Pending} {c : Char} (hc : c ∈ flush p) :
    0x80 ≤ c.toNat := by
  cases p with
  | none => cases hc
  | some q =>
    obtain rfl := List.mem_singleton.1 hc
    decide

/-- The other bytes give no ASCII. -/
theorem le_toNat_of_mem_step {p : Option Pending} (hp : ∀ q ∈ p, q.Sound) {b : UInt8}
    (hb : 0x80 ≤ b.toNat) {c : Char} (hc : c ∈ (step p b).1) : 0x80 ≤ c.toNat := by
  have htable : ∀ a : UInt8, 0x80 ≤ a.toNat → ((start a).1.all fun d => 0x80 ≤ d.toNat) = true :=
    forall_byte_of_lt (by decide +kernel)
  have hstart : ∀ d ∈ (start b).1, 0x80 ≤ d.toNat := by
    intro d hd
    exact of_decide_eq_true (List.all_eq_true.1 (htable b hb) d hd)
  cases p with
  | none => exact hstart c hc
  | some q =>
    by_cases hin : q.low ≤ b.toNat ∧ b.toNat ≤ q.high
    · simp only [step, hin, and_self, if_true] at hc
      cases hmore : q.more with
      | zero =>
        simp only [hmore, List.mem_singleton] at hc
        rw [hc]
        exact (hp q rfl).complete hin.1 hin.2 hmore
      | succ more =>
        rw [hmore] at hc
        cases hc
    · simp only [step, hin, if_false] at hc
      rcases List.mem_cons.1 hc with rfl | hc
      · decide
      · exact hstart c hc

/-! ## Cutting a reading at an ASCII character -/

theorem sound_none : ∀ q ∈ (none : Option Pending), q.Sound := by
  intro q hq
  cases hq

theorem decodeFrom_cons_ascii {p : Option Pending} (hp : ∀ q ∈ p, q.Sound) {b : UInt8}
    (hb : b.toNat < 0x80) (bs : List UInt8) :
    decodeFrom p (b :: bs) = flush p ++ Char.ofNat b.toNat :: decode bs := by
  rw [decodeFrom, step_ascii hp hb, List.append_assoc]
  rfl

theorem decodeFrom_append_cons {p : Option Pending} (hp : ∀ q ∈ p, q.Sound) (x : List UInt8)
    {b : UInt8} (hb : b.toNat < 0x80) (y : List UInt8) :
    decodeFrom p (x ++ b :: y) = decodeFrom p x ++ Char.ofNat b.toNat :: decode y := by
  induction x generalizing p with
  | nil => exact decodeFrom_cons_ascii hp hb y
  | cons a x ih =>
    rw [List.cons_append, decodeFrom, decodeFrom, ih (sound_step hp a), List.append_assoc]

/-- A byte below `0x80` stands for itself, whatever is before it and after it. -/
theorem decode_append_cons (x : List UInt8) {b : UInt8} (hb : b.toNat < 0x80) (y : List UInt8) :
    decode (x ++ b :: y) = decode x ++ Char.ofNat b.toNat :: decode y :=
  decodeFrom_append_cons sound_none x hb y

/-- An ASCII character of a text does not stand in a front part without ASCII. -/
theorem exists_of_append_eq_append_cons {front rest x y : List Char} {c : Char}
    (hfront : ∀ d ∈ front, 0x80 ≤ d.toNat) (hc : c.toNat < 0x80)
    (h : front ++ rest = x ++ c :: y) : ∃ x', x = front ++ x' ∧ rest = x' ++ c :: y := by
  rcases List.append_eq_append_iff.1 h with ⟨x', hx, hrest⟩ | ⟨z, hz, hy⟩
  · exact ⟨x', hx, hrest⟩
  · cases z with
    | nil => exact ⟨[], by simpa using hz.symm, by simpa using hy.symm⟩
    | cons d z =>
      obtain ⟨rfl, -⟩ := List.cons.inj hy
      have hpast := hfront c (by simp [hz])
      omega

/-- Going back: an ASCII character of the text is one of the bytes, and what stands
before and after it is read from the bytes before and after.  The induction is on the
bytes; one past ASCII only adds to the front of the text. -/
theorem exists_cut_of_decodeFrom {p : Option Pending} (hp : ∀ q ∈ p, q.Sound)
    {bs : List UInt8} {x y : List Char} {c : Char} (hc : c.toNat < 0x80)
    (h : decodeFrom p bs = x ++ c :: y) :
    ∃ u v, bs = u ++ UInt8.ofNat c.toNat :: v ∧ decodeFrom p u = x ∧ decode v = y := by
  induction bs generalizing p x with
  | nil =>
    have hmem : c ∈ flush p := by
      rw [show flush p = x ++ c :: y from h]
      simp
    have hpast := le_toNat_of_mem_flush hmem
    omega
  | cons b bs ih =>
    rcases Nat.lt_or_ge b.toNat 0x80 with hb | hb
    · rw [decodeFrom_cons_ascii hp hb] at h
      obtain ⟨x', rfl, h'⟩ :=
        exists_of_append_eq_append_cons (fun d hd => le_toNat_of_mem_flush hd) hc h
      cases x' with
      | nil =>
        obtain ⟨rfl, hrest⟩ := List.cons.inj h'
        refine ⟨[], bs, ?_, (List.append_nil _).symm, hrest⟩
        rw [toNat_ofNat_byte, UInt8.ofNat_toNat]
        rfl
      | cons d x' =>
        obtain ⟨rfl, hrest⟩ := List.cons.inj h'
        obtain ⟨u, v, rfl, hu, hv⟩ := ih sound_none hrest
        refine ⟨b :: u, v, rfl, ?_, hv⟩
        rw [decodeFrom_cons_ascii hp hb, decode, hu]
    · rw [decodeFrom] at h
      obtain ⟨x', rfl, h'⟩ :=
        exists_of_append_eq_append_cons (fun d hd => le_toNat_of_mem_step hp hb hd) hc h
      obtain ⟨u, v, rfl, hu, hv⟩ := ih (sound_step hp b) h'
      refine ⟨b :: u, v, rfl, ?_, hv⟩
      rw [decodeFrom, hu]

theorem exists_cut_of_decode {bs : List UInt8} {x y : List Char} {c : Char}
    (hc : c.toNat < 0x80) (h : decode bs = x ++ c :: y) :
    ∃ u v, bs = u ++ UInt8.ofNat c.toNat :: v ∧ decode u = x ∧ decode v = y :=
  exists_cut_of_decodeFrom sound_none hc h

/-! ## Words of ASCII characters -/

theorem step_fst_ne_nil {p : Option Pending} {b : UInt8} (h : (step p b).2 = none) :
    (step p b).1 ≠ [] := by
  have htable : ∀ a : UInt8, (start a).2 = none → (start a).1 ≠ [] :=
    forall_byte_of_lt (by decide +kernel)
  cases p with
  | none => exact htable b h
  | some q =>
    by_cases hin : q.low ≤ b.toNat ∧ b.toNat ≤ q.high
    · cases hmore : q.more with
      | zero => simp [step, hin, hmore]
      | succ more => simp [step, hin, hmore] at h
    · simp [step, hin]

/-- Only no bytes are read as no text. -/
theorem eq_nil_of_decodeFrom_eq_nil {p : Option Pending} {bs : List UInt8}
    (h : decodeFrom p bs = []) : bs = [] ∧ p = none := by
  induction bs generalizing p with
  | nil =>
    cases p with
    | none => exact ⟨rfl, rfl⟩
    | some q => cases h
  | cons b bs ih =>
    rw [decodeFrom, List.append_eq_nil_iff] at h
    exact absurd h.1 (step_fst_ne_nil (ih h.2).2)

theorem exists_bytes_of_decode {w y : List Char} (hw : ∀ c ∈ w, c.toNat < 0x80)
    {bs : List UInt8} (h : decode bs = w ++ y) : ∃ v, bs = asciiBytes w ++ v ∧ decode v = y := by
  induction w generalizing bs with
  | nil => exact ⟨bs, rfl, h⟩
  | cons c w ih =>
    obtain ⟨u, v, rfl, hu, hv⟩ := exists_cut_of_decode (x := []) (hw c List.mem_cons_self) h
    obtain ⟨rfl, -⟩ := eq_nil_of_decodeFrom_eq_nil hu
    obtain ⟨v', rfl, hv'⟩ := ih (fun d hd => hw d (List.mem_cons_of_mem c hd)) hv
    exact ⟨v', rfl, hv'⟩

theorem decode_append_byteOf (x : List UInt8) {c : Char} (hc : c.toNat < 0x80)
    (y : List UInt8) : decode (x ++ UInt8.ofNat c.toNat :: y) = decode x ++ c :: decode y := by
  have hb := toNat_byteOf hc
  rw [decode_append_cons x (by omega) y, hb, Char.ofNat_toNat]

theorem decode_asciiBytes_append {w : List Char} (hw : ∀ c ∈ w, c.toNat < 0x80)
    (bs : List UInt8) : decode (asciiBytes w ++ bs) = w ++ decode bs := by
  induction w with
  | nil => rfl
  | cons c w ih =>
    have hcut := decode_append_byteOf [] (hw c List.mem_cons_self) (asciiBytes w ++ bs)
    rw [ih fun d hd => hw d (List.mem_cons_of_mem c hd)] at hcut
    exact hcut

/-- A word of ASCII characters stands in the text if and only if it stands in the
bytes. -/
theorem infix_decode_iff {w : List Char} (hw : ∀ c ∈ w, c.toNat < 0x80) {bs : List UInt8} :
    w <:+: decode bs ↔ asciiBytes w <:+: bs := by
  cases w with
  | nil => exact ⟨fun _ => List.nil_infix, fun _ => List.nil_infix⟩
  | cons c w =>
    have hc : c.toNat < 0x80 := hw c List.mem_cons_self
    have hrest : ∀ d ∈ w, d.toNat < 0x80 := fun d hd => hw d (List.mem_cons_of_mem c hd)
    constructor
    · rintro ⟨x, y, h⟩
      rw [List.append_assoc] at h
      obtain ⟨u, v, rfl, -, hv⟩ := exists_cut_of_decode hc h.symm
      obtain ⟨v', rfl, -⟩ := exists_bytes_of_decode hrest hv
      exact ⟨u, v', List.append_assoc ..⟩
    · rintro ⟨u, v, rfl⟩
      refine ⟨decode u, decode v, ?_⟩
      rw [List.append_assoc, List.append_assoc]
      show _ = decode (u ++ UInt8.ofNat c.toNat :: (asciiBytes w ++ v))
      rw [decode_append_byteOf u hc, decode_asciiBytes_append hrest]
      rfl

end Utf8
end Text
end RoleNaming
