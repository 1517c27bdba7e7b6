/-
A node of an encoded text is read back exactly.

The bytes of a source are the encoding of a text, and a node that starts and stops between two
characters of it is read as what stands between.  `text_encoded` is the theorem, together with
what is left of it for bytes that encode nothing: they are read all the same, and a byte below
`0x80` cuts the reading.

A character past ASCII is a first byte and up to three more with six bits each.  What the decoder
keeps of the bytes read so far is the character without its last bits (`Pending.Opens`), and each
byte that follows adds six of them.
-/
import RoleNaming.Proofs.Decoding
import RoleNaming.Syntax.Node

namespace RoleNaming
namespace Text
namespace Utf8

/-! ## One character -/

theorem toNat_ofNat_continuation (k : Nat) : (UInt8.ofNat (k % 64 + 128)).toNat = k % 64 + 128 := by
  rw [UInt8.toNat_ofNat']
  omega

/-- The bytes that continue the character with number `v` when `more` are owed after the next
one. -/
def continuation (v : Nat) : Nat → List UInt8
  | 0 => [UInt8.ofNat (v % 64 + 128)]
  | more + 1 => UInt8.ofNat (v / 64 ^ (more + 1) % 64 + 128) :: continuation v more

/-- The bytes read so far are the first ones of the character with number `v`. -/
structure Pending.Opens (p : Pending) (v : Nat) : Prop where
  bits : p.bits = v / 64 ^ (p.more + 1)
  low_le : p.low ≤ v / 64 ^ p.more % 64 + 128
  le_high : v / 64 ^ p.more % 64 + 128 ≤ p.high

/-- The bits of one byte more. -/
theorem div_pow_succ_mul (v more : Nat) :
    v / 64 ^ (more + 1) * 64 + v / 64 ^ more % 64 = v / 64 ^ more := by
  rw [Nat.pow_succ, ← Nat.div_div_eq_div_mul]
  omega

theorem decodeFrom_continuation {p : Pending} {v more : Nat} (h : p.Opens v)
    (hmore : p.more = more) (bs : List UInt8) :
    decodeFrom (some p) (continuation v more ++ bs) = Char.ofNat v :: decode bs := by
  induction more generalizing p with
  | zero =>
    obtain ⟨hbits, hlow, hhigh⟩ := h
    have hv := div_pow_succ_mul v 0
    simp only [hmore, Nat.pow_zero, Nat.div_one] at hbits hlow hhigh hv
    have hbyte := toNat_ofNat_continuation v
    have hsum : p.bits * 64 + (v % 64 + 128 - 128) = v := by omega
    simp only [continuation, List.singleton_append, decodeFrom, step, hbyte, hlow, hhigh, and_self,
      if_true, hmore, hsum]
    rfl
  | succ more ih =>
    obtain ⟨hbits, hlow, hhigh⟩ := h
    have hv := div_pow_succ_mul v (more + 1)
    rw [hmore] at hbits hlow hhigh
    have hbyte := toNat_ofNat_continuation (v / 64 ^ (more + 1))
    have hsum : p.bits * 64 + (v / 64 ^ (more + 1) % 64 + 128 - 128) = v / 64 ^ (more + 1) := by
      omega
    have hnext : Pending.Opens ⟨v / 64 ^ (more + 1), 0x80, 0xBF, more⟩ v := by
      refine ⟨rfl, ?_, ?_⟩
      · show 0x80 ≤ v / 64 ^ more % 64 + 128
        omega
      · show v / 64 ^ more % 64 + 128 ≤ 0xBF
        omega
    simp only [continuation, List.cons_append, decodeFrom, step, hbyte, hlow, hhigh, and_self,
      if_true, hmore, hsum]
    exact ih hnext rfl

/- First bytes by the length of the character.  The range of the next byte is cut at the bottom
after the first of them and at the top after the last one, and before the surrogates. -/
theorem start_two : ∀ b : UInt8, 0xC2 ≤ b.toNat → b.toNat < 0xE0 →
    start b = ([], some ⟨b.toNat - 0xC0, 0x80, 0xBF, 0⟩) :=
  forall_byte_of_lt (by decide +kernel)

theorem start_three : ∀ b : UInt8, 0xE0 ≤ b.toNat → b.toNat < 0xF0 →
    start b = ([], some ⟨b.toNat - 0xE0, if b.toNat = 0xE0 then 0xA0 else 0x80,
      if b.toNat = 0xED then 0x9F else 0xBF, 1⟩) :=
  forall_byte_of_lt (by decide +kernel)

theorem start_four : ∀ b : UInt8, 0xF0 ≤ b.toNat → b.toNat < 0xF5 →
    start b = ([], some ⟨b.toNat - 0xF0, if b.toNat = 0xF0 then 0x90 else 0x80,
      if b.toNat = 0xF4 then 0x8F else 0xBF, 2⟩) :=
  forall_byte_of_lt (by decide +kernel)

/- What these first bytes leave open is the character that they were made of. -/
section

variable {v : Nat} {b : UInt8}

theorem opens_two (hb : b.toNat = v / 64 + 192) (hlow : 0x80 ≤ v) (hhigh : v ≤ 0x7FF) :
    ∃ p, start b = ([], some p) ∧ p.Opens v ∧ p.more = 0 := by
  refine ⟨_, start_two b (by omega) (by omega), ⟨?_, ?_, ?_⟩, rfl⟩
  all_goals simp only [hb]; omega

theorem opens_three (hb : b.toNat = v / 4096 + 224) (hlow : 0x7FF < v) (hhigh : v ≤ 0xFFFF)
    (hvalid : v < 0xD800 ∨ 0xDFFF < v) :
    ∃ p, start b = ([], some p) ∧ p.Opens v ∧ p.more = 1 := by
  refine ⟨_, start_three b (by omega) (by omega), ⟨?_, ?_, ?_⟩, rfl⟩
  · simp only [hb]
    omega
  · simp only [hb]
    split <;> omega
  · simp only [hb]
    split <;> omega

theorem opens_four (hb : b.toNat = v / 262144 + 240) (hlow : 0xFFFF < v) (hhigh : v < 0x110000) :
    ∃ p, start b = ([], some p) ∧ p.Opens v ∧ p.more = 2 := by
  refine ⟨_, start_four b (by omega) (by omega), ⟨?_, ?_, ?_⟩, rfl⟩
  · simp only [hb]
    omega
  · simp only [hb]
    split <;> omega
  · simp only [hb]
    split <;> omega

end

/-- The encoding of a character past ASCII is a first byte that opens it and the bytes that
continue it. -/
theorem utf8EncodeChar_past {c : Char} (hc : 0x80 ≤ c.toNat) :
    ∃ first p, start first = ([], some p) ∧ p.Opens c.toNat ∧
      String.utf8EncodeChar c = first :: continuation c.toNat p.more := by
  have hvalid : c.toNat < 0xD800 ∨ 0xDFFF < c.toNat ∧ c.toNat < 0x110000 := c.valid
  have hone : ¬c.toNat ≤ 127 := by omega
  by_cases htwo : c.toNat ≤ 2047
  · have hfirst : (UInt8.ofNat (c.toNat / 64 % 32 + 192)).toNat = c.toNat / 64 + 192 := by
      rw [UInt8.toNat_ofNat']
      omega
    obtain ⟨p, hstart, hopens, hmore⟩ := opens_two hfirst hc htwo
    refine ⟨_, p, hstart, hopens, ?_⟩
    rw [String.utf8EncodeChar, Char.toNat_val, if_neg hone, if_pos htwo, hmore]
    rfl
  by_cases hthree : c.toNat ≤ 65535
  · have hfirst : (UInt8.ofNat (c.toNat / 4096 % 16 + 224)).toNat = c.toNat / 4096 + 224 := by
      rw [UInt8.toNat_ofNat']
      omega
    obtain ⟨p, hstart, hopens, hmore⟩ :=
      opens_three hfirst (by omega) hthree (hvalid.imp_right And.left)
    refine ⟨_, p, hstart, hopens, ?_⟩
    rw [String.utf8EncodeChar, Char.toNat_val, if_neg hone, if_neg htwo, if_pos hthree, hmore]
    rfl
  · have hfirst : (UInt8.ofNat (c.toNat / 262144 % 8 + 240)).toNat = c.toNat / 262144 + 240 := by
      rw [UInt8.toNat_ofNat']
      omega
    obtain ⟨p, hstart, hopens, hmore⟩ := opens_four hfirst (by omega) (by omega)
    refine ⟨_, p, hstart, hopens, ?_⟩
    rw [String.utf8EncodeChar, Char.toNat_val, if_neg hone, if_neg htwo, if_neg hthree, hmore]
    rfl

/-- A character is read back from its encoding, whatever comes behind it. -/
theorem decode_utf8EncodeChar_append (c : Char) (bs : List UInt8) :
    decode (String.utf8EncodeChar c ++ bs) = c :: decode bs := by
  rcases Nat.lt_or_ge c.toNat 0x80 with hc | hc
  · have hbyte : String.utf8EncodeChar c = asciiBytes [c] := by
      have hle : c.val.toNat ≤ 127 := Nat.le_of_lt_succ hc
      rw [String.utf8EncodeChar, if_pos hle]
      rfl
    rw [hbyte]
    exact decode_asciiBytes_append (List.forall_mem_singleton.2 hc) bs
  · obtain ⟨first, p, hstart, hopens, hencoded⟩ := utf8EncodeChar_past hc
    have hfirst : decode (first :: (continuation c.toNat p.more ++ bs)) =
        decodeFrom (some p) (continuation c.toNat p.more ++ bs) := by
      rw [decode, decodeFrom, step, hstart]
      rfl
    rw [hencoded, List.cons_append, hfirst, decodeFrom_continuation hopens rfl, Char.ofNat_toNat]

theorem decode_flatMap_append (cs : List Char) (bs : List UInt8) :
    decode (cs.flatMap String.utf8EncodeChar ++ bs) = cs ++ decode bs := by
  induction cs with
  | nil => rfl
  | cons c cs ih =>
    rw [List.flatMap_cons, List.append_assoc, decode_utf8EncodeChar_append, ih]
    rfl

end Utf8

/-! ## A text -/

/- The bytes of an array are listed by a loop that takes them from the front. -/
theorem toList_loop (bs : ByteArray) (i : Nat) (read : List UInt8) :
    ByteArray.toList.loop bs i read = read.reverse ++ bs.data.toList.drop i := by
  fun_induction ByteArray.toList.loop bs i read with
  | case1 i read hlt ih =>
    have hlength : i < bs.data.toList.length := hlt
    have hbyte : bs.get! i = bs.data.toList[i] := getElem!_pos bs.data i hlt
    rw [ih, List.drop_eq_getElem_cons hlength, hbyte, List.reverse_cons, List.append_assoc]
    rfl
  | case2 i read hge =>
    have hlength : bs.data.toList.length ≤ i := Nat.le_of_not_lt hge
    rw [List.drop_eq_nil_of_le hlength, List.append_nil]

theorem toList_eq_data (bs : ByteArray) : bs.toList = bs.data.toList := toList_loop bs 0 []

theorem toList_toUTF8 (s : String) :
    s.toUTF8.toList = s.toList.flatMap String.utf8EncodeChar := by
  have hlist : (String.ofList s.toList).toUTF8.data.toList =
      s.toList.flatMap String.utf8EncodeChar := List.toList_data_toByteArray
  rwa [String.ofList_toList, ← toList_eq_data] at hlist

theorem length_toUTF8 (s : String) : s.toUTF8.toList.length = s.utf8ByteSize := by
  rw [toList_eq_data]
  rfl

theorem toUTF8_append (s t : String) :
    (s ++ t).toUTF8.toList = s.toUTF8.toList ++ t.toUTF8.toList := by
  simp only [toList_toUTF8, String.toList_append, List.flatMap_append]

theorem decode_toUTF8 (s : String) : Utf8.decode s.toUTF8.toList = s.toList := by
  have h := Utf8.decode_flatMap_append s.toList []
  rw [List.append_nil, Utf8.decode_nil, List.append_nil] at h
  rw [toList_toUTF8, h]

/-- A slice between two cuts of the bytes. -/
theorem slice_append (x y z : List UInt8) :
    slice (x ++ y ++ z) x.length (x.length + y.length) = y := by
  rw [slice, ← List.length_append, List.take_left, List.drop_left]

/-- Behind the last byte there is nothing to take. -/
theorem slice_of_le {x y : List UInt8} {stop : Nat} (h : x.length + y.length ≤ stop) :
    slice (x ++ y) x.length stop = y := by
  rw [slice, List.take_of_length_le (by rwa [List.length_append]), List.drop_left]

end Text

namespace Syntax
namespace Node

open Text

/-- A node between two cuts of an encoded text is read as what stands between them; where nothing
follows, it may stop anywhere past the end.  What bytes of any kind are read as is a text, which
is read back from its own encoding, and a byte below `0x80` is read as itself between what stands
before it and what stands behind it. -/
theorem text_encoded :
    (∀ (u v w : String) (n : Node), n.start = u.utf8ByteSize →
      n.stop = u.utf8ByteSize + v.utf8ByteSize → n.text (u ++ v ++ w).toUTF8.toList = v) ∧
    (∀ (u v : String) (n : Node), n.start = u.utf8ByteSize →
      (u ++ v).utf8ByteSize ≤ n.stop → n.text (u ++ v).toUTF8.toList = v) ∧
    (∀ bytes : Bytes,
      Utf8.decode (String.ofList (Utf8.decode bytes)).toUTF8.toList = Utf8.decode bytes) ∧
    ∀ (x y : Bytes) (b : UInt8), b.toNat < 0x80 →
      Utf8.decode (x ++ [b] ++ y) = Utf8.decode x ++ [Char.ofNat b.toNat] ++ Utf8.decode y := by
  refine ⟨?_, ?_, ?_, ?_⟩
  · intro u v w n hstart hstop
    rw [text, hstart, hstop, toUTF8_append, toUTF8_append, ← length_toUTF8, ← length_toUTF8,
      slice_append, decode_toUTF8, String.ofList_toList]
  · intro u v n hstart hstop
    rw [← length_toUTF8, toUTF8_append, List.length_append] at hstop
    rw [text, hstart, toUTF8_append, ← length_toUTF8, slice_of_le hstop, decode_toUTF8,
      String.ofList_toList]
  · intro bytes
    rw [decode_toUTF8, String.toList_ofList]
  · intro x y b hb
    rw [List.append_assoc, List.append_assoc]
    exact Utf8.decode_append_cons x hb y

/-! ### Characters of every length

The text `aé€😀z`, whose characters take one byte, two, three, four and one. -/

namespace Lengths

def between (start stop : Nat) : Node := .mk ⟨0, "identifier", true, none, start, stop, 0, 0⟩ []

end Lengths

theorem text_encoded_lengths :
    ((Lengths.between 3 10).start = "aé".utf8ByteSize ∧
        (Lengths.between 3 10).stop = "aé".utf8ByteSize + "€😀".utf8ByteSize ∧
        (Lengths.between 3 10).text "aé€😀z".toUTF8.toList = "€😀") ∧
      ((Lengths.between 6 99).start = "aé€".utf8ByteSize ∧
        ("aé€" ++ "😀z").utf8ByteSize ≤ (Lengths.between 6 99).stop ∧
        (Lengths.between 6 99).text "aé€😀z".toUTF8.toList = "😀z") ∧
      Utf8.decode ([0xE2, 0x82] ++ [0x2E] ++ [0xAC]) =
        Utf8.decode [0xE2, 0x82] ++ ['.'] ++ Utf8.decode [0xAC] := by
  obtain ⟨hbetween, hpast, -, hcut⟩ := text_encoded
  have hstop : ("aé€" ++ "😀z").utf8ByteSize ≤ (Lengths.between 6 99).stop := by decide
  exact ⟨⟨rfl, rfl, hbetween "aé" "€😀" "z" (Lengths.between 3 10) rfl rfl⟩,
    ⟨rfl, hstop, hpast "aé€" "😀z" (Lengths.between 6 99) rfl hstop⟩,
    hcut [0xE2, 0x82] [0xAC] 0x2E (by decide)⟩

end Node
end Syntax
end RoleNaming
