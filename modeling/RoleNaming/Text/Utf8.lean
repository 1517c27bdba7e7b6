/-
Reading bytes as UTF-8 without ever failing.  Each longest piece of a character
that cannot be completed is read as one replacement character, so a damaged
place costs nothing of the text around it.
-/

namespace RoleNaming
namespace Text

def replacement : Char := Char.ofNat 0xFFFD

namespace Utf8

/-- A character whose first bytes have been read: the bits they gave, the range
the next byte has to lie in, and how many bytes are owed after that one.  The
range is narrower after some first bytes, which keeps out overlong forms,
surrogates and code points past the last. -/
structure Pending where
  bits : Nat
  low : Nat
  high : Nat
  more : Nat
  deriving DecidableEq, Repr

/-- A byte that starts a character: the text it completes and what it leaves
open. -/
def start (b : UInt8) : List Char × Option Pending :=
  let n := b.toNat
  if n < 0x80 then ([Char.ofNat n], none)
  else if n < 0xC2 then ([replacement], none)
  else if n < 0xE0 then ([], some ⟨n - 0xC0, 0x80, 0xBF, 0⟩)
  else if n = 0xE0 then ([], some ⟨0, 0xA0, 0xBF, 1⟩)
  else if n = 0xED then ([], some ⟨0x0D, 0x80, 0x9F, 1⟩)
  else if n < 0xF0 then ([], some ⟨n - 0xE0, 0x80, 0xBF, 1⟩)
  else if n = 0xF0 then ([], some ⟨0, 0x90, 0xBF, 2⟩)
  else if n < 0xF4 then ([], some ⟨n - 0xF0, 0x80, 0xBF, 2⟩)
  else if n = 0xF4 then ([], some ⟨4, 0x80, 0x8F, 2⟩)
  else ([replacement], none)

/-- One byte more.  A byte that cannot continue the open character ends it as a
replacement character and then starts one itself. -/
def step : Option Pending → UInt8 → List Char × Option Pending
  | none, b => start b
  | some p, b =>
    if p.low ≤ b.toNat ∧ b.toNat ≤ p.high then
      let bits := p.bits * 64 + (b.toNat - 0x80)
      match p.more with
      | 0 => ([Char.ofNat bits], none)
      | more + 1 => ([], some ⟨bits, 0x80, 0xBF, more⟩)
    else
      let (out, next) := start b
      (replacement :: out, next)

/-- What an open character is worth when the bytes end. -/
def flush : Option Pending → List Char
  | none => []
  | some _ => [replacement]

/-- The text of the bytes that follow an open character. -/
def decodeFrom : Option Pending → List UInt8 → List Char
  | p, [] => flush p
  | p, b :: bs => (step p b).1 ++ decodeFrom (step p b).2 bs

/-- The text of the bytes. -/
def decode (bytes : List UInt8) : List Char := decodeFrom none bytes

@[simp] theorem decode_nil : decode [] = [] := rfl

end Utf8

/-- The bytes from `start` up to `stop`, as far as there are any. -/
def slice (bytes : List UInt8) (start stop : Nat) : List UInt8 := (bytes.take stop).drop start

end Text
end RoleNaming
