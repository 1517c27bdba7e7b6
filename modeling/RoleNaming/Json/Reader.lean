/-
Reading JSON documents.  Anything that is not exactly one document is refused,
and so are numbers that are not integers and halves of surrogate pairs that
stand alone.
-/
import RoleNaming.Json.Value
import RoleNaming.Text.Quoted

namespace RoleNaming
namespace Json
namespace Reader

open Text

def isSpace (c : Char) : Bool := c == ' ' || c == '\n' || c == '\r' || c == '\t'

def skip (cs : List Char) : List Char := cs.dropWhile isSpace

/-- The rest of a text after the given beginning. -/
def after? : List Char → List Char → Option (List Char)
  | [], cs => some cs
  | _ :: _, [] => none
  | w :: ws, c :: cs => if w = c then after? ws cs else none

/-! ## Strings -/

/-- What a single letter after a backslash stands for. -/
def escaped? (c : Char) : Option Nat :=
  if c = doubleQuote ∨ c = backslash ∨ c = '/' then some c.toNat
  else if c = 'b' then some 0x08
  else if c = 'f' then some 0x0C
  else if c = 'n' then some 0x0A
  else if c = 'r' then some 0x0D
  else if c = 't' then some 0x09
  else none

/-- A unit of sixteen bits from its four digits. -/
def unit? (a b c d : Char) : Option Nat := do
  let a ← hexValue? a
  let b ← hexValue? b
  let c ← hexValue? c
  let d ← hexValue? d
  return ((a * 16 + b) * 16 + c) * 16 + d

/-- The code points and units of a string up to its closing quote, and what
follows. -/
def units : List Char → Option (List Nat × List Char)
  | [] => none
  | c :: cs =>
    if c = doubleQuote then some ([], cs)
    else if c = backslash then
      match cs with
      | 'u' :: h₁ :: h₂ :: h₃ :: h₄ :: rest => do
        let u ← unit? h₁ h₂ h₃ h₄
        let (us, rest) ← units rest
        return (u :: us, rest)
      | e :: rest => do
        let u ← escaped? e
        let (us, rest) ← units rest
        return (u :: us, rest)
      | [] => none
    else if c.toNat < 0x20 then none
    else do
      let (us, rest) ← units cs
      return (c.toNat :: us, rest)

def isHigh (n : Nat) : Bool := decide (0xD800 ≤ n ∧ n < 0xDC00)

def isLow (n : Nat) : Bool := decide (0xDC00 ≤ n ∧ n < 0xE000)

/-- Characters from units.  A high and a low unit make one character; neither
makes one alone. -/
def chars : List Nat → Option (List Char)
  | [] => some []
  | n :: ns =>
    if isHigh n then
      match ns with
      | m :: rest =>
        if isLow m then do
          let cs ← chars rest
          return Char.ofNat (0x10000 + (n - 0xD800) * 0x400 + (m - 0xDC00)) :: cs
        else none
      | [] => none
    else if isLow n then none
    else do
      let cs ← chars ns
      return Char.ofNat n :: cs

/-- A string after its opening quote. -/
def string (cs : List Char) : Option (String × List Char) := do
  let (us, rest) ← units cs
  let s ← chars us
  return (String.ofList s, rest)

/-! ## Numbers -/

def isDigit (c : Char) : Bool := decide ('0' ≤ c ∧ c ≤ '9')

/-- What may not follow an integer: with it the number would be another one. -/
def continuesNumber : List Char → Bool
  | c :: _ => isDigit c || c == '.' || c == 'e' || c == 'E'
  | [] => false

/-- Digits without a needless zero in front. -/
def nat (cs : List Char) : Option (Nat × List Char) :=
  let digits := cs.takeWhile isDigit
  let rest := cs.dropWhile isDigit
  if digits = [] ∨ continuesNumber rest then none
  else if digits.head? = some '0' ∧ digits.length ≠ 1 then none
  else some (Nat.ofDigitChars 10 digits 0, rest)

def int : List Char → Option (Int × List Char)
  | '-' :: cs => (nat cs).map fun (n, rest) => (-(n : Int), rest)
  | cs => (nat cs).map fun (n, rest) => ((n : Int), rest)

/-! ## Documents -/

/- A document, the items of an array and the members of an object, the last two
from after the opening bracket or a comma on.  Each level of nesting uses one
unit of fuel and so does each item; the length of the text is enough. -/
mutual
def value : Nat → List Char → Option (Json × List Char)
  | 0, _ => none
  | fuel + 1, cs =>
    match skip cs with
    | [] => none
    | c :: rest =>
      if c = doubleQuote then (string rest).map fun (s, rest) => (.str s, rest)
      else if c = '[' then
        match after? [']'] (skip rest) with
        | some rest => some (.arr [], rest)
        | none => (items fuel rest).map fun (js, rest) => (.arr js, rest)
      else if c = openBrace then
        match after? [closeBrace] (skip rest) with
        | some rest => some (.obj [], rest)
        | none => (members fuel rest).map fun (ms, rest) => (.obj ms, rest)
      else if c = 'n' then (after? "ull".toList rest).map fun rest => (.null, rest)
      else if c = 't' then (after? "rue".toList rest).map fun rest => (.bool true, rest)
      else if c = 'f' then (after? "alse".toList rest).map fun rest => (.bool false, rest)
      else (int (c :: rest)).map fun (n, rest) => (.int n, rest)

def items : Nat → List Char → Option (List Json × List Char)
  | 0, _ => none
  | fuel + 1, cs => do
    let (j, rest) ← value fuel cs
    match skip rest with
    | ']' :: rest => some ([j], rest)
    | ',' :: rest => do
      let (js, rest) ← items fuel rest
      return (j :: js, rest)
    | _ => none

def members : Nat → List Char → Option (List (String × Json) × List Char)
  | 0, _ => none
  | fuel + 1, cs =>
    match skip cs with
    | [] => none
    | q :: rest =>
      if q = doubleQuote then do
        let (k, rest) ← string rest
        match skip rest with
        | ':' :: rest => do
          let (j, rest) ← value fuel rest
          match skip rest with
          | [] => none
          | c :: rest =>
            if c = closeBrace then some ([(k, j)], rest)
            else if c = ',' then do
              let (ms, rest) ← members fuel rest
              return ((k, j) :: ms, rest)
            else none
        | _ => none
      else none
end

end Reader

/-- The document that a text is. -/
def parse? (s : String) : Option Json :=
  match Reader.value (s.toList.length + 1) s.toList with
  | some (j, rest) => if (Reader.skip rest).isEmpty then some j else none
  | none => none

end Json
end RoleNaming
