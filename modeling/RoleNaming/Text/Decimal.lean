/-
Integers in decimal notation.
-/

namespace RoleNaming
namespace Text

/-- A natural number in decimal digits, without leading zeros. -/
def natDigits (n : Nat) : List Char := Nat.toDigits 10 n

/-- An integer in decimal digits, a negative one after a minus sign. -/
def intDigits : Int → List Char
  | .ofNat n => natDigits n
  | .negSucc n => '-' :: natDigits (n + 1)

def decimal (n : Int) : String := String.ofList (intDigits n)

end Text
end RoleNaming
