/-
Texts in lower case, by the full rules of Unicode: a letter may become two
characters, and a capital sigma becomes a final sigma at the end of a word.
-/
import RoleNaming.Text.CaseContext
import RoleNaming.Text.CaseTable

namespace RoleNaming
namespace Text

def capitalSigma : Char := Char.ofNat 0x03A3

def dottedCapitalI : Char := Char.ofNat 0x0130

/-- A letter in lower case, wherever it stands.  Dotted capital I keeps its dot
as a combining mark. -/
def lowerChar (c : Char) : List Char :=
  if c = dottedCapitalI then ['i', Char.ofNat 0x0307]
  else
    match caseRuns.findSome? fun r => r.small? c.toNat with
    | some n => [Char.ofNat n]
    | none => [c]

/-- Whether the next letter, past what is case-ignorable, belongs to the same
word. -/
def cased? : List Char → Bool
  | [] => false
  | c :: cs => if isCaseIgnorable c then cased? cs else isCased c

/-- The rest of a text in lower case; `inWord` says whether the letter before
it, past what is case-ignorable, is a cased one. -/
def lowerFrom : Bool → List Char → List Char
  | _, [] => []
  | inWord, c :: cs =>
    let here :=
      if c = capitalSigma then
        [Char.ofNat (if inWord && !cased? cs then 0x03C2 else 0x03C3)]
      else
        lowerChar c
    here ++ lowerFrom (if isCaseIgnorable c then inWord else isCased c) cs

/-- The text in lower case. -/
def lowercase (s : String) : String := String.ofList (lowerFrom false s.toList)

end Text
end RoleNaming
