/-
Texts between quotes, as the log shows them: one line of printable characters
whatever the text holds.
-/
import RoleNaming.Text.Hex
import RoleNaming.Text.Printable

namespace RoleNaming
namespace Text

def apostrophe : Char := Char.ofNat 0x27

def doubleQuote : Char := Char.ofNat 0x22

def backslash : Char := Char.ofNat 0x5C

namespace Quoted

/-- Apostrophes enclose the text, unless they would have to be escaped and
double quotes would not. -/
def mark (cs : List Char) : Char :=
  if cs.contains apostrophe && !cs.contains doubleQuote then doubleQuote else apostrophe

/-- A character between the quotes.  What does not show itself is written by
its code point in two, four or eight digits. -/
def escape (mark c : Char) : List Char :=
  if c = mark ∨ c = backslash then [backslash, c]
  else if c = '\t' then [backslash, 't']
  else if c = '\n' then [backslash, 'n']
  else if c = '\r' then [backslash, 'r']
  else if isPrintable c then [c]
  else if c.toNat < 0x100 then backslash :: 'x' :: hexDigits 2 c.toNat
  else if c.toNat < 0x10000 then backslash :: 'u' :: hexDigits 4 c.toNat
  else backslash :: 'U' :: hexDigits 8 c.toNat

end Quoted

/-- The text between quotes. -/
def quoted (s : String) : String :=
  let cs := s.toList
  let mark := Quoted.mark cs
  String.ofList (mark :: cs.flatMap (Quoted.escape mark) ++ [mark])

end Text
end RoleNaming
