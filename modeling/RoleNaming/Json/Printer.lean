/-
JSON documents as indented text of ASCII characters.
-/
import RoleNaming.Json.Value
import RoleNaming.Text.Decimal
import RoleNaming.Text.Quoted

namespace RoleNaming
namespace Json
namespace Printer

open Text

/-- A unit of sixteen bits, by its four digits. -/
def unit (n : Nat) : List Char := backslash :: 'u' :: hexDigits 4 n

/-- A character of a string.  What is not printable ASCII is written by its
units of sixteen bits, two of them for a code point past the first plane. -/
def char (c : Char) : List Char :=
  let n := c.toNat
  if c = doubleQuote ∨ c = backslash then [backslash, c]
  else if c = '\n' then [backslash, 'n']
  else if c = '\r' then [backslash, 'r']
  else if c = '\t' then [backslash, 't']
  else if n = 0x08 then [backslash, 'b']
  else if n = 0x0C then [backslash, 'f']
  else if 0x20 ≤ n ∧ n < 0x7F then [c]
  else if n < 0x10000 then unit n
  else unit (0xD800 + (n - 0x10000) / 0x400) ++ unit (0xDC00 + (n - 0x10000) % 0x400)

def string (s : String) : List Char :=
  doubleQuote :: s.toList.flatMap char ++ [doubleQuote]

/-- A new line, indented by two blanks a level. -/
def newline (depth : Nat) : List Char := '\n' :: List.replicate (2 * depth) ' '

/- A document at a depth of nesting.  An empty array or object stays on its
line; the items of another stand on lines of their own. -/
mutual
def value (depth : Nat) : Json → List Char
  | .null => "null".toList
  | .bool true => "true".toList
  | .bool false => "false".toList
  | .int n => intDigits n
  | .str s => string s
  | .arr [] => ['[', ']']
  | .arr (j :: js) =>
    '[' :: newline (depth + 1) ++ value (depth + 1) j ++ items (depth + 1) js ++
      newline depth ++ [']']
  | .obj [] => [openBrace, closeBrace]
  | .obj ((k, j) :: ms) =>
    openBrace :: newline (depth + 1) ++ string k ++ [':', ' '] ++ value (depth + 1) j ++
      members (depth + 1) ms ++ newline depth ++ [closeBrace]

def items (depth : Nat) : List Json → List Char
  | [] => []
  | j :: js => ',' :: newline depth ++ value depth j ++ items depth js

def members (depth : Nat) : List (String × Json) → List Char
  | [] => []
  | (k, j) :: ms =>
    ',' :: newline depth ++ string k ++ [':', ' '] ++ value depth j ++ members depth ms
end

end Printer

/-- The document as indented text. -/
def render (j : Json) : String := String.ofList (Printer.value 0 j)

end Json
end RoleNaming
