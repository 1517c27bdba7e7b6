/-
The words of a command line, told apart: options, operands, and the divider
after which every word is an operand.  A long option may be shortened as long
as it stays the only one that fits.
-/
import RoleNaming.Command.Setting
import RoleNaming.Text.Digit
import RoleNaming.Text.Search

namespace RoleNaming
namespace Command

open Text

inductive Word where
  | operand (text : String)
  | divider
  /-- An option, spelled short or long, with the value written onto it. -/
  | option (setting : Setting) (short : Bool) (value : Option String)
  /-- A word that looks like an option and is none. -/
  | unknown (text : String)
  deriving DecidableEq, Repr

namespace Word

def dividerText : String := "--"

/-- Digits, with at most one point before the last of them. -/
def isNumeral (cs : List Char) : Bool :=
  match cs.dropWhile isDecimalDigit with
  | [] => !cs.isEmpty
  | '.' :: rest => !rest.isEmpty && rest.all isDecimalDigit
  | _ => false

/-- The word without the end of its line. -/
def dropFinalNewline (cs : List Char) : List Char :=
  if cs.getLast? = some '\n' then cs.dropLast else cs

/-- A minus sign before a numeral: an operand and no option. -/
def isNegativeNumeral : List Char → Bool
  | '-' :: rest => isNumeral (dropFinalNewline rest)
  | _ => false

/-- A word at its first equals sign. -/
def cutValue (cs : List Char) : List Char × Option String :=
  match cutFirst '=' cs with
  | some (before, after) => (before, some (String.ofList after))
  | none => (cs, none)

def isShort (spelling : String) : Bool := !("--".toList.isPrefixOf spelling.toList)

/-- The options that a shortened long spelling fits. -/
def fitting (cs : List Char) : List (String × Setting) :=
  Setting.table.filter fun e => cs.isPrefixOf e.1.toList

/-- A word with two dashes that is no complete spelling. -/
def ofLong (word : String) : Except UsageError (Option Word) :=
  let (spelling, value) := cutValue word.toList
  match fitting spelling with
  | [] => .ok none
  | [(_, s)] => .ok (some (.option s false value))
  | candidates => .error (.ambiguous word (candidates.map Prod.fst))

/-- A word with one dash whose first letter is an option; the other letters are
taken for its value. -/
def ofShort (word : String) : Option Word :=
  (Setting.ofSpelling? (String.ofList (word.toList.take 2))).map fun s =>
    .option s true (some (String.ofList (word.toList.drop 2)))

/-- A word that starts with a dash and fits no option. -/
def ofRest (word : String) : Word :=
  if isNegativeNumeral word.toList || word.toList.contains ' ' then .operand word
  else .unknown word

/-- A word that starts with a dash and has more to it. -/
def ofDashed (word : String) : Except UsageError Word :=
  let (spelling, value) := cutValue word.toList
  match value, Setting.ofSpelling? (String.ofList spelling) with
  | some _, some s => .ok (.option s (isShort (String.ofList spelling)) value)
  | _, _ =>
    if isShort word then .ok ((ofShort word).getD (ofRest word))
    else
      match ofLong word with
      | .ok w => .ok (w.getD (ofRest word))
      | .error e => .error e

/-- Tell one word apart from the others. -/
def classify (word : String) : Except UsageError Word :=
  match Setting.ofSpelling? word with
  | some s => .ok (.option s (isShort word) none)
  | none =>
    match word.toList with
    | '-' :: _ :: _ => ofDashed word
    | _ => .ok (.operand word)

/-- Tell all words apart.  This comes before any option is obeyed, so a word
that fits several options is refused wherever it stands. -/
def classifyAll : List String → Except UsageError (List Word)
  | [] => .ok []
  | word :: rest =>
    if word = dividerText then .ok (.divider :: rest.map .operand)
    else do
      let w ← classify word
      let ws ← classifyAll rest
      return w :: ws

end Word
end Command
end RoleNaming
