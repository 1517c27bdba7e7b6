/-
What a command line asks for.
-/
import RoleNaming.Command.Word
import RoleNaming.Config

namespace RoleNaming
namespace Command

inductive Format where
  | text
  | json
  deriving DecidableEq, Repr

namespace Format

def ofName? (name : String) : Option Format :=
  if name = "text" then some .text else if name = "json" then some .json else none

end Format

/-- The choices of a command line.  Among the identifiers, `none` stands where a
divider is written in place of one. -/
structure Options where
  paths : List String
  disable : List (Option String)
  enableOnly : List (Option String)
  contextType : String
  format : Format
  listIssues : Bool
  verbose : Bool
  deriving DecidableEq, Repr

namespace Options

def default : Options := ⟨[], [], [], Catalog.defaultContextType, .text, false, false⟩

/-- The identifiers themselves, which all have to be there. -/
def identifiers : List (Option String) → Except Error (List String)
  | [] => .ok []
  | none :: _ => .error .missingIdentifier
  | some id :: rest => do
    let ids ← identifiers rest
    return id :: ids

def config (o : Options) : Except Error Config := do
  let disable ← identifiers o.disable
  let enableOnly ← identifiers o.enableOnly
  return .ofArguments disable enableOnly o.contextType

end Options

/-- Why reading a command line ends before its last word. -/
inductive Stop where
  | showHelp
  | showVersion
  | misuse (error : UsageError)
  deriving DecidableEq, Repr

/-- Where reading stands.  The operands are the paths as long as no option comes
between them; later operands are left over. -/
inductive Phase where
  | before
  | within
  | after
  deriving DecidableEq, Repr

structure Progress where
  options : Options
  phase : Phase
  leftover : List String

namespace Progress

def start : Progress := ⟨.default, .before, []⟩

def addOperand (p : Progress) (text : String) : Progress :=
  match p.phase with
  | .after => { p with leftover := p.leftover ++ [text] }
  | _ => { p with options.paths := p.options.paths ++ [text], phase := .within }

/-- The divider itself is no path, but it is left over when paths are not
expected any more. -/
def addDivider (p : Progress) : Progress :=
  match p.phase with
  | .after => { p with leftover := p.leftover ++ [Word.dividerText] }
  | _ => { p with phase := .within }

/-- An option ends the paths that stand before it. -/
def passOption (p : Progress) : Progress :=
  match p.phase with
  | .within => { p with phase := .after }
  | _ => p

def leave (p : Progress) (text : String) : Progress :=
  { p with leftover := p.leftover ++ [text] }

/-- Obey an option without a value. -/
def flag (p : Progress) : Setting → Except Stop Progress
  | .help => .error .showHelp
  | .version => .error .showVersion
  | .listIssues => .ok { p with options.listIssues := true }
  | .verbose => .ok { p with options.verbose := true }
  | _ => .ok p

def flags (p : Progress) : List Setting → Except Stop Progress
  | [] => .ok p
  | s :: rest => do
    let q ← p.flag s
    q.flags rest

/-- The value written onto an option.  A divider is none. -/
def given? (value : String) : Option String :=
  if value = Word.dividerText then none else some value

/-- Obey an option with a value.  Without one, a list keeps the gap and any other
choice goes back to its default. -/
def assign (p : Progress) (s : Setting) (value : String) : Except Stop Progress :=
  let o := p.options
  let given := given? value
  match s with
  | .disable => .ok { p with options.disable := o.disable ++ [given] }
  | .enableOnly => .ok { p with options.enableOnly := o.enableOnly ++ [given] }
  | .contextType =>
    .ok { p with options.contextType := given.getD Catalog.defaultContextType }
  | .format =>
    match given with
    | none => .ok { p with options.format := .text }
    | some name =>
      match Format.ofName? name with
      | some f => .ok { p with options.format := f }
      | none => .error (.misuse (.badFormat name))
  | _ => .ok p

end Progress

/-- The options of letters written together after one dash.  The letters after
`s` have to be options themselves. -/
def cluster (s : Setting) : List Char → Except Stop (List Setting)
  | [] => .ok [s]
  | c :: cs =>
    match Setting.ofSpelling? (String.ofList ['-', c]) with
    | some t => do
      let later ← cluster t cs
      return s :: later
    | none => .error (.misuse (.valueUnexpected s (String.ofList (c :: cs))))

/-- Obey an option that takes no value and has something written onto it, which
can only be letters of further options. -/
def obeyCluster (p : Progress) (s : Setting) (short : Bool) (value : String) :
    Except Stop Progress :=
  if short && value ≠ "" then do
    let all ← cluster s value.toList
    p.flags all
  else .error (.misuse (.valueUnexpected s value))

/-- Obey an option with what is written onto it. -/
def obey (p : Progress) (s : Setting) (short : Bool) (value : String) : Except Stop Progress :=
  if s.takesValue then p.assign s value else obeyCluster p s short value

/-- Read the words in order.  An option that needs a value takes the next word,
which has to be an operand. -/
def readWords (p : Progress) : List Word → Except Stop Progress
  | [] => .ok p
  | .operand text :: rest => readWords (p.addOperand text) rest
  | .divider :: rest => readWords p.addDivider rest
  | .unknown text :: rest => readWords (p.passOption.leave text) rest
  | .option s short (some value) :: rest => do
    let q ← obey p.passOption s short value
    readWords q rest
  | .option s _ none :: .operand text :: rest =>
    if s.takesValue then do
      let q ← p.passOption.assign s text
      readWords q rest
    else do
      let q ← p.passOption.flag s
      readWords q (.operand text :: rest)
  | .option s _ none :: rest =>
    if s.takesValue then .error (.misuse (.valueMissing s))
    else do
      let q ← p.passOption.flag s
      readWords q rest

/-- What a command line asks for. -/
def Options.parse (argv : List String) : Except Stop Options :=
  match Word.classifyAll argv with
  | .error e => .error (.misuse e)
  | .ok words => do
    let p ← readWords .start words
    if p.leftover.isEmpty then return p.options
    else .error (.misuse (.unrecognized p.leftover))

end Command
end RoleNaming
