/-
What a run reports and which type it takes for the context type.
-/
import RoleNaming.Issue.Catalog
import RoleNaming.OrderedSet

namespace RoleNaming

/-- The choices of a run.  When `enabledOnly` is given, it alone decides. -/
structure Config where
  disabled : List String
  enabledOnly : Option (List String)
  contextType : String
  deriving DecidableEq, Repr

/-- The values of command line options as they are handed over.  An option that
was not given may be left out. -/
structure Arguments where
  disable : Option (List String)
  enableOnly : Option (List String)
  contextType : Option String
  deriving DecidableEq, Repr

namespace Config

def default : Config := ⟨[], none, Catalog.defaultContextType⟩

/-- The configuration of sets given as lists. -/
def make (disabled : List String) (enabledOnly : Option (List String)) (contextType : String) :
    Config :=
  ⟨OrderedSet.ofList disabled, enabledOnly.map OrderedSet.ofList, contextType⟩

/-- The configuration of command line values.  No identifiers to enable is no
restriction, and an empty context type stands for the default. -/
def ofArguments (disable enableOnly : List String) (contextType : String) : Config :=
  make disable (if enableOnly.isEmpty then none else some enableOnly)
    (if contextType = "" then Catalog.defaultContextType else contextType)

/-- The configuration of values that may be left out.  An option that is left out
is as good as one without values. -/
def ofGiven (a : Arguments) : Config :=
  ofArguments (a.disable.getD []) (a.enableOnly.getD []) (a.contextType.getD "")

/-- All identifiers that the configuration names, in increasing order. -/
def named (c : Config) : List String := OrderedSet.ofList (c.disabled ++ c.enabledOnly.getD [])

/-- Refuses the least identifier that is not in the catalog, and then a context
type that is empty or holds a blank. -/
def validate (c : Config) : Except Error Unit :=
  match c.named.find? fun id => !Catalog.isKnown id with
  | some id => .error (.unknownIssue id)
  | none =>
    if c.contextType = "" ∨ c.contextType.toList.contains ' ' then
      .error (.invalidContextType c.contextType)
    else .ok ()

/-- The context type of an accepted configuration is some text without a blank. -/
theorem contextType_of_validate {c : Config} (h : c.validate = .ok ()) :
    c.contextType ≠ "" ∧ ' ' ∉ c.contextType.toList := by
  unfold validate at h
  split at h
  · cases h
  split at h
  · cases h
  · rename_i haccepted
    obtain ⟨hempty, hblank⟩ := not_or.1 haccepted
    exact ⟨hempty, fun hmem => hblank (List.contains_iff_mem.2 hmem)⟩

/-- Whether problems of a kind are reported. -/
def isEnabled (c : Config) (id : String) : Bool :=
  match c.enabledOnly with
  | some ids => ids.contains id
  | none => !c.disabled.contains id

end Config
end RoleNaming
