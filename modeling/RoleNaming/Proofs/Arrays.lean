/-
Arrays have no type that a qualified name denotes.

A variable is an array by dimensions behind its name, by brackets in its type, or because
it takes any number of arguments.  `arrays_denote_nothing` says that a name which means
such a variable never has the type of a qualified name, so that an array among the
arguments of a call is no reason to report the call.

One mark is passed over: dimensions behind the name of a parameter, or of the variable of
a loop over a collection, whose type is written without brackets.  There the type of the
elements is taken for the type of the array (`trailing_dimensions_denote`).
-/
import RoleNaming.Proofs.Declaration
import RoleNaming.Proofs.Denotation
import RoleNaming.Rule.Call

namespace RoleNaming

open Syntax

/-- A type with a character that no qualified name holds denotes none of them. -/
theorem Visibility.denotes_of_foreign (v : Visibility) {q : String}
    (hq : Text.IsQualified q.toList) {t : String} {c : Char} (hc : c ∈ t.toList)
    (hblank : Text.isBlank c = false) (hdot : c ≠ '.')
    (hforeign : Text.identifierChars.has c.toNat = false) : v.denotes t q = false := by
  have hne : t ≠ "" := by
    rintro rfl
    cases hc
  have hsqueeze : c ∈ (Text.squeeze t).toList := by
    rw [Text.toList_squeeze, List.mem_filter]
    exact ⟨hc, by rw [hblank]; rfl⟩
  have hout : c ∉ q.toList := by
    intro hmem
    rcases Text.char_of_isQualified hq hmem with h | h
    · exact hdot h
    · rw [hforeign] at h
      cases h
  rw [← Bool.not_eq_true, denotes_eq_true_iff v hne]
  rintro (h | ⟨h, -⟩)
  · rw [h] at hsqueeze
    exact hout hsqueeze
  · rw [h] at hsqueeze
    exact hout (Text.mem_of_mem_simpleName hsqueeze)

namespace Scope

/-! ## The marks of an array -/

namespace Declaration

/-- Whether there are dimensions behind the name, as in `C c[]`. -/
def hasDimensions : Declaration → Bool
  | .declarator _ n | .formal n | .forEach n => (n.child? "dimensions").isSome
  | .spread .. | .inferred _ | .caught _ | .resource _ => false

/-- The type of the declared variable, as it is written. -/
def typeText (bytes : Bytes) : Declaration → String
  | .declarator n _ | .formal n | .forEach n => n.fieldText bytes "type"
  | .spread .. | .inferred _ | .caught _ | .resource _ => ""

def isSpread : Declaration → Bool
  | .spread .. => true
  | _ => false

/-- A local variable, field, loop variable or parameter that is an array. -/
def IsArray (bytes : Bytes) (d : Declaration) : Prop :=
  d.hasDimensions = true ∨ d.isSpread = true ∨ '[' ∈ (d.typeText bytes).toList

/-- The dimensions behind the name of a parameter or of the variable of a loop over a
collection are passed over; without brackets in the type, nothing else shows the array. -/
def IsOverlooked (bytes : Bytes) : Declaration → Prop
  | .formal n | .forEach n =>
    (n.child? "dimensions").isSome = true ∧ '[' ∉ (n.fieldText bytes "type").toList
  | _ => False

end Declaration

theorem bracket_of_writtenType {bytes : Bytes} {n : Option Node} {t : String}
    (h : writtenType bytes n = some t) (hbracket : '[' ∈ (Node.text? bytes n).toList) :
    '[' ∈ t.toList := by
  simp only [writtenType] at h
  split at h
  · cases h
  · obtain rfl := Option.some.inj h
    rw [Text.toList_squeeze, List.mem_filter]
    exact ⟨hbracket, by decide⟩

/-- What is known of the type of an array shows a bracket. -/
theorem bracket_of_isArray {bytes : Bytes} {d : Declaration} (harray : d.IsArray bytes)
    (hseen : ¬d.IsOverlooked bytes) {t : String} (ht : d.type bytes = some t) :
    '[' ∈ t.toList := by
  cases d with
  | declarator declaration n =>
    simp only [Declaration.type] at ht
    split at ht
    · cases ht
    · rename_i hdimensions
      rcases harray with h | h | h
      · exact absurd h hdimensions
      · cases h
      · exact bracket_of_writtenType ht h
  | formal n | forEach n =>
    apply bracket_of_writtenType ht
    rcases harray with h | h | h
    · exact Classical.byContradiction fun hbracket => hseen ⟨h, hbracket⟩
    · cases h
    · exact h
  | spread | inferred => cases ht
  | caught | resource => rcases harray with h | h | h <;> cases h

/-! ## Uses of arrays -/

/-- The name at a site means an array, by a mark that is not passed over. -/
def MeansArray (bytes : Bytes) (s : Site) : Prop :=
  s.node.kind = "identifier" ∧
    ∃ d, binder? bytes s = some d ∧ d.IsArray bytes ∧ ¬d.IsOverlooked bytes

theorem denotes?_exprType_of_meansArray {bytes : Bytes} (v : Visibility) {q : String}
    (hq : Text.IsQualified q.toList) {s : Site} (h : MeansArray bytes s) :
    v.denotes? (exprType bytes s) q = false := by
  obtain ⟨hname, d, hd, harray, hseen⟩ := h
  rw [exprType_eq_bind_binder? bytes hname, hd, Option.bind_some]
  cases ht : d.type bytes with
  | none => rfl
  | some t =>
    have hbracket := bracket_of_isArray harray hseen ht
    exact v.denotes_of_foreign hq hbracket (by decide) (by decide) (by decide)

/-- A name in parentheses has the type of the name. -/
theorem exprType_of_bare (bytes : Bytes) {s t : Site} (h : bare s.above s.node = some t)
    (hname : t.node.kind = "identifier") : exprType bytes s = exprType bytes t := by
  rw [exprType_identifier bytes hname, exprType, h, Option.bind_some, bareType]
  simp [hname]

end Scope

namespace Rule

open Scope

/-- A call is reported for the type of an argument only if some argument has it. -/
theorem exists_argument_of_contextTypePassed {bytes : Bytes} {v : Visibility}
    {contextType : String} {c : View.Call}
    (h : Finding.contextTypePassed contextType ∈ checkCall bytes v contextType c) :
    ∃ a ∈ c.arguments, v.denotes? (exprType bytes a.site) contextType = true := by
  unfold checkCall at h
  split at h
  · cases h
  split at h
  · cases h
  · rcases List.mem_append.1 h with h | h
    · unfold checkCallee at h
      split at h <;> simp at h
    · unfold checkArguments at h
      split at h
      · simp at h
      split at h
      · rename_i hany
        exact List.any_eq_true.1 hany
      · cases h

/-- Names of arrays denote nothing, and what makes a call be reported for the type of an
argument is an argument that is not the name of an array, in parentheses or not. -/
theorem arrays_denote_nothing (bytes : Bytes) (v : Visibility) {q : String}
    (hq : Text.IsQualified q.toList) :
    (∀ s : Site, MeansArray bytes s → v.denotes? (exprType bytes s) q = false) ∧
      ∀ c : View.Call, Finding.contextTypePassed q ∈ checkCall bytes v q c →
        ∃ a ∈ c.arguments, v.denotes? (exprType bytes a.site) q = true ∧
          ∀ s, bare a.site.above a.site.node = some s → ¬MeansArray bytes s := by
  refine ⟨fun s hs => denotes?_exprType_of_meansArray v hq hs, ?_⟩
  intro c hc
  obtain ⟨a, ha, hdenotes⟩ := exists_argument_of_contextTypePassed hc
  refine ⟨a, ha, hdenotes, ?_⟩
  intro s hs harray
  rw [exprType_of_bare bytes hs harray.1, denotes?_exprType_of_meansArray v hq harray] at hdenotes
  cases hdenotes

/-! ### An array passed to a call

The file `import a.C;class A{void f(` `){g(c);}}`, with the parameter at bytes 26 to 31. -/

namespace Passed

def bytes (param : String) : Bytes :=
  ("import a.C;class A\x7bvoid f(" ++ param ++ ")\x7bg(c);\x7d\x7d").toUTF8.toList

def use : Node := .onFirstLine "identifier" none 35 36 []

def arguments : Node := .onFirstLine "argument_list" "arguments" 34 37 [use]

def call : Node :=
  .onFirstLine "method_invocation" none 33 37 [.onFirstLine "identifier" "name" 33 34 [], arguments]

def statement : Node := .onFirstLine "expression_statement" none 33 38 [call]

def block : Node := .onFirstLine "block" "body" 32 39 [statement]

def method (param : Node) : Node :=
  .onFirstLine "method_declaration" none 19 39
    [.onFirstLine "void_type" "type" 19 23 [],
     .onFirstLine "identifier" "name" 24 25 [],
     .onFirstLine "formal_parameters" "parameters" 25 32 [param],
     block]

def body (param : Node) : Node := .onFirstLine "class_body" "body" 18 40 [method param]

def declared (param : Node) : Node :=
  .onFirstLine "class_declaration" none 11 40
    [.onFirstLine "identifier" "name" 17 18 [], body param]

def imported : Node :=
  .onFirstLine "import_declaration" none 0 11 [.onFirstLine "scoped_identifier" none 7 10 []]

def root (param : Node) : Node := .onFirstLine "program" none 0 40 [imported, declared param]

def callSite (param : Node) : Site :=
  ⟨call, [statement, block, method param, body param, declared param, root param]⟩

def useSite (param : Node) : Site := ((callSite param).under arguments).under use

/-- The parameter `C...c`. -/
def spread : Node :=
  .onFirstLine "spread_parameter" none 26 31
    [.onFirstLine "type_identifier" none 26 27 [],
     .onFirstLine "variable_declarator" none 30 31 [.onFirstLine "identifier" "name" 30 31 []]]

/-- The parameter `C c[]`. -/
def bracketed : Node :=
  .onFirstLine "formal_parameter" none 26 31
    [.onFirstLine "type_identifier" "type" 26 27 [],
     .onFirstLine "identifier" "name" 28 29 [],
     .onFirstLine "dimensions" "dimensions" 29 31 []]

/-- The view of the call has the one argument, whatever the parameter is. -/
theorem site_of_mem_arguments {bytes : Bytes} {param : Node} {c : View.Call}
    (hc : View.Call.ofSite? bytes (callSite param) = some c) {a : View.Argument}
    (ha : a ∈ c.arguments) : a.site = useSite param := by
  obtain rfl := Option.some.inj hc
  obtain rfl := List.mem_singleton.1 ha
  rfl

theorem isQualified : Text.IsQualified "a.C".toList := by
  have ha : Text.IsIdentifier "a".toList := by decide +kernel
  have hC : Text.IsIdentifier "C".toList := by decide +kernel
  exact .dot ha (.simple hC)

theorem meansArray_spread : MeansArray (bytes "C...c") (useSite spread) := by
  have h : (binder? (bytes "C...c") (useSite spread)).map Declaration.isSpread = some true := by
    decide +kernel
  obtain ⟨d, hd, hspread⟩ := Option.map_eq_some_iff.1 h
  refine ⟨rfl, d, hd, Or.inr (Or.inl hspread), ?_⟩
  cases d with
  | spread param name => exact id
  | declarator | formal | inferred | forEach | caught | resource => cases hspread

end Passed

theorem arrays_denote_nothing_spread :
    Text.IsQualified "a.C".toList ∧
      MeansArray (Passed.bytes "C...c") (Passed.useSite Passed.spread) ∧
      ∀ c, View.Call.ofSite? (Passed.bytes "C...c") (Passed.callSite Passed.spread) = some c →
        Finding.contextTypePassed "a.C" ∉ checkCall (Passed.bytes "C...c")
          (Visibility.ofRoot (Passed.bytes "C...c") (Passed.root Passed.spread)) "a.C" c := by
  refine ⟨Passed.isQualified, Passed.meansArray_spread, ?_⟩
  intro c hc hreported
  obtain ⟨a, ha, -, hnone⟩ :=
    (arrays_denote_nothing _ _ Passed.isQualified).2 c hreported
  rw [Passed.site_of_mem_arguments hc ha] at hnone
  exact hnone _ rfl Passed.meansArray_spread

/-- Dimensions behind the name of a parameter are passed over: the parameter `C c[]` is
an array, and the call to which it is passed is reported as a call with a `C`. -/
theorem trailing_dimensions_denote :
    (∃ d, binder? (Passed.bytes "C c[]") (Passed.useSite Passed.bracketed) = some d ∧
        d.IsArray (Passed.bytes "C c[]")) ∧
      (Visibility.ofRoot (Passed.bytes "C c[]") (Passed.root Passed.bracketed)).denotes?
        (exprType (Passed.bytes "C c[]") (Passed.useSite Passed.bracketed)) "a.C" = true ∧
      (View.Call.ofSite? (Passed.bytes "C c[]") (Passed.callSite Passed.bracketed)).map
        (checkCall (Passed.bytes "C c[]")
          (Visibility.ofRoot (Passed.bytes "C c[]") (Passed.root Passed.bracketed)) "a.C") =
        some [.contextTypePassed "a.C"] := by
  have h : (binder? (Passed.bytes "C c[]") (Passed.useSite Passed.bracketed)).map
      Declaration.hasDimensions = some true := by decide +kernel
  obtain ⟨d, hd, hdimensions⟩ := Option.map_eq_some_iff.1 h
  exact ⟨⟨d, hd, Or.inl hdimensions⟩, by decide +kernel, by decide +kernel⟩

end Rule
end RoleNaming
