/-
The names of parameters, as they are looked up and as they are shown.

Two readings of a parameter list are independent of each other: the look-up of a name among the
parameters, and the view of a method with its parameters.  `lookupParameters_isSome_iff` says
how far they agree.  They do on every parameter of one argument.  On a parameter for any number
of arguments the view shows one name, and the look-up finds every identifier below it: names
inside an annotation are found and not shown (`annotation_taken_for_parameter`).
-/
import RoleNaming.Proofs.Tree
import RoleNaming.Scope.Lookup
import RoleNaming.View.Method

namespace RoleNaming
namespace View

open Syntax Scope

/-! ## Names that are shown -/

/-- The node that names a parameter.  What is no parameter has none. -/
def parameterName? (param : Node) : Option Node :=
  if param.kind = "formal_parameter" then param.child? "name"
  else if param.kind = "spread_parameter" then spreadName? param
  else none

/-- The view shows a parameter whose name reads `x`, in the case in which it is written. -/
def Shows (bytes : Bytes) (m : Method) (x : String) : Prop :=
  ∃ p ∈ m.parameters, ∃ name, parameterName? p.node = some name ∧ name.text bytes = x

instance (bytes : Bytes) (m : Method) (x : String) : Decidable (Shows bytes m x) :=
  decidable_of_iff ((m.parameters.any fun p =>
      (parameterName? p.node).any fun name => name.text bytes == x) = true) <| by
    simp [Shows, List.any_eq_true, Option.any_eq_true]

/-- A parameter is shown if it has a name, under that name in lower case. -/
theorem ofNode?_cases (bytes : Bytes) (param : Node) :
    (∃ name type, parameterName? param = some name ∧
        Parameter.ofNode? bytes param =
          some ⟨Text.lowercase (name.text bytes), type, param⟩) ∨
      parameterName? param = none ∧ Parameter.ofNode? bytes param = none := by
  unfold Parameter.ofNode? parameterParts? parameterName?
  by_cases hformal : param.kind = "formal_parameter"
  · simp only [hformal, if_true]
    cases param.child? "name" with
    | none => exact Or.inr ⟨rfl, rfl⟩
    | some name => exact Or.inl ⟨name, _, rfl, rfl⟩
  by_cases hspread : param.kind = "spread_parameter"
  · simp only [hspread]
    cases spreadName? param with
    | none => exact Or.inr ⟨rfl, rfl⟩
    | some name => exact Or.inl ⟨name, _, rfl, rfl⟩
  · simp [hformal, hspread]

theorem shows_iff {bytes : Bytes} {n : Node} {m : Method} (hm : Method.ofNode? bytes n = some m)
    {x : String} :
    Shows bytes m x ↔ ∃ ps, n.child? "parameters" = some ps ∧
      ∃ p ∈ ps.namedChildren, ∃ name, parameterName? p = some name ∧ name.text bytes = x := by
  have hparameters : m.parameters = parametersOf bytes (n.child? "parameters") := by
    unfold Method.ofNode? at hm
    split at hm
    · rw [← Option.some.inj hm]
    · cases hm
  unfold Shows
  rw [hparameters]
  cases n.child? "parameters" with
  | none => simp [parametersOf]
  | some ps =>
    simp only [parametersOf, List.mem_filterMap]
    constructor
    · intro ⟨v, ⟨p, hp, hv⟩, name, hname, htext⟩
      obtain ⟨name', type, -, hsome⟩ | ⟨-, hnone⟩ := ofNode?_cases bytes p
      · obtain rfl := Option.some.inj (hsome.symm.trans hv)
        exact ⟨ps, rfl, p, hp, name, hname, htext⟩
      · rw [hnone] at hv
        cases hv
    · intro ⟨ps', hps, p, hp, name, hname, htext⟩
      obtain rfl := Option.some.inj hps
      obtain ⟨name', type, -, hsome⟩ | ⟨hnone, -⟩ := ofNode?_cases bytes p
      · exact ⟨_, ⟨p, hp, hsome⟩, name, hname, htext⟩
      · rw [hnone] at hname
        cases hname

/-! ## Names that are found -/

/-- An identifier below a parameter for any number of arguments that is not its name. -/
def IsStray (param stray : Node) : Prop :=
  param.kind = "spread_parameter" ∧ stray.Within param ∧ stray.kind = "identifier" ∧
    spreadName? param ≠ some stray

/-- The entry of a list is taken to declare `x`: by its own name, which below a parameter for any
number of arguments has to be an identifier, or by a stray one. -/
def AnswersTo (bytes : Bytes) (param : Node) (x : String) : Prop :=
  (∃ name, parameterName? param = some name ∧ name.text bytes = x ∧
      (param.kind = "spread_parameter" → name.kind = "identifier")) ∨
    ∃ stray, IsStray param stray ∧ stray.text bytes = x

theorem within_of_spreadName? {param name : Node} (h : spreadName? param = some name) :
    name.Within param := by
  unfold spreadName? at h
  split at h
  · rename_i declarator hdeclarator
    have hchild : declarator ∈ param.children :=
      (List.mem_filter.1 (List.mem_of_find?_eq_some hdeclarator)).1
    have hname : name ∈ declarator.children := List.mem_of_find?_eq_some h
    exact .child hchild (.child hname .self)
  · have hnamed := (List.mem_filter.1 (List.mem_of_getLast? h)).1
    exact .child (List.mem_filter.1 hnamed).1 .self

theorem lookupParameter_formal_iff {bytes : Bytes} {param : Node} {x : String}
    (hkind : param.kind = "formal_parameter") (hx : x ≠ "") :
    (lookupParameter bytes param x).isSome = true ↔
      ∃ name, param.child? "name" = some name ∧ name.text bytes = x := by
  have hlookup : (lookupParameter bytes param x).isSome = true ↔
      param.fieldText bytes "name" = x := by
    unfold lookupParameter
    rw [if_pos hkind, isNamed]
    by_cases h : param.fieldText bytes "name" = x
    · simp [h]
    · simp [h]
  rw [hlookup, Node.fieldText]
  cases param.child? "name" with
  | none =>
    refine iff_of_false (fun h => hx h.symm) ?_
    intro ⟨name, hname, _⟩
    cases hname
  | some name => simp [Node.text?]

theorem lookupParameter_spread_iff {bytes : Bytes} {param : Node} {x : String}
    (hkind : param.kind = "spread_parameter") :
    (lookupParameter bytes param x).isSome = true ↔
      ∃ n : Node, n.Within param ∧ n.kind = "identifier" ∧ n.text bytes = x := by
  have hlookup : (lookupParameter bytes param x).isSome = true ↔
      (param.descendants.any fun n => n.kind == "identifier" && n.text bytes == x) = true := by
    unfold lookupParameter
    simp only [hkind]
    by_cases h : (param.descendants.any fun n => n.kind == "identifier" && n.text bytes == x) = true
    · simp [h]
    · simp [h]
  rw [hlookup, List.any_eq_true]
  simp only [Node.mem_descendants, Bool.and_eq_true, beq_iff_eq]

theorem lookupParameter_isSome_iff {bytes : Bytes} {param : Node} {x : String}
    (hbare : param.kind ≠ "identifier") (hx : x ≠ "") :
    (lookupParameter bytes param x).isSome = true ↔ AnswersTo bytes param x := by
  unfold AnswersTo parameterName? IsStray
  by_cases hformal : param.kind = "formal_parameter"
  · rw [lookupParameter_formal_iff hformal hx]
    simp [hformal]
  by_cases hspread : param.kind = "spread_parameter"
  · rw [lookupParameter_spread_iff hspread, if_neg hformal, if_pos hspread]
    constructor
    · intro ⟨n, hwithin, hkind, htext⟩
      by_cases hname : spreadName? param = some n
      · exact Or.inl ⟨n, hname, htext, fun _ => hkind⟩
      · exact Or.inr ⟨n, ⟨hspread, hwithin, hkind, hname⟩, htext⟩
    · intro hanswers
      rcases hanswers with ⟨name, hname, htext, hkind⟩ | ⟨stray, ⟨-, hwithin, hkind, -⟩, htext⟩
      · exact ⟨name, within_of_spreadName? hname, hkind hspread, htext⟩
      · exact ⟨stray, hwithin, hkind, htext⟩
  · unfold lookupParameter
    simp [hformal, hspread, hbare]

/-! ## Both readings of a list -/

/-- A list of declared parameters: neither is it a bare name itself, nor is there one among its
entries. -/
structure IsDeclaredList (params : Node) : Prop where
  kind_ne : params.kind ≠ "identifier"
  unbare : ∀ c ∈ params.children, c.kind ≠ "identifier"

/-- A parameter of one argument, or one for any number of them with no other identifier below
it than its name. -/
def IsPlainParameter (param : Node) : Prop :=
  param.kind = "spread_parameter" →
    (∀ name, spreadName? param = some name → name.kind = "identifier") ∧
      ∀ stray, ¬IsStray param stray

theorem lookupParameters_isSome_iff_exists {bytes : Bytes} {ps : Node} (h : IsDeclaredList ps)
    {x : String} (hx : x ≠ "") :
    (lookupParameters bytes (some ps) x).isSome = true ↔
      ∃ p ∈ ps.namedChildren, AnswersTo bytes p x := by
  unfold lookupParameters
  simp only [h.kind_ne, if_false]
  rw [List.findSome?_isSome_iff]
  refine exists_congr fun p => and_congr_right fun hp => ?_
  exact lookupParameter_isSome_iff (h.unbare p (List.mem_filter.1 hp).1) hx

/-- The look-up finds the names that the view shows, except for a name of a parameter for any
number of arguments that is no identifier, and besides them the stray identifiers below such
parameters.  Where all parameters are plain it finds exactly what the view shows. -/
theorem lookupParameters_isSome_iff {bytes : Bytes} {n : Node} {m : Method}
    (hm : Method.ofNode? bytes n = some m)
    (hlist : ∀ ps, n.child? "parameters" = some ps → IsDeclaredList ps) {x : String}
    (hx : x ≠ "") :
    ((lookupParameters bytes (n.child? "parameters") x).isSome = true ↔
      ∃ ps, n.child? "parameters" = some ps ∧ ∃ p ∈ ps.namedChildren, AnswersTo bytes p x) ∧
    ((∀ ps, n.child? "parameters" = some ps → ∀ p ∈ ps.namedChildren, IsPlainParameter p) →
      ((lookupParameters bytes (n.child? "parameters") x).isSome = true ↔ Shows bytes m x)) := by
  rw [shows_iff hm]
  cases hps : n.child? "parameters" with
  | none => simp [lookupParameters]
  | some ps =>
    rw [lookupParameters_isSome_iff_exists (hlist ps hps) hx]
    constructor
    · simp
    · intro hplain
      constructor
      · intro ⟨p, hp, hanswers⟩
        rcases hanswers with ⟨name, hname, htext, -⟩ | ⟨stray, hstray, -⟩
        · exact ⟨ps, rfl, p, hp, name, hname, htext⟩
        · exact absurd hstray ((hplain ps rfl p hp hstray.1).2 stray)
      · intro ⟨ps', hps', p, hp, name, hname, htext⟩
        obtain rfl := Option.some.inj hps'
        refine ⟨p, hp, Or.inl ⟨name, hname, htext, fun hspread => ?_⟩⟩
        have hspreadName : spreadName? p = some name := by
          simpa [parameterName?, hspread] using hname
        exact (hplain ps rfl p hp hspread).1 name hspreadName

/-! ### Parameters for any number of arguments

The declarations `m(C c,D...d)`, `m(@N(c)S...x)` and `m(S..._)`. -/

namespace Spread

def method (stop : Nat) (params : List Node) : Node :=
  .onFirstLine "method_declaration" none 0 stop
    [.onFirstLine "identifier" "name" 0 1 [],
     .onFirstLine "formal_parameters" "parameters" 1 stop params]

def view (bytes : Bytes) (n : Node) : Method :=
  ⟨Text.lowercase (n.fieldText bytes "name"), parametersOf bytes (n.child? "parameters"),
    hasModifier n "private", n⟩

theorem ofNode?_method (bytes : Bytes) (stop : Nat) (params : List Node) :
    Method.ofNode? bytes (method stop params) = some (view bytes (method stop params)) := rfl

def plainBytes : Bytes := "m(C c,D...d)".toUTF8.toList

def single : Node :=
  .onFirstLine "formal_parameter" none 2 5
    [.onFirstLine "type_identifier" "type" 2 3 [], .onFirstLine "identifier" "name" 4 5 []]

def declarator (kind : String) (start : Nat) : Node :=
  .onFirstLine "variable_declarator" none start (start + 1)
    [.onFirstLine kind "name" start (start + 1) []]

def plain : Node :=
  .onFirstLine "spread_parameter" none 6 11
    [.onFirstLine "type_identifier" none 6 7 [], declarator "identifier" 10]

theorem isPlainParameter_plain : IsPlainParameter plain := by
  refine fun _ => ⟨?_, ?_⟩
  · intro name hname
    obtain rfl := Option.some.inj hname
    rfl
  · intro stray ⟨_, hwithin, hkind, hne⟩
    have hmem := Node.mem_descendants.2 hwithin
    rw [Node.descendants, Site.walk_top] at hmem
    replace hmem : stray ∈ [plain, .onFirstLine "type_identifier" none 6 7 [],
      declarator "identifier" 10, .onFirstLine "identifier" "name" 10 11 []] := hmem
    simp only [List.mem_cons, List.not_mem_nil, or_false] at hmem
    rcases hmem with rfl | rfl | rfl | rfl
    · exact absurd hkind (by decide)
    · exact absurd hkind (by decide)
    · exact absurd hkind (by decide)
    · exact hne rfl

theorem isDeclaredList_plain :
    IsDeclaredList (.onFirstLine "formal_parameters" "parameters" 1 12 [single, plain]) :=
  ⟨by decide, by decide⟩

def annotatedBytes : Bytes := "m(@N(c)S...x)".toUTF8.toList

def annotated : Node :=
  .onFirstLine "spread_parameter" none 2 12
    [.onFirstLine "modifiers" none 2 7
      [.onFirstLine "annotation" none 2 7
        [.onFirstLine "identifier" "name" 3 4 [],
         .onFirstLine "annotation_argument_list" "arguments" 4 7
          [.onFirstLine "identifier" none 5 6 []]]],
     .onFirstLine "type_identifier" none 7 8 [],
     declarator "identifier" 11]

def unnamedBytes : Bytes := "m(S..._)".toUTF8.toList

def unnamed : Node :=
  .onFirstLine "spread_parameter" none 2 7
    [.onFirstLine "type_identifier" none 2 3 [], declarator "underscore_pattern" 6]

end Spread

theorem lookupParameters_isSome_iff_plain :
    Method.ofNode? Spread.plainBytes (Spread.method 12 [Spread.single, Spread.plain]) =
        some (Spread.view Spread.plainBytes (Spread.method 12 [Spread.single, Spread.plain])) ∧
      IsDeclaredList (.onFirstLine "formal_parameters" "parameters" 1 12
        [Spread.single, Spread.plain]) ∧
      IsPlainParameter Spread.single ∧ IsPlainParameter Spread.plain ∧
      (lookupParameters Spread.plainBytes
        ((Spread.method 12 [Spread.single, Spread.plain]).child? "parameters") "d").isSome =
          true := by
  have hsingle : IsPlainParameter Spread.single := fun h => absurd h (by decide)
  have hlist : ∀ ps, (Spread.method 12 [Spread.single, Spread.plain]).child? "parameters" =
      some ps → IsDeclaredList ps := by
    intro ps hps
    obtain rfl := Option.some.inj hps
    exact Spread.isDeclaredList_plain
  refine ⟨rfl, Spread.isDeclaredList_plain, hsingle, Spread.isPlainParameter_plain, ?_⟩
  have hfound := (lookupParameters_isSome_iff (Spread.ofNode?_method Spread.plainBytes 12
    [Spread.single, Spread.plain]) hlist (x := "d") (by decide)).2
  rw [hfound]
  · decide +kernel
  · intro ps hps p hp
    obtain rfl := Option.some.inj hps
    replace hp : p ∈ [Spread.single, Spread.plain] := hp
    simp only [List.mem_cons, List.not_mem_nil, or_false] at hp
    rcases hp with rfl | rfl
    · exact hsingle
    · exact Spread.isPlainParameter_plain

/-- Names in the annotation of a parameter for any number of arguments are taken for parameters,
though the view does not show them; and a placeholder that the view shows is not found. -/
theorem annotation_taken_for_parameter :
    (IsDeclaredList (.onFirstLine "formal_parameters" "parameters" 1 13 [Spread.annotated]) ∧
      (lookupParameters Spread.annotatedBytes
        ((Spread.method 13 [Spread.annotated]).child? "parameters") "c").isSome = true ∧
      ¬Shows Spread.annotatedBytes
        (Spread.view Spread.annotatedBytes (Spread.method 13 [Spread.annotated])) "c") ∧
    IsDeclaredList (.onFirstLine "formal_parameters" "parameters" 1 8 [Spread.unnamed]) ∧
      (lookupParameters Spread.unnamedBytes
        ((Spread.method 8 [Spread.unnamed]).child? "parameters") "_").isSome = false ∧
      Shows Spread.unnamedBytes
        (Spread.view Spread.unnamedBytes (Spread.method 8 [Spread.unnamed])) "_" := by
  refine ⟨⟨⟨by decide, by decide⟩, ?_, ?_⟩, ⟨by decide, by decide⟩, ?_, ?_⟩
  all_goals decide +kernel

end View
end RoleNaming
