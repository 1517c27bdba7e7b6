/-
Types in normal form.

A type may be written over several lines and with blanks around its dots.  What the look-ups
give for an expression shows none of this: `exprType_isNormal` says that behind whatever
parentheses and in whatever scopes an expression stands, its type is unknown or a text in normal
form, and that no text in normal form is left out.  A written type that still has its white space
denotes what it denotes without.

Every type comes from the one place where a node is read as a type, `writtenType`.  The lemmas
follow it from there through a declaration, a scope and the scopes above a name.
-/
import RoleNaming.Proofs.ContextType
import RoleNaming.Proofs.Declaration
import RoleNaming.Proofs.Encoding

namespace RoleNaming

open Syntax

/-! ## White space in written types -/

theorem Text.squeeze_eq_empty_iff {s : String} :
    squeeze s = "" ↔ ∀ c ∈ s.toList, isBlank c = true := by
  rw [← String.toList_eq_nil_iff, toList_squeeze, List.filter_eq_nil_iff]
  simp only [Bool.not_eq_true', Bool.not_eq_false]

namespace Visibility

/-- Two written types that differ in white space only denote the same, unless one of them is
missing altogether. -/
theorem denotes_congr (v : Visibility) {t u : String} (ht : t ≠ "") (hu : u ≠ "")
    (h : Text.squeeze t = Text.squeeze u) (q : String) : v.denotes t q = v.denotes u q := by
  rw [Bool.eq_iff_iff, denotes_eq_true_iff v ht, denotes_eq_true_iff v hu, h]

theorem denotes_squeeze (v : Visibility) {t : String}
    (ht : ∃ c ∈ t.toList, Text.isBlank c = false) (q : String) :
    v.denotes t q = v.denotes (Text.squeeze t) q := by
  obtain ⟨c, hc, hblank⟩ := ht
  have hne : t ≠ "" := by
    intro hempty
    rw [hempty] at hc
    cases hc
  have hsqueeze : Text.squeeze t ≠ "" := by
    intro hempty
    have hall := Text.squeeze_eq_empty_iff.1 hempty c hc
    rw [hblank] at hall
    cases hall
  exact v.denotes_congr hne hsqueeze (Text.squeeze_squeeze t).symm q

/- White space alone is a text, and with the white space taken out nothing is left that could be
a type. -/
example : empty.denotes " " "" = true ∧ empty.denotes (Text.squeeze " ") "" = false := by decide

end Visibility

namespace Scope

/-! ## The normal form -/

/-- The normal form of a known type: some text without white space, and not the word that leaves
the type to be inferred. -/
structure IsNormal (t : String) : Prop where
  ne_empty : t ≠ ""
  blankFree : Text.BlankFree t
  ne_var : t ≠ "var"

instance (t : String) : Decidable (IsNormal t) :=
  decidable_of_iff (t ≠ "" ∧ Text.BlankFree t ∧ t ≠ "var")
    ⟨fun ⟨hempty, hblank, hvar⟩ => ⟨hempty, hblank, hvar⟩, fun h => ⟨h.1, h.2, h.3⟩⟩

theorem writtenType_eq_some_iff {bytes : Bytes} {n : Option Node} {t : String} :
    writtenType bytes n = some t ↔ Text.squeeze (Node.text? bytes n) = t ∧ IsNormal t := by
  simp only [writtenType]
  split
  · rename_i h
    refine iff_of_false (by simp) ?_
    intro ⟨hsqueeze, hnormal⟩
    rw [hsqueeze] at h
    exact h.elim hnormal.ne_empty hnormal.ne_var
  · rename_i h
    obtain ⟨hempty, hvar⟩ := not_or.1 h
    rw [Option.some.injEq]
    constructor
    · intro hsqueeze
      rw [← hsqueeze]
      exact ⟨rfl, hempty, Text.blankFree_squeeze _, hvar⟩
    · exact And.left

section

variable {bytes : Bytes} {t : String}

theorem isNormal_of_writtenType {n : Option Node} (h : writtenType bytes n = some t) :
    IsNormal t :=
  (writtenType_eq_some_iff.1 h).2

theorem Declaration.isNormal_of_type {d : Declaration} (h : d.type bytes = some t) :
    IsNormal t := by
  cases d with
  | declarator declaration n =>
    simp only [Declaration.type] at h
    split at h
    · cases h
    · exact isNormal_of_writtenType h
  | formal | forEach | resource | caught => exact isNormal_of_writtenType h
  | spread | inferred => cases h

/-- What a scope says of a name is what one of its declarations says. -/
theorem isNormal_of_lookup {scope : Node} {name : String} {before : Nat}
    (h : lookup bytes scope name before = some (some t)) : IsNormal t := by
  rw [lookup_eq_find?] at h
  obtain ⟨d, -, htype⟩ := Option.map_eq_some_iff.1 h
  exact d.isNormal_of_type htype

theorem isNormal_of_resolveName {name : String} {before : Nat} {scopes : List Node}
    (h : resolveName bytes name before scopes = some t) : IsNormal t := by
  obtain ⟨scope, -, hscope⟩ := List.exists_of_findSome?_eq_some (Option.join_eq_some_iff.1 h)
  exact isNormal_of_lookup hscope

theorem isNormal_of_resolveField {name : String} {scopes : List Node}
    (h : resolveField bytes name scopes = some t) : IsNormal t := by
  unfold resolveField at h
  split at h
  · rename_i body hbody
    have hfound := List.find?_some hbody
    have hmembers : Form.ofKind? body.kind = some .members := beq_iff_eq.1 hfound
    -- A type body shows its fields from everywhere, so any byte will do as the place of use.
    have hlookup : lookup bytes body name 0 = lookupFields bytes body name := by
      rw [lookup, hmembers]
    rw [← hlookup] at h
    exact isNormal_of_lookup (Option.join_eq_some_iff.1 h)
  · cases h

theorem isNormal_of_bareType {s : Site} (h : bareType bytes s = some t) : IsNormal t := by
  simp only [bareType] at h
  split at h
  · exact isNormal_of_writtenType h
  split at h
  · exact isNormal_of_resolveName h
  split at h
  · split at h
    · split at h
      · exact isNormal_of_resolveField h
      · cases h
    · cases h
  · cases h

theorem isNormal_of_exprType {s : Site} (h : exprType bytes s = some t) : IsNormal t := by
  obtain ⟨inner, -, htype⟩ := Option.bind_eq_some_iff.1 h
  exact isNormal_of_bareType htype

end

/-! ## Every normal form is a type -/

namespace Cast

/-- The bytes of `(t)x`. -/
def bytes (t : String) : Bytes := ("(" ++ t ++ ")x").toUTF8.toList

def typeNode (t : String) : Node :=
  .onFirstLine "type_identifier" "type" 1 (1 + t.utf8ByteSize) []

def root (t : String) : Node :=
  .onFirstLine "cast_expression" none 0 (3 + t.utf8ByteSize)
    [typeNode t,
     .onFirstLine "identifier" "value" (2 + t.utf8ByteSize) (3 + t.utf8ByteSize) []]

theorem text_typeNode (t : String) : (typeNode t).text (bytes t) = t := by
  have hstart : (typeNode t).start = "(".toUTF8.toList.length := (Text.length_toUTF8 "(").symm
  have hstop : (typeNode t).stop = "(".toUTF8.toList.length + t.toUTF8.toList.length := by
    rw [Text.length_toUTF8, Text.length_toUTF8]
    rfl
  rw [Node.text, hstart, hstop, bytes, Text.toUTF8_append, Text.toUTF8_append,
    Text.slice_append, Text.decode_toUTF8, String.ofList_toList]

theorem bareType_root (bytes : Bytes) (t : String) :
    bareType bytes (.top (root t)) = writtenType bytes (some (typeNode t)) := by
  rw [bareType]
  exact if_pos (Or.inl rfl)

/-- A text in normal form is read back as the type of the cast. -/
theorem exprType_root {t : String} (ht : IsNormal t) :
    exprType (bytes t) (.top (root t)) = some t := by
  have hkind : (Site.top (root t)).node.kind ≠ "parenthesized_expression" := by
    show "cast_expression" ≠ "parenthesized_expression"
    decide
  rw [exprType_eq_bareType _ hkind, bareType_root, writtenType_eq_some_iff, Node.text?,
    text_typeNode, Text.squeeze_eq_self_iff]
  exact ⟨ht.blankFree, ht⟩

end Cast

/-- The type of an expression is unknown or a text in normal form, wherever the expression
stands, and each such text is the type of an expression of some file.  White space in a written
type makes no difference to what it denotes, as long as there is something else in it. -/
theorem exprType_isNormal :
    (∀ (bytes : Bytes) (s : Site),
      exprType bytes s = none ∨ ∃ t, exprType bytes s = some t ∧ IsNormal t) ∧
    (∀ t, IsNormal t → ∃ src : Source, ∃ s ∈ src.sites, exprType src.bytes s = some t) ∧
    ∀ (v : Visibility) (t q : String), (∃ c ∈ t.toList, Text.isBlank c = false) →
      v.denotes t q = v.denotes (Text.squeeze t) q := by
  refine ⟨?_, ?_, ?_⟩
  · intro bytes s
    cases h : exprType bytes s with
    | none => exact Or.inl rfl
    | some t => exact Or.inr ⟨t, rfl, isNormal_of_exprType h⟩
  · intro t ht
    exact ⟨⟨Cast.bytes t, Cast.root t, false⟩, .top (Cast.root t), Source.mem_sites_iff.2 .self,
      Cast.exprType_root ht⟩
  · intro v t q ht
    exact v.denotes_squeeze ht q

/-! ### A type with white space inside

The statements `case 0:a .C c;((c));`, with an ideographic space before the `C`: the variable has
the type `a.C`, and so has its name in two pairs of parentheses. -/

namespace Spaced

def bytes : Bytes := "case 0:a .\u3000C c;((c));".toUTF8.toList

def declaration : Node :=
  .onFirstLine "local_variable_declaration" none 7 17
    [.onFirstLine "scoped_type_identifier" "type" 7 14 [],
     .onFirstLine "variable_declarator" "declarator" 15 16
      [.onFirstLine "identifier" "name" 15 16 []]]

def use : Node :=
  .onFirstLine "parenthesized_expression" none 17 22
    [.onFirstLine "parenthesized_expression" none 18 21 [.onFirstLine "identifier" none 19 20 []]]

def statement : Node := .onFirstLine "expression_statement" none 17 23 [use]

def root : Node :=
  .onFirstLine "switch_block_statement_group" none 0 23
    [.onFirstLine "switch_label" none 0 6 [], declaration, statement]

def site : Site := ((Site.top root).under statement).under use

end Spaced

theorem exprType_isNormal_spaced :
    exprType Spaced.bytes Spaced.site = some "a.C" ∧ IsNormal "a.C" ∧
      (∃ src : Source, ∃ s ∈ src.sites, exprType src.bytes s = some "a.C") ∧
      (∃ c ∈ "a .\u3000C".toList, Text.isBlank c = false) ∧
      (Visibility.ofRoot Spaced.bytes Spaced.root).denotes "a .\u3000C" "a.C" = true := by
  obtain ⟨hknown, hreached, hdenotes⟩ := exprType_isNormal
  have htype : exprType Spaced.bytes Spaced.site = some "a.C" := by decide +kernel
  have hnormal : IsNormal "a.C" := by
    rcases hknown Spaced.bytes Spaced.site with hnone | ⟨t, ht, hnormal⟩
    · rw [htype] at hnone
      cases hnone
    · rw [htype] at ht
      rwa [Option.some.inj ht]
  have hletter : ∃ c ∈ "a .\u3000C".toList, Text.isBlank c = false :=
    ⟨'a', by decide, by decide⟩
  refine ⟨htype, hnormal, hreached "a.C" hnormal, hletter, ?_⟩
  rw [hdenotes _ _ _ hletter]
  decide +kernel

end Scope
end RoleNaming
