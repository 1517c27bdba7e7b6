/-
White space, and texts with all white space taken out.  A type may be written
over several lines or with blanks around its dots; it is compared by what is
left of it.
-/
import RoleNaming.Text.CharClass

namespace RoleNaming
namespace Text

/-- The white space of Unicode together with the four information separators
`0x1C` to `0x1F`.  Zero-width characters are not white space. -/
def blanks : CharClass :=
  [(0x09, 0x0D), (0x1C, 0x20), (0x85, 0x85), (0xA0, 0xA0), (0x1680, 0x1680),
   (0x2000, 0x200A), (0x2028, 0x2029), (0x202F, 0x202F), (0x205F, 0x205F),
   (0x3000, 0x3000)]

def isBlank (c : Char) : Bool := blanks.has c.toNat

/-- The text without its white space. -/
def squeeze (s : String) : String := String.ofList (s.toList.filter fun c => !isBlank c)

@[simp] theorem toList_squeeze (s : String) :
    (squeeze s).toList = s.toList.filter fun c => !isBlank c := by
  simp [squeeze]

/-- A second pass finds nothing to take out. -/
@[simp] theorem squeeze_squeeze (s : String) : squeeze (squeeze s) = squeeze s := by
  simp [squeeze, List.filter_filter]

end Text
end RoleNaming
