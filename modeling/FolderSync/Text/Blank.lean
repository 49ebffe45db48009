/-!
# Blank characters

`isBlank` holds of the characters that stand for empty space (the property `White_Space`).
-/

namespace FolderSync.Text

/-- Does the character stand for empty space? -/
def isBlank (c : Char) : Bool :=
  let n := c.toNat
  (9 ≤ n && n ≤ 13) || n = 0x20 || n = 0x85 || n = 0xA0 || n = 0x1680
    || (0x2000 ≤ n && n ≤ 0x200A) || n = 0x2028 || n = 0x2029 || n = 0x202F || n = 0x205F
    || n = 0x3000

/-- Is every character of the text blank? -/
def IsBlank (text : String) : Prop := ∀ c ∈ text.toList, isBlank c = true

instance (text : String) : Decidable (IsBlank text) :=
  decidable_of_iff (text.toList.all isBlank = true) List.all_eq_true

end FolderSync.Text
