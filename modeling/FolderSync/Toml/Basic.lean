import FolderSync.Decoding

/-!
# TOML values

A `Toml` value is what a TOML text stands for.  A table keeps its keys in the order of the text.
Of a date or a time only the fact is kept that it is one.  Values can be compared (`Toml.same_iff`).
-/

namespace FolderSync

/-- A TOML value. -/
inductive Toml where
  | string (value : String)
  | integer (value : Int)
  | float (value : Binary64)
  | boolean (value : Bool)
  | moment
  | array (items : List Toml)
  | table (entries : List (String × Toml))
deriving Repr

/-- What the value is, for a message.  A date or a time counts as a map. -/
def Toml.found : Toml → Found
  | .string value => .text value
  | .integer value => .integer value
  | .float value => .float value
  | .boolean value => .boolean value
  | .moment => .map
  | .array _ => .sequence
  | .table _ => .map

namespace Toml

/-! ### Equality -/

mutual

/-- Are the values equal? -/
def same : Toml → Toml → Bool
  | .string s, .string t => s = t
  | .integer m, .integer n => m = n
  | .float x, .float y => x = y
  | .boolean b, .boolean c => b = c
  | .moment, .moment => true
  | .array items, .array others => sameItems items others
  | .table entries, .table others => sameEntries entries others
  | _, _ => false

/-- Are the items equal, one by one? -/
def sameItems : List Toml → List Toml → Bool
  | [], [] => true
  | v :: items, w :: others => same v w && sameItems items others
  | _, _ => false

/-- Are the entries equal, one by one? -/
def sameEntries : List (String × Toml) → List (String × Toml) → Bool
  | [], [] => true
  | (key, v) :: entries, (other, w) :: others =>
    decide (key = other) && same v w && sameEntries entries others
  | _, _ => false

end

mutual

theorem same_iff : ∀ v w : Toml, same v w = true ↔ v = w
  | .string _, w => by cases w <;> simp [same]
  | .integer _, w => by cases w <;> simp [same]
  | .float _, w => by cases w <;> simp [same]
  | .boolean _, w => by cases w <;> simp [same]
  | .moment, w => by cases w <;> simp [same]
  | .array items, w => by cases w <;> simp [same, sameItems_iff items]
  | .table entries, w => by cases w <;> simp [same, sameEntries_iff entries]

theorem sameItems_iff : ∀ items others : List Toml, sameItems items others = true ↔ items = others
  | [], others => by cases others <;> simp [sameItems]
  | v :: items, others => by cases others <;> simp [sameItems, same_iff v, sameItems_iff items]

theorem sameEntries_iff :
    ∀ entries others : List (String × Toml), sameEntries entries others = true ↔ entries = others
  | [], others => by cases others <;> simp [sameEntries]
  | (_, v) :: entries, others => by
    cases others <;> simp [sameEntries, same_iff v, sameEntries_iff entries, Prod.ext_iff]

end

instance : DecidableEq Toml := fun v w => decidable_of_iff _ (same_iff v w)

end Toml

end FolderSync
