import FolderSync.FileName

/-!
# The artifact filter

Of the files in a folder only those whose names have a given opening and a given ending are
managed.  `Filter.Matches` is the test, `Filter.display` the pattern as a glob.
-/

namespace FolderSync

/-- The opening and the ending of the managed names. -/
structure Filter where
  opening : String := "blockcraft-"
  ending : String := ".jar"
deriving DecidableEq, Repr

namespace Filter

/-- The filter of every visible name. -/
def any : Filter := ⟨"", ""⟩

/-- Is the name visible, long enough for both parts, and does it begin and end with them? -/
def Matches (f : Filter) (name : String) : Prop :=
  name.toList.head? ≠ some '.' ∧
  byteLength f.opening + byteLength f.ending ≤ byteLength name ∧
  f.opening.toList.isPrefixOf name.toList = true ∧
  f.ending.toList.isSuffixOf name.toList = true

instance (f : Filter) (name : String) : Decidable (f.Matches name) :=
  inferInstanceAs (Decidable (_ ∧ _ ∧ _ ∧ _))

/-- The pattern: the opening, a star and the ending. -/
def display (f : Filter) : String := f.opening ++ "*" ++ f.ending

end Filter

end FolderSync
