import FolderSync.Bytes

/-!
# Artifact names and staging names

An artifact is installed under a plain, visible name: one path component that does not start with
a dot.  `nameFault?` finds the first reason why a text is no such name; `ArtifactName` is a text
that has none.

While an artifact is on its way it is kept under a *staging name*, which is hidden:
`stagingName stem token`.
-/

namespace FolderSync

/-- Why a text is not the name of an artifact. -/
inductive NameFault where
  | empty
  | relative
  | separator
  | nul
  | hidden
deriving DecidableEq, Repr

/-- The reason in words. -/
def NameFault.message : NameFault → String
  | .empty => "name is empty"
  | .relative => "name is a relative directory reference"
  | .separator => "name contains a path separator"
  | .nul => "name contains a NUL byte"
  | .hidden => "name is hidden"

/-- The first reason why the text is not the name of an artifact. -/
def nameFault? (name : String) : Option NameFault :=
  if name = "" then some .empty
  else if name = "." ∨ name = ".." then some .relative
  else if '/' ∈ name.toList ∨ '\\' ∈ name.toList then some .separator
  else if '\x00' ∈ name.toList then some .nul
  else if name.toList.head? = some '.' then some .hidden
  else none

/-- A plain, visible file name. -/
structure ArtifactName where
  text : String
  plain : nameFault? text = none
deriving DecidableEq

@[ext] theorem ArtifactName.ext {a b : ArtifactName} (h : a.text = b.text) : a = b := by
  cases a
  cases b
  simpa using h

/-- The text as a name, or the reason why it is none. -/
def ArtifactName.ofText (name : String) : Except NameFault ArtifactName :=
  match h : nameFault? name with
  | none => .ok ⟨name, h⟩
  | some fault => .error fault

/-! ### Staging names -/

/-- The random part of a staging name: six ASCII letters or digits. -/
structure Token where
  chars : List Char
  length_chars : chars.length = 6
  isAlphanum_chars : ∀ c ∈ chars, c.isAlphanum = true
deriving DecidableEq

/-- The letter or digit of a value below sixty-two. -/
def tokenDigit (n : Nat) : Char :=
  if n % 62 < 10 then Char.ofNat ('0'.toNat + n % 62)
  else if n % 62 < 36 then Char.ofNat ('a'.toNat + (n % 62 - 10))
  else Char.ofNat ('A'.toNat + (n % 62 - 36))

theorem isAlphanum_tokenDigit (n : Nat) : (tokenDigit n).isAlphanum = true := by
  have all : ∀ k : Fin 62, (tokenDigit k).isAlphanum = true := by decide
  have h := all ⟨n % 62, Nat.mod_lt _ (by decide)⟩
  simp only [tokenDigit, Nat.mod_mod] at h ⊢
  exact h

/-- The token that spells a number, which wraps at `62 ^ 6`. -/
def Token.ofNat (n : Nat) : Token where
  chars := (List.range 6).map fun i => tokenDigit (n / Nat.pow 62 (5 - i))
  length_chars := by simp
  isAlphanum_chars c hc := by
    obtain ⟨i, _, rfl⟩ := List.mem_map.1 hc
    exact isAlphanum_tokenDigit _

/-- Characters of the artifact's name that its staging name keeps. -/
def stemLength : Nat := 64

/-- The hidden name of an artifact on its way: a dot, the first characters of its name, and the
token between `.` and `.part`. -/
def stagingName (name : String) (token : Token) : String :=
  String.ofList ('.' :: name.toList.take stemLength ++ '.' :: token.chars ++ ".part".toList)

end FolderSync
