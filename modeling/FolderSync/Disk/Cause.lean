/-!
# Why a disk operation fails

`Cause` lists the reasons that the operating system gives; `Cause.message` is their wording.  Most of
them follow from what stands on the disk; a `Refusal` is any other, such as a full disk.
-/

namespace FolderSync

/-- A reason that does not follow from what stands on the disk: its number and its words. -/
structure Refusal where
  number : Nat
  words : String
deriving DecidableEq, Repr

/-- The reason why a disk operation fails. -/
inductive Cause where
  | notFound
  | inputOutput
  | alreadyExists
  | notADirectory
  | isADirectory
  | nameTooLong
  | tooManyLinks
  /-- The path holds a NUL byte, so it names nothing. -/
  | nulInPath
  /-- Every staging name that was tried is taken. -/
  | noFreeName
  | refused (reason : Refusal)
deriving DecidableEq, Repr

/-- The words for a reason. -/
def Cause.message : Cause → String
  | .notFound => "No such file or directory (os error 2)"
  | .inputOutput => "Input/output error (os error 5)"
  | .alreadyExists => "File exists (os error 17)"
  | .notADirectory => "Not a directory (os error 20)"
  | .isADirectory => "Is a directory (os error 21)"
  | .nameTooLong => "File name too long (os error 36)"
  | .tooManyLinks => "Too many levels of symbolic links (os error 40)"
  | .nulInPath => "file name contained an unexpected NUL byte"
  | .noFreeName => "too many temporary files exist"
  | .refused reason => reason.words ++ " (os error " ++ toString reason.number ++ ")"

end FolderSync
