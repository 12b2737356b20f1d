import Imprint.Decimal

/-!
# Files — why a file cannot be accessed
-/

namespace Imprint.Files

/-- Why a file cannot be accessed. -/
inductive Error where
  | notFound
  /-- A file that is run but holds no program. -/
  | notRunnable
  | permissionDenied
  | notADirectory
  | isADirectory
  | nameTooLong
  | tooManyLinks
  /-- The path contains the octet zero. -/
  | zeroInPath
  /-- The file is read as text and is not UTF-8. -/
  | notText
  deriving DecidableEq, Repr

namespace Error

/-- A reason that the system gives, with its number. -/
def system (reason : String) (number : Nat) : Text :=
  reason.toList ++ " (os error ".toList ++ digits number ++ [')']

/-- The wording of the reason. -/
def message : Error → Text
  | .notFound         => system "No such file or directory" 2
  | .notRunnable      => system "Exec format error" 8
  | .permissionDenied => system "Permission denied" 13
  | .notADirectory    => system "Not a directory" 20
  | .isADirectory     => system "Is a directory" 21
  | .nameTooLong      => system "File name too long" 36
  | .tooManyLinks     => system "Too many levels of symbolic links" 40
  | .zeroInPath       => "file name contained an unexpected NUL byte".toList
  | .notText          => "stream did not contain valid UTF-8".toList

end Error

end Imprint.Files
