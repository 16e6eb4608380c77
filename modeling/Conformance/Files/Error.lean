/-!
# Why a file operation fails
-/
namespace Conformance

inductive FileError
  | missing
  | denied
  | present
  | notFolder
  | isFolder
  | invalid
  | notEmpty
  | nameTooLong
  | tooManyLinks
  | nulInName
  | notText
  | wholeTree
  | notProgram
  | noSpace
deriving DecidableEq, Repr

/-- The wording of the operating system, or of this library where that has none. -/
def FileError.words : FileError → String
  | .missing => "No such file or directory"
  | .notProgram => "Exec format error"
  | .noSpace => "No space left on device"
  | .denied => "Permission denied"
  | .present => "File exists"
  | .notFolder => "Not a directory"
  | .isFolder => "Is a directory"
  | .invalid => "Invalid argument"
  | .nameTooLong => "File name too long"
  | .notEmpty => "Directory not empty"
  | .tooManyLinks => "Too many levels of symbolic links"
  | .nulInName => "file name contained an unexpected NUL byte"
  | .notText => "stream did not contain valid UTF-8"
  | .wholeTree => "failed to create whole tree"

/-- The number that the operating system has for it. -/
def FileError.number? : FileError → Option Nat
  | .missing => some 2
  | .notProgram => some 8
  | .denied => some 13
  | .present => some 17
  | .notFolder => some 20
  | .isFolder => some 21
  | .invalid => some 22
  | .noSpace => some 28
  | .nameTooLong => some 36
  | .notEmpty => some 39
  | .tooManyLinks => some 40
  | .nulInName | .notText | .wholeTree => none

/-- The words, with the number where there is one. -/
def FileError.message (e : FileError) : String :=
  match e.number? with
  | some n => e.words ++ " (os error " ++ toString n ++ ")"
  | none => e.words

end Conformance
