/-!
# Faults of files and streams

Why a file could not be read or written, or a stream not be used to its end.
-/

namespace SchemaDocs

/-- A fault of a file or stream. -/
inductive FileError where
  | notPermitted
  | notFound
  | noDevice
  | badDescriptor
  | permissionDenied
  | exists
  | notADirectory
  | isADirectory
  | noSpace
  | brokenPipe
  | nameTooLong
  | notEmpty
  | tooManyLinks
  | invalidArgument
  | notUtf8
  | nulInName
  | other (text : String)
deriving DecidableEq

namespace FileError

/-- The reason of a fault, and the number that the system gives it, if it does. -/
def description : FileError → String × Option Nat
  | .notPermitted => ("Operation not permitted", some 1)
  | .notFound => ("No such file or directory", some 2)
  | .noDevice => ("No such device or address", some 6)
  | .badDescriptor => ("Bad file descriptor", some 9)
  | .permissionDenied => ("Permission denied", some 13)
  | .exists => ("File exists", some 17)
  | .notADirectory => ("Not a directory", some 20)
  | .isADirectory => ("Is a directory", some 21)
  | .noSpace => ("No space left on device", some 28)
  | .brokenPipe => ("Broken pipe", some 32)
  | .nameTooLong => ("File name too long", some 36)
  | .notEmpty => ("Directory not empty", some 39)
  | .tooManyLinks => ("Too many levels of symbolic links", some 40)
  | .invalidArgument => ("Invalid argument", some 22)
  | .notUtf8 => ("stream did not contain valid UTF-8", none)
  | .nulInName => ("file name contained an unexpected NUL byte", none)
  | .other text => (text, none)

/-- The reason of a fault. -/
def reason (fault : FileError) : String := fault.description.1

/-- The text of a fault: its reason, with the number that the system gives it. -/
def message (fault : FileError) : String :=
  match fault.description with
  | (reason, some number) => reason ++ " (os error " ++ toString number ++ ")"
  | (reason, none) => reason

end FileError

end SchemaDocs
