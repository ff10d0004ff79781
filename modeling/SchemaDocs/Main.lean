import SchemaDocs.CommandLine.Run
import SchemaDocs.Shell.Convert
/-!
# The program

Runs the program with the files, the input and the environment of its process.
-/

namespace SchemaDocs

/-- The fault of a file operation. -/
def FileError.ofIO : IO.Error → FileError
  | .noFileOrDirectory .. => .notFound
  | .permissionDenied .. => .permissionDenied
  | .inappropriateType .. => .isADirectory
  | fault => .other (toString fault)

/-- Runs a file operation, with its fault as a value. -/
def caught {α : Type} (operation : IO α) : IO (Except FileError α) := do
  try
    return .ok (← operation)
  catch fault =>
    return .error (FileError.ofIO fault)

/-- The files of the process. -/
def processFiles : FileAccess IO where
  read path := caught do
    return (← IO.FS.readBinFile path).data.toList
  write path contents := caught do
    IO.FS.writeBinFile path ⟨contents.toArray⟩

/-- The number of bytes that are read at once. -/
def chunkSize : USize := 65536

/-- Reads a stream to its end. -/
partial def readAll (stream : IO.FS.Stream) (collected : ByteArray) : IO ByteArray := do
  let chunk ← stream.read chunkSize
  if chunk.isEmpty then return collected else readAll stream (collected ++ chunk)

/-- The surroundings of the process. -/
def processHost : CommandLine.Host IO where
  files := processFiles
  input := do
    return (← readAll (← IO.getStdin) ByteArray.empty).data.toList
  converter config call :=
    return ((ConverterCommand.ofConfig config).convert FileTree.empty call).1

/-- The variable of the environment that names the converter's command. -/
def commandVariable : String := "PROTOC_DOCS_PANDOC"

end SchemaDocs

/-- Runs the program. -/
def main (arguments : List String) : IO UInt32 := do
  let environment ← IO.getEnv SchemaDocs.commandVariable
  let report ← SchemaDocs.CommandLine.run SchemaDocs.processHost environment arguments
  (← IO.getStderr).putStr report.messages
  let output ← IO.getStdout
  output.write ⟨report.output.toArray⟩
  output.flush
  return UInt32.ofNat report.code
