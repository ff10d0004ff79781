import SchemaDocs.Markup.Batch
import SchemaDocs.Text.Blank
/-!
# Configuration

Where links lead, how generated modules are named, and how comments are converted.
-/

namespace SchemaDocs

/-- How the converter is run. -/
structure ConverterConfig where
  command : String := "pandoc"
  /-- Arguments before those that name the formats. -/
  args : List String := []
  timeoutSecs : UInt64 := 60
deriving DecidableEq

/-- The settings of one run. -/
structure Config where
  docsHost : String := "https://cloud.google.com"
  moduleSuffix : String := "_pb2.py"
  sourceFormat : String := "commonmark"
  targetFormat : String := "rst"
  converter : ConverterConfig := {}
deriving DecidableEq

namespace Config

/-- What batches need to know. -/
def markup (config : Config) : MarkupSettings :=
  ⟨config.docsHost, config.sourceFormat, config.targetFormat⟩

/-- The ending of a schema file's name. -/
def schemaEnding : List Char := ".proto".toList

/-- A text without an ending, or the whole text if it ends otherwise. -/
def dropEnding (ending s : List Char) : List Char :=
  match Text.after? ending.reverse s.reverse with
  | some rest => rest.reverse
  | none => s

/-- The name of the module that is generated from a schema file. -/
def moduleName (config : Config) (fileName : String) : String :=
  Text.onChars (dropEnding schemaEnding) fileName ++ config.moduleSuffix

end Config

end SchemaDocs

/-!
## Configuration by parameter

A parameter is a list of `key=value` pairs with commas between them.  Pairs take
effect one after the other, and those before a bad pair stay in effect.
-/

namespace SchemaDocs

/-- Why a pair was refused. -/
inductive ParameterError where
  | missingEquals (pair : String)
  | unknownKey (key : String)
deriving DecidableEq

/-- The text of a parameter error. -/
def ParameterError.message : ParameterError → String
  | .missingEquals pair => "Expected key=value in parameter, got '" ++ pair ++ "'"
  | .unknownKey key => "Unknown plugin parameter '" ++ key ++ "'"

namespace Config

/-- Drops the slashes at the end. -/
def dropSlashes (s : List Char) : List Char := (s.reverse.dropWhile (· = '/')).reverse

/-- Sets what a key names. -/
def set (config : Config) (key value : String) : Except ParameterError Config :=
  if key = "docs_host" then .ok { config with docsHost := Text.onChars dropSlashes value }
  else if key = "module_suffix" then .ok { config with moduleSuffix := value }
  else if key = "source_format" then .ok { config with sourceFormat := value }
  else if key = "target_format" then .ok { config with targetFormat := value }
  else if key = "pandoc" then
    .ok { config with converter := { config.converter with command := value } }
  else .error (.unknownKey key)

/-- Sets what a pair names. -/
def applyPair (config : Config) (pair : List Char) : Except ParameterError Config :=
  match Text.cutAt? '=' pair with
  | none => .error (.missingEquals (String.ofList pair))
  | some (key, value) =>
    config.set (String.ofList (Text.trim key)) (String.ofList (Text.trim value))

/-- Applies pairs up to the first that is refused. -/
def applyPairs (config : Config) : List (List Char) → Except ParameterError Unit × Config
  | [] => (.ok (), config)
  | pair :: rest =>
    match config.applyPair pair with
    | .error cause => (.error cause, config)
    | .ok config => config.applyPairs rest

/-- The pairs of a parameter, trimmed, without those that are blank. -/
def pairsOf (parameter : String) : List (List Char) :=
  ((Text.splitAt ',' parameter.toList).map Text.trim).filter fun pair => !pair.isEmpty

/-- Applies a parameter. -/
def applyParameter (config : Config) (parameter : String) : Except ParameterError Unit × Config :=
  config.applyPairs (pairsOf parameter)

end Config

end SchemaDocs
