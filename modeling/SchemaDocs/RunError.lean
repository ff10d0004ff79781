import SchemaDocs.Config.Basic
import SchemaDocs.Files.Error
import SchemaDocs.Text.Printable
import SchemaDocs.Wire.Error
import SchemaDocs.Yaml.Basic
/-!
# Failures of a run

Everything that can stop the making of documentation, with its text.
-/

namespace SchemaDocs

/-- Why bytes could not be taken as a message. -/
inductive DecodeError where
  /-- The bytes are no request. -/
  | request (cause : Wire.WireError)
  /-- The bytes are no set of files. -/
  | descriptorSet (cause : Wire.WireError)
  /-- The file of a set could not be read. -/
  | unreadableSet (path : String) (cause : FileError)
deriving DecidableEq

/-- The text of a decoding failure. -/
def DecodeError.message : DecodeError → String
  | .request cause => "Failed to decode CodeGeneratorRequest: " ++ cause.message
  | .descriptorSet cause => "Failed to decode FileDescriptorSet: " ++ cause.message
  | .unreadableSet path cause =>
    "Failed to read FileDescriptorSet file " ++ path ++ ": " ++ cause.message

/-- Why a configuration was refused. -/
inductive ConfigError where
  /-- A configuration file could not be read. -/
  | unreadable (path : String) (cause : FileError)
  /-- A configuration file holds no configuration. -/
  | unparsable (path : String) (cause : Yaml.Error)
  /-- A parameter was refused. -/
  | parameter (cause : ParameterError)
deriving DecidableEq

/-- The text of a refused configuration. -/
def ConfigError.message : ConfigError → String
  | .unreadable path cause =>
    "Failed to read config file " ++ Text.quoted path ++ ": " ++ cause.message
  | .unparsable path cause =>
    "Failed to parse config YAML from " ++ Text.quoted path ++ ": YAML error: " ++ cause.message
  | .parameter cause => cause.message

/-- Why a run failed. -/
inductive RunError where
  | decode (cause : DecodeError)
  | config (cause : ConfigError)
  | conversion (cause : BatchError)
  | io (cause : FileError)
  | yaml (cause : Yaml.Error)

/-- The text of a failure. -/
def RunError.message : RunError → String
  | .decode cause => "Decode error: " ++ cause.message
  | .config cause => "Configuration error: " ++ cause.message
  | .conversion cause => "Conversion error: " ++ cause.message
  | .io cause => "IO error: " ++ cause.message
  | .yaml cause => "YAML error: " ++ cause.message

end SchemaDocs
