import SchemaDocs.CommandLine.Report
import SchemaDocs.CommandLine.Invocation
import SchemaDocs.Config.Yaml
import SchemaDocs.Descriptor.ConvertFile
import SchemaDocs.Response.Assemble
/-!
# Runs of the program

What the program does for a command line: which files it reads and writes, what it
prints, and with which code it ends.  A request is answered even if no documentation
can be made for it, and then the answer tells why.
-/

namespace SchemaDocs.CommandLine

/-- The surroundings of a run. -/
structure Host (m : Type → Type) where
  files : FileAccess m
  /-- Reads the whole input. -/
  input : m Bytes
  /-- The converter that a configuration names. -/
  converter : ConverterConfig → Converter m

/-- What a run leaves behind. -/
structure Report where
  code : Nat
  output : Bytes
  messages : String
deriving DecidableEq

/-- The code of a run that failed. -/
def failureCode : Nat := 1

/-- The code of a run that was not understood. -/
def usageCode : Nat := 2

/-- The text that tells the version. -/
def versionText : String := "protoc-gen-pydocstring 0.2.0\n"

/-- The text that tells how the program is used. -/
def helpText : String :=
  "Usage: protoc-gen-pydocstring [OPTIONS] [COMMAND]\n\n"
    ++ "Commands:\n  convert-descriptors <INPUT> <OUTPUT>\n  inspect <REQUEST>\n\n"
    ++ "Options:\n  -c, --config <CONFIG>\n      --pandoc <PANDOC>\n  -v, --verbose\n"
    ++ "  -h, --help\n  -V, --version\n"

/-- The mark before a message about something that is done now. -/
def startMark : String := "→ "

/-- The mark before a message about something that is done. -/
def doneMark : String := "✓ "

namespace Report

/-- A run that went well. -/
def success (output : Bytes) (messages : String) : Report := ⟨0, output, messages⟩

/-- A run that failed after some messages. -/
def failed (messages : String) (failure : Failure) : Report :=
  ⟨failureCode, [], messages ++ failure.text⟩

/-- The report on a command line that leads to no run. -/
def ofStop : Stop → Report
  | .version => success (Text.toUtf8 versionText) ""
  | .help => success (Text.toUtf8 helpText) ""
  | .refused cause => ⟨usageCode, [], "error: " ++ cause.message ++ "\n"⟩

end Report

variable {m : Type → Type} [Monad m]

/-- The configuration in a file, or the default. -/
def loadConfig (files : FileAccess m) : Option String → m (Except Failure Config)
  | none => pure (.ok {})
  | some path => do
    match ← Config.load files path with
    | .error cause => pure (.error (.ofRun ("Failed to load config from " ++ path) cause))
    | .ok config => pure (.ok config)

/-- The configuration with the converter's command replaced, if there is another one. -/
def withCommand (config : Config) : Option String → Config
  | none => config
  | some command => { config with converter := { config.converter with command := command } }

/-- The answer to the bytes of a request. -/
def answerBytes (host : Host m) (config : Config) (bytes : Bytes) :
    m (Except Failure GenerateResponse) :=
  match GenerateRequest.decode bytes with
  | .error cause =>
    pure (.error
      (.ofRun "Failed to read CodeGeneratorRequest from stdin" (.decode (.request cause))))
  | .ok request => do
    return .ok (Response.ofOutcome (← Response.answer host.converter config request))

/-- Answers the request that is read from the input. -/
def runAnswer (host : Host m) (config : Config) : m Report := do
  match ← answerBytes host config (← host.input) with
  | .error failure => return .failed "" failure
  | .ok response => return .success response.encode ""

/-- Converts the comments of a set of files. -/
def runConversion (host : Host m) (config : Config) (source dest : String) : m Report := do
  let start := startMark ++ "Converting comments in " ++ source ++ "\n"
  match ←
    DescriptorSet.convertFile host.files (host.converter config.converter) config source dest with
  | .error cause => return .failed start (.ofRun ("Failed to convert " ++ source) cause)
  | .ok count =>
    return .success []
      (start ++ doneMark ++ "Wrote " ++ toString count ++ " comments to " ++ dest ++ "\n")

/-- Shows what a request documents. -/
def runInspection (host : Host m) (path : String) : m Report := do
  match ← host.files.read path with
  | .error cause => return .failed "" ⟨"Failed to read request file " ++ path, [cause.message]⟩
  | .ok bytes =>
    match GenerateRequest.decode bytes with
    | .error cause =>
      return .failed "" (.ofRun "Failed to decode request" (.decode (.request cause)))
    | .ok request =>
      let inspection := Inspection.ofRequest request
      return .success (Text.toUtf8 (inspection.toJson.indented ++ "\n"))
        (doneMark ++ inspection.summary ++ "\n")

/-- Does what is asked for. -/
def runAction (host : Host m) (config : Config) : Action → m Report
  | .answerRequest => runAnswer host config
  | .convertDescriptors source dest => runConversion host config source dest
  | .inspect request => runInspection host request

/-- Does what an invocation asks for, under its configuration. -/
def runInvocation (host : Host m) (invocation : Invocation) : m Report := do
  match ← loadConfig host.files invocation.options.configPath with
  | .error failure => return .failed "" failure
  | .ok config =>
    runAction host (withCommand config invocation.options.command) invocation.action

/-- Runs the program with the converter's command of the environment and the arguments of a
command line. -/
def run (host : Host m) (environment : Option String) (arguments : List String) : m Report :=
  match parse environment arguments with
  | .error stop => pure (.ofStop stop)
  | .ok invocation => runInvocation host invocation

end SchemaDocs.CommandLine
