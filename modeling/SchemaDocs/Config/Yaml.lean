import SchemaDocs.Config.Basic
import SchemaDocs.Files.Tree
import SchemaDocs.RunError
import SchemaDocs.Text.Blank
import SchemaDocs.Yaml.Node
import SchemaDocs.Yaml.Scan
/-!
# Configuration in YAML

A configuration is a mapping from the names of settings to their values.  Missing
settings have their defaults, unknown ones are passed over, and none may be given
twice.  Any scalar serves as a text; what is not written at all serves as an empty
text, list or mapping.
-/

namespace SchemaDocs

namespace Yaml

/-! ## Values of settings -/

/-- Whether a node is not written at all. -/
def isUnwritten : Node → Bool
  | .scalar "" .plain _ => true
  | _ => false

/-- The text of a scalar. -/
def readText (setting : String) (document : Document) (node : Node) : Except Error String :=
  match document.follow node with
  | .scalar text _ _ => .ok text
  | _ => .error (.wrongShape setting)

/-- The texts of a sequence of scalars. -/
def readTexts (setting : String) (document : Document) (node : Node) :
    Except Error (List String) :=
  match document.follow node with
  | .sequence items => items.mapM (readText setting document)
  | other => if isUnwritten other then .ok [] else .error (.wrongShape setting)

/-- The entries of a mapping. -/
def readEntries (setting : String) (document : Document) (node : Node) :
    Except Error (List (Node × Node)) :=
  match document.follow node with
  | .mapping entries => .ok entries
  | other => if isUnwritten other then .ok [] else .error (.wrongShape setting)

/-- The value of digits in a base up to sixteen, of which there is at least one. -/
def digitsValue? (base : Nat) (s : List Char) : Option Nat :=
  if s.isEmpty then none
  else
    s.foldl
      (fun value c => do
        let digit ← hexValue? c
        if digit < base then some ((← value) * base + digit) else none)
      (some 0)

/-- Whether digits begin with a zero that is not their only one. -/
def hasLeadingZero : List Char → Bool
  | '0' :: c :: cs => (c :: cs).all Char.isDigit
  | _ => false

/-- A natural number in decimal digits, or with a mark in another base. -/
def naturalOf? (s : List Char) : Option Nat :=
  let unsigned := match s with
    | '+' :: rest => rest
    | _ => s
  match unsigned with
  | '0' :: 'x' :: digits => digitsValue? 16 digits
  | '0' :: 'o' :: digits => digitsValue? 8 digits
  | '0' :: 'b' :: digits => digitsValue? 2 digits
  | _ => if hasLeadingZero unsigned then none else digitsValue? 10 unsigned

/-- The tag of whole numbers. -/
def intTag : String := "tag:yaml.org,2002:int"

/-- Whether a scalar may be a number: a plain one, or a literal one that says so. -/
def mayBeNumber (style : ScalarStyle) (tag : Option String) : Bool :=
  style = .plain || (style = .literal && tag = some intTag)

/-- The number of a scalar, which must fit into 64 bits. -/
def readWord (setting : String) (document : Document) (node : Node) : Except Error UInt64 :=
  match document.follow node with
  | .scalar text style tag =>
    match naturalOf? text.toList with
    | some n =>
      if mayBeNumber style tag && n < UInt64.size then .ok (UInt64.ofNat n)
      else .error (.wrongShape setting)
    | none => .error (.wrongShape setting)
  | _ => .error (.wrongShape setting)

/-! ## Settings -/

/-- Takes entries one after the other into settings.  An entry is taken by the reader of its name,
if there is one, and not twice. -/
def readSettings {σ : Type} (reader? : String → Option (σ → Node → Except Error σ))
    (document : Document) (seen : List String) (settings : σ) :
    List (Node × Node) → Except Error σ
  | [] => .ok settings
  | (key, value) :: rest => do
    let name ← readText "key" document key
    match reader? name with
    | none => readSettings reader? document seen settings rest
    | some reader =>
      if seen.contains name then .error (.repeatedSetting name)
      else do
        let settings ← reader settings value
        readSettings reader? document (name :: seen) settings rest

end Yaml

namespace ConverterConfig

/-- The reader of a setting of the converter. -/
def reader? (document : Yaml.Document) (name : String) :
    Option (ConverterConfig → Yaml.Node → Except Yaml.Error ConverterConfig) :=
  match name with
  | "command" => some fun config node => do
    let text ← Yaml.readText name document node
    .ok { config with command := text }
  | "args" => some fun config node => do
    let texts ← Yaml.readTexts name document node
    .ok { config with args := texts }
  | "timeout_secs" => some fun config node => do
    let word ← Yaml.readWord name document node
    .ok { config with timeoutSecs := word }
  | _ => none

/-- The settings of the converter. -/
def ofNode (document : Yaml.Document) (node : Yaml.Node) :
    Except Yaml.Error ConverterConfig := do
  let entries ← Yaml.readEntries "converter" document node
  Yaml.readSettings (reader? document) document [] {} entries

end ConverterConfig

namespace Config

/-- The reader of a setting. -/
def reader? (document : Yaml.Document) (name : String) :
    Option (Config → Yaml.Node → Except Yaml.Error Config) :=
  match name with
  | "docs_host" => some fun config node => do
    let text ← Yaml.readText name document node
    .ok { config with docsHost := text }
  | "module_suffix" => some fun config node => do
    let text ← Yaml.readText name document node
    .ok { config with moduleSuffix := text }
  | "source_format" => some fun config node => do
    let text ← Yaml.readText name document node
    .ok { config with sourceFormat := text }
  | "target_format" => some fun config node => do
    let text ← Yaml.readText name document node
    .ok { config with targetFormat := text }
  | "converter" => some fun config node => do
    let converter ← ConverterConfig.ofNode document node
    .ok { config with converter := converter }
  | _ => none

/-- The configuration in a document. -/
def ofDocument (document : Yaml.Document) : Except Yaml.Error Config := do
  let entries ← Yaml.readEntries "configuration" document document.root
  Yaml.readSettings (reader? document) document [] {} entries

/-- The configuration in a text.  A blank text, or one without a document, is the default. -/
def ofYaml (text : String) : Except Yaml.Error Config :=
  if Text.allBlank text.toList then .ok {}
  else do
    match ← Yaml.documentOfTokens? (← Yaml.tokens text.toList) with
    | none => .ok {}
    | some document => ofDocument document

/-- The configuration in the bytes of a file. -/
def ofFileBytes (path : String) (bytes : Bytes) : Except RunError Config :=
  match Text.ofUtf8? bytes with
  | none => .error (.config (.unreadable path .notUtf8))
  | some text =>
    match ofYaml text with
    | .error cause => .error (.config (.unparsable path cause))
    | .ok config => .ok config

/-- Loads a configuration from a file. -/
def load {m : Type → Type} [Monad m] (files : FileAccess m) (path : String) :
    m (Except RunError Config) := do
  match ← files.read path with
  | .error cause => pure (.error (.config (.unreadable path cause)))
  | .ok bytes => pure (ofFileBytes path bytes)

end Config

end SchemaDocs
