/-!
# YAML text

The tokens of a YAML text, and what can be wrong with one.

## Tokens

What a YAML text consists of before its structure is known.  Blocks that indentation
opens and closes have tokens of their own.
-/

namespace SchemaDocs.Yaml

/-- How a scalar is written. -/
inductive ScalarStyle where
  | plain | singleQuoted | doubleQuoted | literal | folded
deriving DecidableEq

/-- A token. -/
inductive Token where
  | versionDirective (major minor : Nat)
  | tagDirective (handle beginning : String)
  | documentStart
  | documentEnd
  | blockSequenceStart
  | blockMappingStart
  | blockEnd
  | flowSequenceStart
  | flowSequenceEnd
  | flowMappingStart
  | flowMappingEnd
  | blockEntry
  | flowEntry
  | key
  | value
  | alias (name : String)
  | anchor (name : String)
  | tag (handle suffix : String)
  | scalar (text : String) (style : ScalarStyle)
deriving DecidableEq

end SchemaDocs.Yaml

/-!
## Faults

Where reading a document or a configuration in it stopped.
-/

namespace SchemaDocs.Yaml

/-- What is wrong with a YAML text. -/
inductive Error where
  /-- A character that no YAML text may hold. -/
  | controlCharacter
  /-- A character that can begin no token. -/
  | unexpectedCharacter
  /-- A block begins where none may. -/
  | misplacedBlock
  /-- A key is not followed by its colon. -/
  | missingColon
  /-- A text between quotes does not end. -/
  | unclosedQuote
  /-- An escape that does not exist or is incomplete. -/
  | badEscape
  /-- A line of a block scalar is indented wrongly, or its header is malformed. -/
  | badBlockScalar
  /-- A directive is malformed, repeated or unsupported. -/
  | badDirective
  /-- An anchor, alias or tag is malformed. -/
  | badProperty
  /-- Tokens in an order that forms no document. -/
  | unexpectedToken
  /-- An alias without an anchor before it. -/
  | unknownAlias
  /-- More than one document. -/
  | severalDocuments
  /-- A value of another shape than the setting has. -/
  | wrongShape (setting : String)
  /-- A setting is given twice. -/
  | repeatedSetting (setting : String)
deriving DecidableEq

/-- The text of a fault. -/
def Error.message : Error → String
  | .controlCharacter => "control characters are not allowed"
  | .unexpectedCharacter => "found character that cannot start any token"
  | .misplacedBlock => "block entries are not allowed in this context"
  | .missingColon => "could not find expected ':'"
  | .unclosedQuote => "found unexpected end of stream"
  | .badEscape => "found unknown escape character"
  | .badBlockScalar => "malformed block scalar"
  | .badDirective => "malformed directive"
  | .badProperty => "malformed anchor, alias or tag"
  | .unexpectedToken => "did not find expected node content"
  | .unknownAlias => "unknown anchor"
  | .severalDocuments => "more than one document"
  | .wrongShape setting => "invalid value for " ++ setting
  | .repeatedSetting setting => "duplicate setting " ++ setting

end SchemaDocs.Yaml
