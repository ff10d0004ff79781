import SchemaDocs.Yaml.Property
/-!
# From text to tokens

A text is read from its start to its end.  Outside flow collections indentation opens
and closes blocks, and a scalar or collection turns out to be a key only when a colon
follows it; until then its place among the tokens is kept.
-/

namespace SchemaDocs.Yaml

/-- What may turn out to be a key: its place in the text and among the tokens.  A required one
stands where only a key can. -/
structure PossibleKey where
  isRequired : Bool
  token : Nat
  index : Nat
  line : Nat
  column : Nat

/-- The state of reading a text. -/
structure Scanner where
  cursor : Cursor
  tokens : List Token
  /-- The number of flow collections around this place. -/
  flowLevel : Nat
  /-- Whether a key may begin here. -/
  keyAllowed : Bool
  /-- The possible key of each flow collection around this place, the innermost first, and last
  that of the blocks. -/
  keys : List (Option PossibleKey)
  /-- The column of the content of this block plus one, or zero outside all blocks. -/
  level : Nat
  /-- The levels of the blocks around. -/
  levels : List Nat

namespace Scanner

/-- The state at the start of a text. -/
def start (text : List Char) : Scanner := ⟨Cursor.start text, [], 0, true, [none], 0, []⟩

/-- Whether this place is in a flow collection. -/
def inFlow (s : Scanner) : Bool := s.flowLevel != 0

/-- Adds a token. -/
def push (s : Scanner) (token : Token) : Scanner := { s with tokens := s.tokens ++ [token] }

/-- Adds a token at an earlier place. -/
def insertAt (s : Scanner) (place : Nat) (token : Token) : Scanner :=
  { s with tokens := s.tokens.take place ++ token :: s.tokens.drop place }

/-- Gives up the possible key that began last.  A required one cannot be given up. -/
def removeKey (s : Scanner) : Except Error Scanner :=
  match s.keys with
  | some key :: rest =>
    if key.isRequired then .error .missingColon else .ok { s with keys := none :: rest }
  | _ => .ok s

/-- Remembers that a key may begin here. -/
def saveKey (s : Scanner) : Except Error Scanner :=
  if s.keyAllowed then do
    let s ← s.removeKey
    let key : PossibleKey :=
      ⟨!s.inFlow && s.level = s.cursor.column + 1, s.tokens.length, s.cursor.index,
        s.cursor.line, s.cursor.column⟩
    .ok { s with keys := some key :: s.keys.drop 1 }
  else .ok s

/-- The greatest distance in bytes of a key's start from its colon. -/
def longestKey : Nat := 1024

/-- A possible key seen from a place: none if it is on another line or too far away. -/
def freshKey (cursor : Cursor) : Option PossibleKey → Except Error (Option PossibleKey)
  | none => .ok none
  | some key =>
    if key.line < cursor.line || key.index + longestKey < cursor.index then
      if key.isRequired then .error .missingColon else .ok none
    else .ok (some key)

/-- Gives up the possible keys that this place is too far from. -/
def dropStaleKeys (s : Scanner) : Except Error Scanner := do
  let keys ← s.keys.mapM (freshKey s.cursor)
  .ok { s with keys := keys }

/-- Opens a block whose content begins in a column, unless one with this column is open.  Its
token goes to a place among the tokens. -/
def openBlock (s : Scanner) (column place : Nat) (token : Token) : Scanner :=
  if s.inFlow then s
  else if s.level < column + 1 then
    { s.insertAt place token with level := column + 1, levels := s.level :: s.levels }
  else s

/-- Closes the blocks that are indented more than a level. -/
def closeBlocks (s : Scanner) (level : Nat) : List Nat → Scanner
  | [] => s
  | outer :: rest =>
    if level < s.level then
      closeBlocks { s.push .blockEnd with level := outer, levels := rest } level rest
    else s

/-- Closes the blocks that a line indented to a level ends. -/
def unroll (s : Scanner) (level : Nat) : Scanner :=
  if s.inFlow then s else s.closeBlocks level s.levels

/-- The place of the next token: after separators, comments, breaks and the byte order marks that
begin lines.  Tabs count as separators only where no key may begin.  Each step takes a line. -/
def skipToToken : Nat → Scanner → Scanner
  | 0, s => s
  | fuel + 1, s =>
    let start := s.cursor.skipOrderMark
    let tabs := s.inFlow || !s.keyAllowed
    let cursor := start.skipRun fun c => c = ' ' || (tabs && c = '\t')
    let cursor :=
      if cursor.rest.head? = some '#' then cursor.skipRun fun c => !isBreak c else cursor
    if cursor.rest.head?.any isBreak then
      skipToToken fuel
        { s with cursor := cursor.skipBreak, keyAllowed := s.keyAllowed || !s.inFlow }
    else { s with cursor := cursor }

/-- Goes on after some characters. -/
def advance (s : Scanner) (count : Nat) : Scanner := { s with cursor := s.cursor.skip count }

/-- Reads the mark that begins or ends a document. -/
def fetchDocumentMark (s : Scanner) (token : Token) : Except Error Scanner := do
  let s ← (s.unroll 0).removeKey
  .ok ({ s with keyAllowed := false }.push token |>.advance 3)

/-- Reads a directive. -/
def fetchDirective (s : Scanner) : Except Error Scanner := do
  let s ← (s.unroll 0).removeKey
  let (token, cursor) ← readDirective s.cursor
  .ok ({ s with keyAllowed := false, cursor := cursor }.push token)

/-- Reads the opening mark of a flow collection. -/
def fetchFlowStart (s : Scanner) (token : Token) : Except Error Scanner := do
  let s ← s.saveKey
  let s := { s with keys := none :: s.keys, flowLevel := s.flowLevel + 1, keyAllowed := true }
  .ok (s.push token |>.advance 1)

/-- Reads the closing mark of a flow collection. -/
def fetchFlowEnd (s : Scanner) (token : Token) : Except Error Scanner := do
  let s ← s.removeKey
  let s := if s.inFlow then { s with keys := s.keys.drop 1, flowLevel := s.flowLevel - 1 } else s
  .ok ({ s with keyAllowed := false }.push token |>.advance 1)

/-- Reads the comma between the items of a flow collection. -/
def fetchFlowEntry (s : Scanner) : Except Error Scanner := do
  let s ← s.removeKey
  .ok ({ s with keyAllowed := true }.push .flowEntry |>.advance 1)

/-- Opens the block of an item or key that begins here. -/
def openBlockHere (s : Scanner) (token : Token) : Except Error Scanner :=
  if s.inFlow then .ok s
  else if s.keyAllowed then .ok (s.openBlock s.cursor.column s.tokens.length token)
  else .error .misplacedBlock

/-- Reads the mark of a block item. -/
def fetchBlockEntry (s : Scanner) : Except Error Scanner := do
  let s ← s.openBlockHere .blockSequenceStart
  let s ← s.removeKey
  .ok ({ s with keyAllowed := true }.push .blockEntry |>.advance 1)

/-- Reads the mark of an explicit key. -/
def fetchKey (s : Scanner) : Except Error Scanner := do
  let s ← s.openBlockHere .blockMappingStart
  let s ← s.removeKey
  .ok ({ s with keyAllowed := !s.inFlow }.push .key |>.advance 1)

/-- Reads the colon before a value.  What stood before it turns out to be a key. -/
def fetchValue (s : Scanner) : Except Error Scanner :=
  match s.keys with
  | some key :: rest =>
    let s := (s.insertAt key.token .key).openBlock key.column key.token .blockMappingStart
    .ok ({ s with keys := none :: rest, keyAllowed := false }.push .value |>.advance 1)
  | _ => do
    let s ← s.openBlockHere .blockMappingStart
    .ok ({ s with keyAllowed := !s.inFlow }.push .value |>.advance 1)

/-- Reads an anchor or alias. -/
def fetchAnchor (s : Scanner) (token : String → Token) : Except Error Scanner := do
  let s ← s.saveKey
  let (name, cursor) ← readAnchor s.cursor
  .ok ({ s with keyAllowed := false, cursor := cursor }.push (token name))

/-- Reads a tag. -/
def fetchTag (s : Scanner) : Except Error Scanner := do
  let s ← s.saveKey
  let (token, cursor) ← readTag s.inFlow s.cursor
  .ok ({ s with keyAllowed := false, cursor := cursor }.push token)

/-- Reads a block scalar. -/
def fetchBlockScalar (s : Scanner) (style : ScalarStyle) : Except Error Scanner := do
  let s ← s.removeKey
  let (text, cursor) ← readBlock (style = .folded) s.level s.cursor
  .ok ({ s with keyAllowed := true, cursor := cursor }.push (.scalar (String.ofList text) style))

/-- Reads a quoted scalar. -/
def fetchQuoted (s : Scanner) (style : ScalarStyle) : Except Error Scanner := do
  let s ← s.saveKey
  let (text, cursor) ← readQuoted (style = .singleQuoted) s.cursor
  .ok ({ s with keyAllowed := false, cursor := cursor }.push
    (.scalar (String.ofList text) style))

/-- Reads a plain scalar.  A key may begin on the line after it. -/
def fetchPlain (s : Scanner) : Except Error Scanner := do
  let s ← s.saveKey
  let read ← readPlain s.inFlow s.level s.cursor
  .ok ({ s with keyAllowed := read.endsBroken, cursor := read.cursor }.push
    (.scalar (String.ofList read.text) .plain))

/-- Whether a character means something else than itself at the start of a plain scalar. -/
def isIndicator (c : Char) : Bool :=
  c = '-' || c = '?' || c = ':' || c = ',' || c = '[' || c = ']' || c = '\x7b' || c = '\x7d'
    || c = '#' || c = '&' || c = '*' || c = '!' || c = '|' || c = '>' || c = '\'' || c = '"'
    || c = '%' || c = '@' || c = '\x60'

/-- Whether a plain scalar may begin with a character that the given text follows. -/
def beginsPlain (s : Scanner) (c : Char) (after : List Char) : Bool :=
  (!isSpace c && !isBreak c && !isIndicator c)
    || (c = '-' && !after.head?.any isSpace)
    || (!s.inFlow && (c = '?' || c = ':') && !endsWord after)

/-- Reads the token that begins here with a character. -/
def fetch (s : Scanner) (c : Char) (after : List Char) : Except Error Scanner :=
  if s.cursor.column = 0 && c = '%' then s.fetchDirective
  else if s.cursor.atLineMark Cursor.documentStartMark then s.fetchDocumentMark .documentStart
  else if s.cursor.atLineMark Cursor.documentEndMark then s.fetchDocumentMark .documentEnd
  else if c = '[' then s.fetchFlowStart .flowSequenceStart
  else if c = '\x7b' then s.fetchFlowStart .flowMappingStart
  else if c = ']' then s.fetchFlowEnd .flowSequenceEnd
  else if c = '\x7d' then s.fetchFlowEnd .flowMappingEnd
  else if c = ',' then s.fetchFlowEntry
  else if c = '-' && endsWord after then s.fetchBlockEntry
  else if c = '?' && (s.inFlow || endsWord after) then s.fetchKey
  else if c = ':' && (s.inFlow || endsWord after) then s.fetchValue
  else if c = '*' then s.fetchAnchor .alias
  else if c = '&' then s.fetchAnchor .anchor
  else if c = '!' then s.fetchTag
  else if c = '|' && !s.inFlow then s.fetchBlockScalar .literal
  else if c = '>' && !s.inFlow then s.fetchBlockScalar .folded
  else if c = '\'' then s.fetchQuoted .singleQuoted
  else if c = '"' then s.fetchQuoted .doubleQuoted
  else if s.beginsPlain c after then s.fetchPlain
  else .error .unexpectedCharacter

/-- Ends the text. -/
def finish (s : Scanner) : Except Error Scanner := (s.unroll 0).removeKey

/-- Reads all tokens.  Each step takes a character. -/
def scanFrom : Nat → Scanner → Except Error (List Token)
  | 0, s => .ok s.tokens
  | fuel + 1, s =>
    match (skipToToken (s.cursor.rest.length + 1) s).dropStaleKeys with
    | .error cause => .error cause
    | .ok s =>
      let s := s.unroll (s.cursor.column + 1)
      match s.cursor.rest with
      | [] => s.finish.map Scanner.tokens
      | c :: after =>
        match s.fetch c after with
        | .error cause => .error cause
        | .ok s => scanFrom fuel s

end Scanner

/-- A text without the byte order mark that it may begin with. -/
def withoutOrderMark : List Char → List Char
  | '\ufeff' :: text => text
  | text => text

/-- The tokens of a text.  A byte order mark before everything is no part of it. -/
def tokens (text : List Char) : Except Error (List Token) :=
  let text := withoutOrderMark text
  if text.all isAllowed then Scanner.scanFrom (text.length + 1) (Scanner.start text)
  else .error .controlCharacter

end SchemaDocs.Yaml
