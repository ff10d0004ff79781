import SchemaDocs.Yaml.Basic
/-!
# Nodes of YAML documents

A document as a tree of scalars, sequences and mappings, built from tokens.  An alias
holds the number of the last anchor of its name before it, and stands for the last node
with that number, which may be one that encloses it, so that anchored nodes are kept
beside the tree.
-/

namespace SchemaDocs.Yaml

/-- A node. -/
inductive Node where
  | scalar (text : String) (style : ScalarStyle) (tag : Option String)
  | sequence (items : List Node)
  | mapping (entries : List (Node × Node))
  | alias (anchor : Nat)

instance : Inhabited Node := ⟨.sequence []⟩

/-- The root of a document, and its anchored nodes. -/
structure Document where
  root : Node
  /-- The numbers of the anchors in the order of their nodes, the last one first. -/
  anchors : List Nat
  /-- The anchored nodes under their places in that order, where zero is the first. -/
  anchored : List (Nat × Node)

/-- The node with an anchor of a number. -/
def Document.nodeAt? (document : Document) (number : Nat) : Option Node :=
  let place := (document.anchors.dropWhile (· != number)).length - 1
  (document.anchored.find? fun entry => entry.1 = place).map Prod.snd

/-- The node that an alias stands for, or any other node itself. -/
def Document.follow (document : Document) : Node → Node
  | .alias number => (document.nodeAt? number).getD (.alias number)
  | node => node

/-- The state of building nodes. -/
structure Builder where
  tokens : List Token
  /-- What each handle of a tag stands for. -/
  handles : List (String × String)
  /-- The numbers of anchors by name. -/
  names : List (String × Nat)
  /-- The numbers of the anchors so far, the last one first. -/
  anchors : List Nat
  anchored : List (Nat × Node)

namespace Builder

/-- Goes on after a token. -/
def drop (b : Builder) : Builder := { b with tokens := b.tokens.drop 1 }

/-- The next token. -/
def next? (b : Builder) : Option Token := b.tokens.head?

/-- A node that is not written. -/
def emptyScalar (tag : Option String) : Node := .scalar "" .plain tag

/-- The full text of a tag. -/
def resolveTag (b : Builder) (handle suffix : String) : Except Error String :=
  if handle = "" then .ok suffix
  else
    match b.handles.find? fun entry => entry.1 = handle with
    | some entry => .ok (entry.2 ++ suffix)
    | none => .error .badProperty

/-- Reads the anchor and the tag before a node, in either order. -/
def properties (b : Builder) : Except Error (Option String × Option String × Builder) :=
  match b.tokens with
  | .anchor name :: .tag handle suffix :: rest => do
    let tag ← b.resolveTag handle suffix
    .ok (some name, some tag, { b with tokens := rest })
  | .tag handle suffix :: .anchor name :: rest => do
    let tag ← b.resolveTag handle suffix
    .ok (some name, some tag, { b with tokens := rest })
  | .anchor name :: rest => .ok (some name, none, { b with tokens := rest })
  | .tag handle suffix :: rest => do
    let tag ← b.resolveTag handle suffix
    .ok (none, some tag, { b with tokens := rest })
  | _ => .ok (none, none, b)

/-- Numbers an anchor with the count of names before it, so that aliases find it from here
on. -/
def declare (b : Builder) (name : Option String) : Builder :=
  match name with
  | some name =>
    { b with
      names := (name, b.names.length) :: b.names.filter fun entry => entry.1 != name
      anchors := b.names.length :: b.anchors }
  | none => b

/-- Keeps an anchored node under its place. -/
def keep (b : Builder) (name : Option String) (place : Nat) (node : Node) : Builder :=
  match name with
  | some _ => { b with anchored := (place, node) :: b.anchored }
  | none => b

/-- Whether an item of a block sequence is not written. -/
def isItemEmpty (isIndentless : Bool) : Option Token → Bool
  | some .blockEntry | some .blockEnd => true
  | some .key | some .value => isIndentless
  | _ => false

/-- Whether a key or value of a block mapping is not written. -/
def isEntryEmpty : Option Token → Bool
  | some .key | some .value | some .blockEnd => true
  | _ => false

/-- Whether a part of a flow collection is not written. -/
def isFlowEmpty (closing : Token) (token : Option Token) : Bool :=
  token = some .flowEntry || token = some closing

mutual

/-- Builds a node.  Block collections are possible only in a block, and a sequence that is not
indented only as a value.  Every call into a node or from item to item uses one unit of fuel and
takes a token. -/
def node (inBlock isIndentless : Bool) : Nat → Builder → Except Error (Node × Builder)
  | 0, _ => .error .unexpectedToken
  | fuel + 1, b =>
    match b.tokens with
    | .alias name :: rest =>
      match b.names.find? fun entry => entry.1 = name with
      | some entry => .ok (.alias entry.2, { b with tokens := rest })
      | none => .error .unknownAlias
    | _ => do
      let (name, tag, b) ← b.properties
      let place := b.anchors.length
      let b := b.declare name
      let (node, b) ← content inBlock isIndentless name tag fuel b
      .ok (node, b.keep name place node)

/-- Builds a node after its anchor and tag. -/
def content (inBlock isIndentless : Bool) (name tag : Option String) :
    Nat → Builder → Except Error (Node × Builder)
  | 0, _ => .error .unexpectedToken
  | fuel + 1, b =>
    match b.next?, inBlock, isIndentless with
    | some .blockEntry, _, true =>
      (indentlessItems fuel b).map fun read => (.sequence read.1, read.2)
    | some (.scalar text style), _, _ => .ok (.scalar text style tag, b.drop)
    | some .flowSequenceStart, _, _ =>
      (flowItems true fuel b.drop).map fun read => (.sequence read.1, read.2)
    | some .flowMappingStart, _, _ =>
      (flowEntries true fuel b.drop).map fun read => (.mapping read.1, read.2)
    | some .blockSequenceStart, true, _ =>
      (blockItems fuel b.drop).map fun read => (.sequence read.1, read.2)
    | some .blockMappingStart, true, _ =>
      (blockEntries fuel b.drop).map fun read => (.mapping read.1, read.2)
    | _, _, _ =>
      if name.isSome || tag.isSome then .ok (emptyScalar tag, b) else .error .unexpectedToken

/-- Builds the items of a block sequence. -/
def blockItems : Nat → Builder → Except Error (List Node × Builder)
  | 0, _ => .error .unexpectedToken
  | fuel + 1, b =>
    match b.next? with
    | some .blockEntry => do
      let b := b.drop
      let (item, b) ←
        if isItemEmpty false b.next? then .ok (emptyScalar none, b) else node true false fuel b
      let (rest, b) ← blockItems fuel b
      .ok (item :: rest, b)
    | some .blockEnd => .ok ([], b.drop)
    | _ => .error .unexpectedToken

/-- Builds the items of a sequence that is not indented. -/
def indentlessItems : Nat → Builder → Except Error (List Node × Builder)
  | 0, _ => .error .unexpectedToken
  | fuel + 1, b =>
    match b.next? with
    | some .blockEntry => do
      let b := b.drop
      let (item, b) ←
        if isItemEmpty true b.next? then .ok (emptyScalar none, b) else node true false fuel b
      let (rest, b) ← indentlessItems fuel b
      .ok (item :: rest, b)
    | _ => .ok ([], b)

/-- Builds the entries of a block mapping. -/
def blockEntries : Nat → Builder → Except Error (List (Node × Node) × Builder)
  | 0, _ => .error .unexpectedToken
  | fuel + 1, b =>
    match b.next? with
    | some .key => do
      let b := b.drop
      let (key, b) ←
        if isEntryEmpty b.next? then .ok (emptyScalar none, b) else node true true fuel b
      let (value, b) ← blockValue fuel b
      let (rest, b) ← blockEntries fuel b
      .ok ((key, value) :: rest, b)
    | some .blockEnd => .ok ([], b.drop)
    | _ => .error .unexpectedToken

/-- Builds the value of an entry of a block mapping. -/
def blockValue : Nat → Builder → Except Error (Node × Builder)
  | 0, _ => .error .unexpectedToken
  | fuel + 1, b =>
    if b.next? = some .value then
      let b := b.drop
      if isEntryEmpty b.next? then .ok (emptyScalar none, b) else node true true fuel b
    else .ok (emptyScalar none, b)

/-- Builds the items of a flow sequence.  An item with a colon is a mapping of one entry. -/
def flowItems (isFirst : Bool) : Nat → Builder → Except Error (List Node × Builder)
  | 0, _ => .error .unexpectedToken
  | fuel + 1, b =>
    if b.next? = some .flowSequenceEnd then .ok ([], b.drop)
    else if !isFirst && b.next? != some .flowEntry then .error .unexpectedToken
    else
      let b := if isFirst then b else b.drop
      match b.next? with
      | some .flowSequenceEnd => .ok ([], b.drop)
      | some .key => do
        let (entry, b) ← flowPair fuel b.drop
        let (rest, b) ← flowItems false fuel b
        .ok (.mapping [entry] :: rest, b)
      | _ => do
        let (item, b) ← node false false fuel b
        let (rest, b) ← flowItems false fuel b
        .ok (item :: rest, b)

/-- Builds the one entry of a mapping within a flow sequence. -/
def flowPair : Nat → Builder → Except Error ((Node × Node) × Builder)
  | 0, _ => .error .unexpectedToken
  | fuel + 1, b => do
    let (key, b) ←
      if b.next? = some .value || isFlowEmpty .flowSequenceEnd b.next? then
        .ok (emptyScalar none, b.drop)
      else node false false fuel b
    if b.next? = some .value then
      let b := b.drop
      if isFlowEmpty .flowSequenceEnd b.next? then .ok ((key, emptyScalar none), b)
      else do
        let (value, b) ← node false false fuel b
        .ok ((key, value), b)
    else .ok ((key, emptyScalar none), b)

/-- Builds the entries of a flow mapping.  An entry without a colon has no value. -/
def flowEntries (isFirst : Bool) : Nat → Builder → Except Error (List (Node × Node) × Builder)
  | 0, _ => .error .unexpectedToken
  | fuel + 1, b =>
    if b.next? = some .flowMappingEnd then .ok ([], b.drop)
    else if !isFirst && b.next? != some .flowEntry then .error .unexpectedToken
    else
      let b := if isFirst then b else b.drop
      match b.next? with
      | some .flowMappingEnd => .ok ([], b.drop)
      | some .key => do
        let b := b.drop
        let (key, b) ←
          if b.next? = some .value || isFlowEmpty .flowMappingEnd b.next? then
            .ok (emptyScalar none, b)
          else node false false fuel b
        let (value, b) ← flowValue fuel b
        let (rest, b) ← flowEntries false fuel b
        .ok ((key, value) :: rest, b)
      | _ => do
        let (key, b) ← node false false fuel b
        let (rest, b) ← flowEntries false fuel b
        .ok ((key, emptyScalar none) :: rest, b)

/-- Builds the value of an entry of a flow mapping. -/
def flowValue : Nat → Builder → Except Error (Node × Builder)
  | 0, _ => .error .unexpectedToken
  | fuel + 1, b =>
    if b.next? = some .value then
      let b := b.drop
      if isFlowEmpty .flowMappingEnd b.next? then .ok (emptyScalar none, b)
      else node false false fuel b
    else .ok (emptyScalar none, b)

end

end Builder

/-- The handles that every document has. -/
def standardHandles : List (String × String) := [("!", "!"), ("!!", "tag:yaml.org,2002:")]

/-- Whether a version can be read. -/
def isKnownVersion (major minor : Nat) : Bool := major = 1 && (minor = 1 || minor = 2)

/-- Reads directives: whether a version was given, and the handles.  Neither may be given
twice. -/
def directives (hasVersion : Bool) (handles : List (String × String)) :
    List Token → Except Error (List (String × String) × List Token)
  | .versionDirective major minor :: rest =>
    if !hasVersion && isKnownVersion major minor then directives true handles rest
    else .error .badDirective
  | .tagDirective handle beginning :: rest =>
    if handles.any fun entry => entry.1 = handle then .error .badDirective
    else directives hasVersion (handles ++ [(handle, beginning)]) rest
  | tokens => .ok (handles, tokens)

/-- Whether tokens begin with a directive. -/
def beginsWithDirective : List Token → Bool
  | .versionDirective _ _ :: _ => true
  | .tagDirective _ _ :: _ => true
  | _ => false

/-- Whether the content of a document that is begun by a mark is not written. -/
def isContentEmpty (tokens : List Token) : Bool :=
  tokens.isEmpty || beginsWithDirective tokens || tokens.head? = some .documentStart
    || tokens.head? = some .documentEnd

/-- The tokens of the content of the first document, and whether a mark begins it. -/
def documentStart (handles : List (String × String)) (tokens : List Token) :
    Except Error (Bool × List (String × String) × List Token) :=
  match tokens with
  | .documentStart :: rest => .ok (true, handles ++ standardHandles, rest)
  | _ =>
    if beginsWithDirective tokens then
      match directives false handles tokens with
      | .error cause => .error cause
      | .ok (handles, .documentStart :: rest) => .ok (true, handles ++ standardHandles, rest)
      | .ok _ => .error .unexpectedToken
    else .ok (false, handles ++ standardHandles, tokens)

/-- The only document of a list of tokens, or nothing if they hold none. -/
def documentOfTokens? (tokens : List Token) : Except Error (Option Document) :=
  if tokens.isEmpty then .ok none
  else do
    let (isMarked, handles, tokens) ← documentStart [] tokens
    let b : Builder := ⟨tokens, handles, [], [], []⟩
    let (root, b) ←
      if isMarked && isContentEmpty tokens then .ok (Builder.emptyScalar none, b)
      else Builder.node true false (4 * tokens.length + 4) b
    if b.tokens.all (· == .documentEnd) then .ok (some ⟨root, b.anchors, b.anchored⟩)
    else .error .severalDocuments

end SchemaDocs.Yaml
