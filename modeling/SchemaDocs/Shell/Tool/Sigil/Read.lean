import SchemaDocs.Shell.Tool.Record.Datum
import SchemaDocs.Shell.Tool.Sigil.Token
/-!
# Reading programs of signed names

Expressions are read by how tightly their operators bind, and texts with values in them are read
as expressions in turn.  Every step down or along takes from a bound that the length of the
program gives.
-/

namespace SchemaDocs.Shell.Sigil

namespace Reading

/-! ## Names that mean something -/

/-- Functions that take one value, which binds tighter than comparisons. -/
def soleNames : List String :=
  ["defined", "ref", "scalar", "lc", "uc", "lcfirst", "ucfirst", "length", "chr", "ord", "int",
   "abs", "sqrt", "sin", "cos", "exp", "log", "hex", "oct", "rand", "srand", "quotemeta", "chomp",
   "chop", "shift", "pop", "caller", "undef", "exit", "umask", "sleep", "localtime", "gmtime",
   "readline", "close", "chdir", "rmdir", "readlink", "each", "keys", "values", "delete", "exists",
   "fc", "pos", "require", "getc", "eof", "fileno", "stat", "lstat", "study", "alarm", "lock",
   "closedir", "readdir", "rewinddir", "tell", "readpipe"]

/-- Functions that take nothing. -/
def bareNames : List String :=
  ["time", "times", "wait", "wantarray", "getppid", "fork", "break"]

/-- Functions that take several values. -/
def listNames : List String :=
  ["push", "unshift", "splice", "join", "split", "sprintf", "die", "warn", "reverse", "unlink",
   "open", "pack", "unpack", "substr", "index", "rindex", "system", "exec", "kill", "bless",
   "atan2", "binmode", "seek", "chmod", "chown", "mkdir", "rename", "opendir", "utime", "link",
   "symlink", "read", "sysread", "syswrite", "sysopen", "truncate", "select", "vec", "crypt",
   "waitpid", "return", "flock", "sysseek", "pipe", "local", "next", "last", "redo", "glob"]

/-- Functions that do something for each of some items. -/
def mappedNames : List String := ["map", "grep", "sort"]

/-- Functions of libraries that take a block. -/
def blockNames : List String :=
  ["first", "any", "all", "none", "notall", "reduce", "reductions", "sum_by", "max_by", "min_by",
   "sort_by", "uniq_by", "pairmap", "pairgrep", "pairfirst"]

/-- Whether a name is one of the language's own. -/
def isOwnName (name : String) : Bool :=
  soleNames.contains name || bareNames.contains name || listNames.contains name
    || mappedNames.contains name
    || ["print", "printf", "say", "my", "our", "local", "state", "sub", "do", "eval", "if", "unless",
        "while", "until", "for", "foreach", "and", "or", "not", "xor", "x", "eq", "ne", "lt", "gt",
        "le", "ge", "cmp", "q", "qq", "qw", "qr", "m", "s", "y", "tr", "package", "use", "no",
        "else", "elsif", "continue", "__PACKAGE__", "__FILE__", "__LINE__", "__END__",
        "__DATA__", "__SUB__"].contains name

/-- The words that a whole expression ends before. -/
def endingWords : List String :=
  ["or", "and", "if", "unless", "while", "until", "for", "foreach", "xor"]

/-- The functions that libraries bring along. -/
def libraryNames (library : String) : Option (List String) :=
  match library with
  | "strict" | "warnings" | "utf8" | "feature" | "vars" | "lib" | "parent" | "base" | "constant"
  | "integer" | "bytes" | "open" | "overload" | "Exporter" | "IO::Handle" | "IO::File" | "English"
  | "FileHandle" | "diagnostics" | "less" | "sort" | "subs" | "locale" | "mro" | "re" | "bigint"
  | "experimental" | "autodie" | "version" | "Symbol" | "Errno" | "builtin" | "filetest"
  | "threads" | "Config" | "autouse" => some []
  | "Fcntl" => some ["LOCK_EX", "LOCK_SH", "LOCK_UN", "SEEK_SET", "SEEK_CUR", "SEEK_END",
      "O_RDONLY", "O_WRONLY", "O_RDWR", "O_CREAT", "O_EXCL", "O_TRUNC", "O_APPEND"]
  | "List::Util" => some []
  | "Scalar::Util" => some []
  | "POSIX" => some ["floor", "ceil", "fmod", "strftime", "pow", "strtol", "isatty", "INT_MAX",
      "INT_MIN", "DBL_MAX", "DBL_MIN", "UINT_MAX", "LONG_MAX", "LONG_MIN", "EXIT_SUCCESS", "EXIT_FAILURE",
      "toupper", "tolower", "dup2", "mktime", "tan", "asin", "acos", "atan", "sinh", "cosh", "tanh",
      "log10", "strtod", "ENOENT", "EEXIST", "EACCES", "EINTR", "SIGTERM", "SIGINT", "SIGKILL", "SIGALRM",
      "WEXITSTATUS", "WIFEXITED", "WIFSIGNALED", "WTERMSIG", "getpid", "strerror", "isalpha", "ldexp", "frexp",
      "modf", "abort", "_exit", "WNOHANG", "EPIPE"]
  | "Data::Dumper" => some ["Dumper"]
  | "Getopt::Long" => some ["GetOptions"]
  | "Getopt::Std" => some ["getopts", "getopt"]
  | "File::Basename" => some ["basename", "dirname", "fileparse"]
  | "File::Spec" => some []
  | "File::Spec::Functions" => some ["catfile", "catdir", "curdir"]
  | "File::Path" => some ["mkpath", "rmtree", "make_path", "remove_tree"]
  | "File::Copy" => some ["copy", "move", "cp", "mv"]
  | "File::Temp" => some ["tempfile", "tempdir"]
  | "Cwd" => some ["cwd", "getcwd"]
  | "Carp" => some ["croak", "carp", "confess"]
  | "Time::HiRes" => some []
  | "Time::Local" => some ["timelocal", "timegm"]
  | "Encode" => some ["encode", "decode", "encode_utf8", "decode_utf8", "is_utf8", "find_encoding"]
  | "JSON::PP" => some ["encode_json", "decode_json"]
  | "MIME::Base64" => some ["encode_base64", "decode_base64"]
  | "Digest::MD5" => some []
  | "Digest::SHA" => some []
  | "Text::Wrap" => some ["wrap", "fill"]
  | "Text::ParseWords" => some ["shellwords", "quotewords"]
  | "Text::Tabs" => some ["expand", "unexpand"]
  | "Text::Abbrev" => some []
  | "Storable" => some []
  | "Term::ANSIColor" => some ["color", "colored"]
  | _ => none

/-- The directories that libraries are looked for in. -/
def libraryRoots : List Char :=
  ascii ("/etc/perl:/usr/local/lib/x86_64-linux-gnu/perl/5.38.2:/usr/local/share/perl/5.38.2"
    ++ ":/usr/lib/x86_64-linux-gnu/perl5/5.38:/usr/share/perl5:/usr/lib/x86_64-linux-gnu/perl-base"
    ++ ":/usr/lib/x86_64-linux-gnu/perl/5.38:/usr/share/perl/5.38:/usr/local/lib/site_perl")

/-- Whether a text behind an open brace looks like entries of a table and not like statements. -/
def looksLikeTable (text : List Char) : Bool :=
  let text := text.dropWhile isSpaceChar
  let isKeyed (first : Char) (after : List Char) : Bool :=
    match after.dropWhile isSpaceChar with
    | ',' :: _ => !first.isLower
    | '=' :: '>' :: _ => true
    | _ => false
  match text with
  | '\x7d' :: _ => true
  | c :: rest =>
    if isNameStart c then isKeyed c (text.dropWhile isNamePart)
    else if c = '"' || c = '\'' then
      match untilClose c c true 0 [] rest with
      | some (_, after) => isKeyed c after
      | none => false
    else false
  | [] => false

/-- The numbers of a repetition in a pattern, at the start of a text. -/
def isRepetition (text : List Char) : Bool :=
  let inner := text.takeWhile (· != '\x7d')
  text.contains '\x7d' && inner.any Char.isDigit && inner.all fun c => c.isDigit || c = ',' || c = ' '

/-- Whether an open bracket behind a variable in a pattern begins a place in a row. -/
def isPlace (text : List Char) : Bool :=
  let inner := text.takeWhile (· != ']')
  text.contains ']' && (match inner with
    | '$' :: name => !name.isEmpty && name.all isNamePart
    | '-' :: digits => !digits.isEmpty && digits.all Char.isDigit
    | digits => !digits.isEmpty && digits.all Char.isDigit)

/-- What a variable is found by. -/
inductive Base where
  | name (name : List Char)
  | inner (inner : Expr)

/-- The variable of some sign that a base stands for. -/
def ofBase (sign : Sign) : Base → Reading Expr
  | .name name => namedVariable sign name
  | .inner inner => return .follow sign inner

/-- Neighbouring constants as one. -/
def merged : List Expr → List Expr
  | .constant (.text a) :: rest =>
    match merged rest with
    | .constant (.text b) :: rest => .constant (.text (a ++ b)) :: rest
    | rest => .constant (.text a) :: rest
  | part :: rest => part :: merged rest
  | [] => []

/-- A text of some parts. -/
def joinedOf (parts : List Expr) : Expr :=
  match merged parts with
  | [] => .constant (.text [])
  | [.constant value] => .constant value
  | parts => .joined parts

/-- A block that holds a single expression as this expression. -/
def blockValue (body : List Statement) : Expr :=
  match body with
  | [.expression _ value] => value
  | body => .block body

/-- A constant of one character. -/
def charConstant (code : Nat) : Expr :=
  let c := Char.ofNat code
  if code < 256 then .constant (.text [c]) else .constant (.wide [c])

/-- The value behind a backslash in a text, which was taken. -/
def escapedPiece : Reading Expr := do
  match ← rest with
  | [] => return .constant (.text ['\\'])
  | c :: more =>
    match escapedChar? c with
    | some c =>
      advance 1
      return .constant (.text [c])
    | none =>
      if c = 'x' then
        match more with
        | '\x7b' :: inner =>
          let digits := inner.takeWhile (· != '\x7d')
          advance (digits.length + 3)
          return charConstant (ByteText.valueIn 16 (digits.filter (ByteText.isDigitIn 16)))
        | more =>
          let digits := (more.take 2).takeWhile (ByteText.isDigitIn 16)
          advance (1 + digits.length)
          return charConstant (ByteText.valueIn 16 digits)
      else if c = 'N' && (ascii "\x7bU+").isPrefixOf more then
        let digits := (more.drop 3).takeWhile (ByteText.isDigitIn 16)
        advance (digits.length + 5)
        return .constant (.wide [Char.ofNat (ByteText.valueIn 16 digits)])
      else if ByteText.isDigitIn 8 c then
        let digits := ((c :: more).take 3).takeWhile (ByteText.isDigitIn 8)
        advance digits.length
        return charConstant (ByteText.valueIn 8 digits)
      else if c = 'o' && more.head? = some '\x7b' then
        let digits := (more.drop 1).takeWhile (ByteText.isDigitIn 8)
        advance (digits.length + 3)
        return charConstant (ByteText.valueIn 8 digits)
      else if c = 'c' then
        advance 2
        return charConstant (((more.head?.getD '@').toUpper.toNat) ^^^ 64)
      else
        advance 1
        constantText [c]

/-- Whether a variable begins behind a dollar sign in a text. -/
def beginsVariable (isPattern : Bool) (text : List Char) : Bool :=
  match text with
  | [] => false
  | ':' :: ':' :: c :: _ => isNameStart c
  | '^' :: c :: _ => !isPattern && c.isUpper
  | '$' :: c :: _ => isNameStart c || c = '\x7b' || c = '$' || !isPattern
  | '$' :: [] => true
  | '#' :: c :: _ => c = '\x7b' || c = '$' || (isNameStart c && !isPattern)
  | c :: _ =>
    isNameStart c || c.isDigit || c = '\x7b' || c = '&'
      || (!isPattern && (ascii "\x60'+!@/\\,;.?<>[]()-0").contains c)

/-- Whether an expression reads a line or a name on each turn. -/
def isReader : Expr → Bool
  | .readLine _ => true
  | .files _ => true
  | .builtIn "readdir" _ => true
  | .builtIn "shift" _ => false
  | .builtIn "each" _ => true
  | .builtIn "readline" _ => true
  | _ => false

/-- The topic of a program. -/
def topic : Expr := .named .one (.package "main::_")

/-- The condition of a loop, where reading a line goes on as long as there is one. -/
def loopCondition (condition : Expr) : Expr :=
  match condition with
  | .assign "=" target value =>
    let isList := match target with
      | .list _ => true
      | .declare _ _ isList => isList
      | .named sign _ => sign != .one
      | _ => false
    if isReader value && !isList then .builtIn "defined" [condition] else condition
  | condition =>
    match condition with
    | .readLine _ => .builtIn "defined" [.assign "=" topic condition]
    | .files _ => .builtIn "defined" [.assign "=" topic condition]
    | .builtIn "readdir" _ => .builtIn "defined" [.assign "=" topic condition]
    | .builtIn "readline" _ => .builtIn "defined" [.assign "=" topic condition]
    | condition => condition

/-- Whether what comes next cannot begin a value. -/
def isEnd : Reading Bool := do
  skip
  match ← rest with
  | [] => return true
  | c :: more =>
    if (ascii ");]\x7d:,").contains c then return !(c = ':' && more.head? = some ':')
    else if c = '=' then return true
    else if isNameStart c then
      let word := String.ofList ((c :: more).takeWhile isNamePart)
      return (endingWords.contains word || ["x", "eq", "ne", "lt", "gt", "le", "ge", "cmp"].contains word)
        && !(ascii "=>").isPrefixOf (((c :: more).drop word.length).dropWhile isSpaceChar)
    else return false

/-- Whether the argument of a function that takes one value is left out. -/
def hasNoArgument (name : String) : Reading Bool := do
  if ← isEnd then return true
  match ← rest with
  | c :: more =>
    if c = '?' || c = '|' || c = '>' || c = '.' && !(more.head?.any Char.isDigit) then return true
    else if c = '*' || c = '/' || c = '^' then return name != "split" && !(c = '*' && more.head?.any isNameStart)
    else if c = '<' then
      return !(more.head? = some '$' || more.head? = some '>' || more.head?.any Char.isUpper
        || more.head? = some '<')
    else if c = '&' then return more.head? = some '&'
    else if c = '%' then return !(more.head?.any fun d => isNameStart d || d = '$' || d = '\x7b' || d = '+')
    else if c = '!' then return more.head? = some '=' || more.head? = some '~'
    else if c = '-' || c = '+' then
      return (name = "shift" || name = "pop" || name = "time") && more.head? != some c
    else if c = '\x7b' then return name = "shift" || name = "pop"
    else return false
  | [] => return true

/-- Takes a name with its packages. -/
def takeName : Reading (List Char) := do
  let text ← rest
  let name := nameAt text.length text
  advance name.length
  return name

/-- The line that the reader is at. -/
def lineNow : Reading Nat := do return (← get).line

/-- Declares the name of a function. -/
def declareFunction (name : String) (kinds : Option String) : Reading Unit :=
  modify fun reader => { reader with functions := (name, kinds) :: reader.functions }

/-- What is known of a function. -/
def functionKinds? (name : String) : Reading (Option (Option String)) := do
  let reader ← get
  let whole := if name.toList.contains ':' then name else reader.package ++ "::" ++ name
  return (reader.functions.find? fun entry => entry.1 = whole).map Prod.snd

/-- Takes the letters behind a pattern. -/
def letters : Reading (List Char) := do
  let text := (← rest).takeWhile Char.isAlpha
  let word := String.ofList text
  -- An operator that is a word may stand right behind a pattern.
  if endingWords.contains word || word = "x" && false then return []
  else
    advance text.length
    return text

/-- The names that are known here. -/
def knownNames : Reading (List (String × Home)) := do return (← get).scopes.flatten

/-- A sign with the name of a declared variable. -/
def declaredName : Reading (Sign × List Char) := do
  skip
  let sign ← do
    match ← rest with
    | '$' :: _ => pure Sign.one
    | '@' :: _ => pure Sign.row
    | '%' :: _ => pure Sign.table
    | _ => failSyntax
  advance 1
  skip
  let name := (← rest).takeWhile fun c => isNamePart c || c = ':'
  if name.isEmpty then failSyntax
  advance name.length
  return (sign, name)

/-- Declared variables between parentheses.  Each step takes one. -/
def declaredNames : Nat → Reading (List (Option (Sign × List Char)))
  | 0 => return []
  | fuel + 1 => do
    if ← accept ")" then return []
    else if ← accept "," then declaredNames fuel
    else if ← acceptWord "undef" then return none :: (← declaredNames fuel)
    else
      let first ← declaredName
      return some first :: (← declaredNames fuel)

/-- A declaration of variables of a block. -/
def declaration (isKept : Bool) : Reading Expr := do
  if ← accept "(" then
    let names ← declaredNames ((← rest).length + 1)
    let targets ← names.mapM fun entry => do
      match entry with
      | some (sign, name) => declareName sign name
      | none => pure (Sign.code, 0)
    return .declare isKept targets true
  else
    let (sign, name) ← declaredName
    return .declare isKept [← declareName sign name] (sign != .one)

/-- A declaration of variables of the package. -/
def sharedDeclaration : Reading Expr := do
  let one (sign : Sign) (name : List Char) : Reading Expr := do
    let whole ← wholeName name
    let key := String.ofList (sign.char :: name)
    modify fun reader =>
      match reader.scopes with
      | scope :: outer => { reader with scopes := ((key, .package whole) :: scope) :: outer }
      | [] => { reader with scopes := [[(key, .package whole)]] }
    return .named sign (.package whole)
  if ← accept "(" then
    let names ← declaredNames ((← rest).length + 1)
    let targets ← names.mapM fun entry => do
      match entry with
      | some (sign, name) => one sign name
      | none => pure (.constant .nothing)
    return .list targets
  else
    let (sign, name) ← declaredName
    one sign name

/-- The number of the next range that keeps whether it is open. -/
def nextRange : Reading Nat :=
  modifyGet fun reader => (reader.ranges, { reader with ranges := reader.ranges + 1 })

/-- Binds a value to what searches or changes it. -/
def bound (isNegated : Bool) (target : Expr) (operation : Expr) : Expr :=
  match operation with
  | .seek none _ pattern flags => .seek (some target) isNegated pattern flags
  | .exchange none _ pattern instead flags => .exchange (some target) isNegated pattern instead flags
  | .translate none _ from_ into flags => .translate (some target) isNegated from_ into flags
  | pattern => .seek (some target) isNegated pattern []

/-- A value as arguments of a function, where a list stands for its items. -/
def asItems : Expr → List Expr
  | .list items => items
  | value => [value]

/-- What is assigned to the parameters of a function. -/
def parameterStatements (line : Nat) (targets : List (Sign × Nat)) : List Statement :=
  let targets : Expr := .declare false targets true
  [.expression line (.assign "=" targets (.named .row (.package "main::_")))]

/-- A step out of a loop, which may be named. -/
def jump (name : String) : Reading Expr := do
  let label ← nextWord
  if label.toList.head?.any isNameStart && !endingWords.contains label then
    advance label.length
    return .builtIn name [.constant (.text label.toList)]
  else return .builtIn name []

/-- The path of a library. -/
def libraryPath (name : String) : List Char :=
  (name.toList.foldl (fun (kept, wasColon) c =>
    if c = ':' then (if wasColon then (kept ++ ['/'], false) else (kept, true))
    else (kept ++ [c], false)) (([], false) : List Char × Bool)).1

/-- The names of constants that are given together. -/
def constantNames : List Expr → List String
  | .constant (.text word) :: _ :: rest => String.ofList word :: constantNames rest
  | _ => []

/-- Makes types those that a package builds on. -/
def parents (package : String) (words : List String) : Expr :=
  .builtIn "push" (.named .row (.package (package ++ "::ISA"))
    :: ((words.filter (· != "-norequire")).map fun word => .constant (.text word.toList)))

/-- Fails because a library is missing. -/
def failLibrary {α : Type} (line : Nat) (name : String) : Reading α := do
  throw { message := ascii "Can't locate " ++ libraryPath name
            ++ ascii ".pm in @INC (you may need to install the " ++ name.toList
            ++ ascii " module) (@INC entries checked: "
            ++ ((ByteText.splitAt ':' libraryRoots).intersperse [' ']).flatten ++ [')']
          line := line }

/-! ## The grammar -/

/-- How the parts of a program are read that other parts hold. -/
structure Ways where
  /-- An expression whose operators bind as tightly as some level at least. -/
  climb : Nat → Reading Expr
  /-- An expression whose operators are words from some level on. -/
  low : Nat → Reading Expr
  statements : Unit → Reading (List Statement)

/-- A bound of the steps that are taken along the rest of the text. -/
def count : Reading Nat := do return (← rest).length + 2

/-- The place between brackets, the first of which was taken. -/
def inBrackets (w : Ways) : Reading Expr := do
  let place ← w.low 1
  expect "]"
  return place

/-- The key between braces, the first of which was taken. -/
def keyExpression (w : Ways) : Reading Expr := do
  skip
  let text ← rest
  let (sign, word) := match text with
    | '-' :: more => (['-'], more)
    | text => ([], text)
  let name := word.takeWhile isNamePart
  let after := (word.drop name.length).dropWhile isSpaceChar
  if name.head?.any isNameStart && after.head? = some '\x7d' then
    advance (text.length - after.length + 1)
    return .constant (.text (sign ++ name))
  else
    let key ← w.low 1
    expect "\x7d"
    return key

/-- Expressions with commas between them; words for conditions bind looser. -/
def itemsOf (w : Ways) : Reading (List Expr) := do
  skip
  match ← rest with
  | [] => return []
  | c :: _ =>
    if (ascii ")];\x7d").contains c then return []
    else return asItems (← w.low 1)

/-- Items up to a closing parenthesis, where the open one was taken. -/
def closedItems (w : Ways) : Reading (List Expr) := do
  let inner ← itemsOf w
  expect ")"
  return inner

/-- A block between braces. -/
def block (w : Ways) : Reading (List Statement) := do
  expect "\x7b"
  let body ← inScope (w.statements ())
  expect "\x7d"
  return body

/-- What a variable is found by, behind its sign. -/
def base (w : Ways) : Nat → Bool → Reading Base
  | 0, _ => failSyntax
  | fuel + 1, inText => do
    match ← rest with
    | '\x7b' :: more =>
      let after := more.dropWhile isSpaceChar
      let name := match after with
        | '^' :: word => '^' :: word.takeWhile isNamePart
        | after =>
          let name := nameAt after.length after
          if name.isEmpty then (match after with
            | c :: '\x7d' :: _ => if isPunctuation c && c != '\x7d' then [c] else []
            | _ => []) else name
      let behind := (after.drop name.length).dropWhile isSpaceChar
      let isPlain := !name.isEmpty && name.all (fun c => isNamePart c || c = ':' || c = '^' || isPunctuation c)
      if isPlain && behind.head? = some '\x7d' then
        advance (more.length - behind.length + 2)
        return .name name
      else if isPlain && inText && (behind.head? = some '[' || behind.head? = some '\x7b')
          && !isOwnName (String.ofList name) && name.all isNamePart then
        -- A variable with its subscripts between braces.
        advance 1
        skip
        modify fun reader => { reader with rest := '$' :: reader.rest }
        let whole ← w.climb 20
        expect "\x7d"
        return .inner (.reference whole)
      else
        advance 1
        if after.head? = some '\x7b' then
          -- A table that is made on the spot.
          skip
          let value ← w.low 1
          expect "\x7d"
          return .inner value
        let body ← inScope (w.statements ())
        expect "\x7d"
        return .inner (blockValue body)
    | '$' :: more =>
      match more with
      | c :: _ =>
        if isNameStart c || c = '\x7b' || c = '$' || c = ':' then
          advance 1
          match ← base w fuel inText with
          | .name name => return .inner (← namedVariable .one name)
          | .inner inner => return .inner (.follow .one inner)
        else
          advance 1
          return .name ['$']
      | [] =>
        advance 1
        return .name ['$']
    | '^' :: c :: _ =>
      if c.isUpper then
        advance 2
        return .name ['^', c]
      else
        advance 1
        return .name ['^']
    | c :: more =>
      if isNameStart c || (c = ':' && more.head? = some ':' && (more[1]?).any isNameStart) then
        let name ← takeName
        if inText && (ascii "::").isSuffixOf name then
          modify fun reader => { reader with rest := ':' :: ':' :: reader.rest }
          return .name (name.take (name.length - 2))
        return .name name
      else if c.isDigit then
        let name := (c :: more).takeWhile Char.isDigit
        advance name.length
        return .name name
      else
        advance 1
        return .name [c]
    | [] => failSyntax

/-- What may follow a value: places, keys, calls and steps of methods. -/
def subscripts (w : Ways) : Nat → Bool → Bool → Bool → Expr → Reading Expr
  | 0, _, _, _, value => return value
  | fuel + 1, inText, isPattern, isSubscripted, value => do
    if !inText && !isSubscripted then skip
    let before ← get
    if !inText && isSubscripted then
      -- Blanks may stand before an arrow.
      skip
    match ← rest with
    | '-' :: '>' :: '[' :: more =>
      if isPattern && !isPlace more then return value
      else
        advance 3
        let place ← inBrackets w
        subscripts w fuel inText isPattern true (.element (.follow .row value) place)
    | '-' :: '>' :: '\x7b' :: _ =>
      advance 3
      let key ← keyExpression w
      subscripts w fuel inText isPattern true (.entry (.follow .table value) key)
    | '-' :: '>' :: _ =>
      if inText then return value
      else
        mark
        advance 2
        skip
        match ← rest with
        | '(' :: _ =>
          advance 1
          let arguments ← closedItems w
          subscripts w fuel inText isPattern true (.callValue value arguments false)
        | '[' :: _ =>
          advance 1
          let place ← inBrackets w
          subscripts w fuel inText isPattern true (.element (.follow .row value) place)
        | '\x7b' :: _ =>
          advance 1
          let key ← keyExpression w
          subscripts w fuel inText isPattern true (.entry (.follow .table value) key)
        | '@' :: '*' :: _ =>
          advance 2
          subscripts w fuel inText isPattern false (.follow .row value)
        | '%' :: '*' :: _ =>
          advance 2
          subscripts w fuel inText isPattern false (.follow .table value)
        | '$' :: '*' :: _ =>
          advance 2
          subscripts w fuel inText isPattern false (.follow .one value)
        | '$' :: '#' :: '*' :: _ =>
          advance 3
          return .lastPlace (.follow .row value)
        | '@' :: '[' :: _ =>
          advance 2
          let places ← inBrackets w
          return .elements (.follow .row value) places false
        | '@' :: '\x7b' :: _ =>
          advance 2
          let keys ← keyExpression w
          return .entries (.follow .table value) keys false
        | '&' :: '*' :: _ =>
          advance 2
          return .callValue value [] true
        | '$' :: _ =>
          advance 1
          let name ← ofBase .one (← base w (← count) false)
          let arguments ← if (← rest).head? = some '(' then do
              advance 1
              closedItems w
            else pure []
          subscripts w fuel inText isPattern false (.method value name arguments)
        | c :: _ =>
          if isNameStart c then
            let name ← takeName
            let arguments ← if (← rest).head? = some '(' then do
                advance 1
                closedItems w
              else pure []
            subscripts w fuel inText isPattern false
              (.method value (.constant (.text (plainName name).toList)) arguments)
          else failSyntax
        | [] => failSyntax
    | '[' :: more =>
      if !isSubscripted || (isPattern && !isPlace more) then
        set before
        return value
      else
        advance 1
        let place ← inBrackets w
        subscripts w fuel inText isPattern true (.element (.follow .row value) place)
    | '\x7b' :: more =>
      if !isSubscripted || (isPattern && isRepetition more) || (before.rest.head? != some '\x7b') then
        set before
        return value
      else
        advance 1
        let key ← keyExpression w
        subscripts w fuel inText isPattern true (.entry (.follow .table value) key)
    | '(' :: _ =>
      if !isSubscripted || inText || before.rest.head? != some '(' then
        set before
        return value
      else
        advance 1
        let arguments ← closedItems w
        subscripts w fuel inText isPattern true (.callValue value arguments false)
    | '+' :: '+' :: _ =>
      if inText then return value
      else
        advance 2
        return .step false true value
    | '-' :: '-' :: _ =>
      if inText then return value
      else
        advance 2
        return .step false false value
    | _ =>
      set before
      return value

/-- A variable with its first subscript, if it has one, and those that follow. -/
def subscripted (w : Ways) (inText : Bool) (isPattern : Bool) (found : Base) : Reading Expr := do
  match ← rest with
  | '[' :: more =>
    if isPattern && !isPlace more || (match found with
        | .name ['$'] => true
        | _ => false) then ofBase .one found
    else
      advance 1
      let place ← inBrackets w
      subscripts w (← count) inText isPattern true (.element (← ofBase .row found) place)
  | '\x7b' :: more =>
    if isPattern && isRepetition more then ofBase .one found
    else
      advance 1
      let key ← keyExpression w
      subscripts w (← count) inText isPattern true (.entry (← ofBase .table found) key)
  | _ =>
    let whole ← ofBase .one found
    if inText then subscripts w (← count) inText isPattern false whole else return whole

/-- A variable behind a dollar sign, with what stands right behind it. -/
def oneVariable (w : Ways) (inText : Bool) (isPattern : Bool) : Reading Expr := do
  match ← rest with
  | '#' :: c :: _ =>
    if c = '\x7b' || c = '$' || isNameStart c then
      advance 1
      return .lastPlace (← ofBase .row (← base w (← count) inText))
    else subscripted w inText isPattern (← base w (← count) inText)
  | _ => subscripted w inText isPattern (← base w (← count) inText)

/-- A row behind its sign, or some of its elements or of the entries of a table. -/
def rowVariable (w : Ways) (inText : Bool) : Reading Expr := do
  let found ← base w (← count) inText
  match ← rest with
  | '[' :: _ =>
    advance 1
    let places ← inBrackets w
    return .elements (← ofBase .row found) places false
  | '\x7b' :: _ =>
    advance 1
    let keys ← keyExpression w
    return .entries (← ofBase .table found) keys false
  | _ => ofBase .row found

/-- The pieces of a text with values in it.  They may end before the end of a change of case. -/
def pieces (w : Ways) : Nat → Bool → Bool → Reading (List Expr)
  | 0, _, _ => return []
  | fuel + 1, isPattern, isChanged => do
    let text ← rest
    let withCase (name : String) : Reading (List Expr) := do
      advance 2
      let inner ← pieces w fuel isPattern true
      if (ascii "\\E").isPrefixOf (← rest) then advance 2
      return .builtIn name [joinedOf inner] :: (← pieces w fuel isPattern isChanged)
    let withFirst (name : String) : Reading (List Expr) := do
      advance 2
      let inner ← pieces w fuel isPattern isChanged
      return [.builtIn name [joinedOf inner]]
    match text with
    | [] => return []
    | '\\' :: 'U' :: _ => withCase "uc"
    | '\\' :: 'L' :: _ => withCase "lc"
    | '\\' :: 'Q' :: _ => withCase "quotemeta"
    | '\\' :: 'F' :: _ => withCase "fc"
    | '\\' :: 'E' :: _ =>
      if isChanged then return []
      else
        advance 2
        pieces w fuel isPattern isChanged
    | '\\' :: 'u' :: _ => withFirst "ucfirst"
    | '\\' :: 'l' :: _ => withFirst "lcfirst"
    | '\\' :: c :: _ =>
      if isPattern then
        advance 2
        let first ← constantText ['\\', c]
        return first :: (← pieces w fuel isPattern isChanged)
      else
        advance 1
        let first ← escapedPiece
        return first :: (← pieces w fuel isPattern isChanged)
    | '$' :: more =>
      if beginsVariable isPattern more then
        advance 1
        let first ← oneVariable w true isPattern
        return first :: (← pieces w fuel isPattern isChanged)
      else
        advance 1
        return .constant (.text ['$']) :: (← pieces w fuel isPattern isChanged)
    | '@' :: c :: _ =>
      if isNameStart c || c = '\x7b' || c = '$' || c = ':' then
        advance 1
        let first ← rowVariable w true
        let separator : Expr := .named .one (.package "main::\"")
        return .builtIn "join" [separator, first] :: (← pieces w fuel isPattern isChanged)
      else
        advance 1
        return .constant (.text ['@']) :: (← pieces w fuel isPattern isChanged)
    | c :: more =>
      let plain := c :: more.takeWhile fun d => d != '\\' && d != '$' && d != '@'
      advance plain.length
      let first ← constantText plain
      return first :: (← pieces w fuel isPattern isChanged)

/-- A text with values in it. -/
def joinedText (w : Ways) (isPattern : Bool) (text : List Char) : Reading Expr := do
  if text.any fun c => c = '\\' || c = '$' || c = '@' then
    return joinedOf (← within text (pieces w (text.length + 1) isPattern false))
  else constantText text

/-- Expressions with commas between them. -/
def items (w : Ways) : Nat → Reading (List Expr)
  | 0 => return []
  | fuel + 1 => do
    if (← accept ",") || (← accept "=>") then items w fuel
    else if ← isEnd then return []
    else
      let first ← w.climb 5
      if (← accept ",") || (← accept "=>") then return first :: (← items w fuel)
      else return [first]

/-- Goes on with an expression behind operators that are words. -/
def lowRest (w : Ways) : Nat → Nat → Expr → Reading Expr
  | 0, _, first => return first
  | fuel + 1, level, first => do
    if level = 1 then
      if ← acceptWord "or" then lowRest w fuel level (.either first (← w.low 2))
      else if ← acceptWord "xor" then lowRest w fuel level (.operate "xor" first (← w.low 2))
      else return first
    else if ← acceptWord "and" then lowRest w fuel level (.both first (← w.low 3))
    else return first

/-- Values with commas between them, or what is not the case. -/
def comma (w : Ways) : Reading Expr := do
  if ← acceptWord "not" then
    if ← isEnd then return .operate "!" (.constant .nothing) (.constant .nothing)
    return .operate "!" (← w.low 3) (.constant .nothing)
  else
    let first ← w.climb 5
    if (← isNext ",") || (← isNext "=>") then
      mark
      advance (if (← rest).head? = some ',' then 1 else 2)
      return .list (first :: (← items w (← count)))
    else return first

/-- An expression whose operators are words from some level on. -/
def low (w : Ways) (level : Nat) : Reading Expr := do
  let first ← comma w
  if level = 3 then return first
  let second ← lowRest w (← count) 2 first
  if level = 2 then return second else lowRest w (← count) 1 second

/-- A pattern between delimiters. -/
def patternOf (w : Ways) (start : Char) (text : List Char) : Reading Expr :=
  if start = '\'' then constantText text else joinedText w true text

/-- A text over lines, or lines that are read. -/
def angled (w : Ways) : Reading Expr := do
  let text ← rest
  let isIndented := (ascii "<<~").isPrefixOf text
  let after := text.drop (if isIndented then 3 else 2)
  let isLong := (ascii "<<").isPrefixOf text && (match after with
    | '"' :: _ => true
    | '\'' :: _ => true
    | c :: _ => isNameStart c
    | [] => false)
  if isLong then
    advance (text.length - after.length)
    let (name, isRaw) ← do
      match after with
      | c :: _ =>
        if isNameStart c then
          let name := after.takeWhile isNamePart
          advance name.length
          pure (name, false)
        else
          advance 1
          pure (← delimited c true (endlessText c), c = '\'')
      | [] => failSyntax
    let inner ← linesUntil name isIndented
    if isRaw then constantText inner else joinedText w false inner
  else
    advance 1
    let inner ← delimited '<' true (ascii "Unterminated <> operator")
    match inner with
    | [] => return .readLine (.constant (.handle "main::ARGV"))
    | ['<', '>'] => return .readLine (.constant (.handle "main::ARGV"))
    | '$' :: name =>
      if !name.isEmpty && name.all isNamePart then return .readLine (← namedVariable .one name)
      else return .files (← joinedText w false inner)
    | inner =>
      if inner.all fun c => isNamePart c || c = ':' then
        return .readLine (.constant (.handle (← wholeName inner)))
      else return .files (← joinedText w false inner)

/-- The arguments of a function that takes several values. -/
def argumentsOf (w : Ways) : Reading (List Expr) := do
  if ← isNext "(" then
    advance 1
    closedItems w
  else items w (← count)

/-- The argument of a function that takes one value. -/
def soleArgument (w : Ways) (name : String) : Reading (List Expr) := do
  if ← isNext "(" then
    advance 1
    closedItems w
  else if ← hasNoArgument name then return []
  else return [← w.climb 15]

/-- A text between delimiters behind a word, with the delimiter. -/
def quotedBy (w : Ways) (name : String) : Reading Expr := do
  let start ← delimiter
  match name with
  | "q" =>
    let text ← delimited start false (endlessText (closing start))
    subscripts w (← count) false false false (← constantText (rawText text))
  | "qq" =>
    let text ← delimited start (start = '"') (endlessText (closing start))
    subscripts w (← count) false false false (← joinedText w false text)
  | "qx" =>
    let text ← delimited start true (endlessText (closing start))
    return .builtIn "readpipe" [← joinedText w false text]
  | "qw" =>
    let text ← delimited start false (endlessText (closing start))
    let words ← (ByteText.words (text.map fun c => if c = '\n' then ' ' else c)).mapM constantText
    if (← rest).head? = some '[' then
      advance 1
      let places ← inBrackets w
      return .pick (.list words) places
    else return .list words
  | "m" =>
    let text ← delimited start true (ascii "Search pattern not terminated")
    let flags ← letters
    return .seek none false (← patternOf w start text) flags
  | "qr" =>
    let text ← delimited start true (ascii "Search pattern not terminated")
    let flags ← letters
    return .pattern (← patternOf w start text) flags
  | "s" =>
    let text ← delimited start true (ascii "Substitution pattern not terminated")
    let second ← if closing start = start then pure start else delimiter
    let instead ← delimited second (second = '"') (ascii "Substitution replacement not terminated")
    let flags ← letters
    let found ← patternOf w start text
    let instead ← if flags.contains 'e' then do
        let body ← within instead (inScope (w.statements ()))
        let value := Expr.block body
        if (flags.filter (· = 'e')).length = 1 then pure value else pure (.read value (← knownNames))
      else if second = '\'' then constantText instead
      else joinedText w false instead
    return .exchange none false found instead flags
  | _ =>
    let text ← delimited start true (ascii "Transliteration pattern not terminated")
    let second ← if closing start = start then pure start else delimiter
    let into ← delimited second true (ascii "Transliteration replacement not terminated")
    let flags ← letters
    return .translate none false text into flags

/-- Values up to the end of a statement, with commas between them. -/
def climbList (w : Ways) : Reading (List Expr) := do
  let first ← w.climb 5
  if (← accept ",") || (← accept "=>") then return first :: (← items w (← count))
  else return [first]

/-- What is done for each of some items, with those items. -/
def mappedOf (w : Ways) (name : String) : Reading Expr := do
  let isOpen ← accept "("
  skip
  let line ← lineNow
  let text ← rest
  let finish (body : List Statement) : Reading Expr := do
    let _ ← accept ","
    let inner ← if isOpen then itemsOf w else items w (← count)
    if isOpen then expect ")"
    let value : Expr := .mapped name body inner
    if isOpen then subscripts w (← count) false false false value else return value
  if text.head? = some '\x7b' && !(name != "sort" && looksLikeTable (text.drop 1)) then
    finish (← block w)
  else if name = "sort" || blockNames.contains name then
    -- A function may stand before the items.
    let isVariable := match text with
      | '$' :: c :: _ =>
        let after := (text.drop 1).dropWhile isNamePart
        isNameStart c && after.head? = some ' ' && (match after.dropWhile isSpaceChar with
          | '@' :: _ => true
          | '(' :: _ => true
          | c :: _ => isNameStart c && !(ascii "x ").isPrefixOf (after.dropWhile isSpaceChar)
          | [] => false)
      | _ => false
    let name? := nameAt text.length text
    let after := (text.drop name?.length).dropWhile isSpaceChar
    let isName := name = "sort" && !name?.isEmpty && name?.head?.any isNameStart
      && !isOwnName (String.ofList name?) && (match after with
        | '@' :: _ => true
        | '$' :: _ => true
        | c :: _ => isNameStart c
        | [] => false)
    if isVariable then
      advance 1
      let function ← ofBase .one (← base w (← count) false)
      finish [.expression line (.callValue function [] false)]
    else if isName then
      advance name?.length
      finish [.expression line (.call (← wholeName name?) [] false)]
    else if name = "sort" then finish []
    else
      let function ← w.climb 5
      finish [.expression line (.callValue function [topic] false)]
  else
    let value ← w.climb 5
    if !(← isNext ",") && !(← isNext "=>") then failSyntax
    mark
    advance (if (← rest).head? = some ',' then 1 else 2)
    finish [.expression line value]

/-- What is written, and where to. -/
def outputOf (w : Ways) (name : String) : Reading Expr := do
  let isOpen ← accept "("
  skip
  let text ← rest
  let word := nameAt text.length text
  let after := (text.drop word.length).dropWhile isSpaceChar
  let isHandle := !word.isEmpty && word.head?.any isNameStart && !isOwnName (String.ofList word)
    && (← functionKinds? (String.ofList word)).isNone
    && (match after with
      | '(' :: _ => ["STDERR", "STDOUT"].contains (String.ofList word)
      | ',' :: _ => false
      | '-' :: '>' :: _ => false
      | '.' :: _ => false
      | '=' :: '>' :: _ => false
      | _ => word.all fun c => c.isUpper || c = '_' || c.isDigit || c = ':' || c.isLower)
  let width := match text with
    | '$' :: more => (more.takeWhile isNamePart).length
    | _ => 0
  let afterVariable := text.drop (width + 1)
  let isVariable := 0 < width && (afterVariable.head?.any isSpaceChar)
    && (match afterVariable.dropWhile isSpaceChar with
      | '"' :: _ => true
      | '\'' :: _ => true
      | '$' :: _ => true
      | '@' :: _ => true
      | '\\' :: _ => true
      | '<' :: '<' :: c :: _ => c = '"' || c = '\'' || isNameStart c
      | c :: rest =>
        c.isDigit || (isNameStart c && (operatorAt (c :: rest)).isNone
          && !endingWords.contains (String.ofList ((c :: rest).takeWhile isNamePart)))
      | [] => false)
  let handle ← do
    if text.head? = some '\x7b' then pure (some (blockValue (← block w)))
    else if isHandle then
      advance word.length
      pure (some (.constant (.handle (← wholeName word))))
    else if isVariable then
      advance 1
      pure (some (← ofBase .one (← base w (← count) false)))
    else pure none
  let inner ← if isOpen then itemsOf w else items w (← count)
  if isOpen then expect ")"
  let value : Expr := .output name handle inner
  if isOpen then subscripts w (← count) false false false value else return value

/-- Parameters with names up to a closing parenthesis. -/
def parameters (w : Ways) : Nat → Nat → Reading (List Statement)
  | 0, _ => failSyntax
  | fuel + 1, place => do
    if ← accept ")" then return []
    else if ← accept "," then parameters w fuel place
    else
      let (sign, name) ← declaredName
      let line ← lineNow
      let target : Expr := .declare false [← declareName sign name] (sign != .one)
      let arguments : Expr := .named .row (.package "main::_")
      let index : Expr := .constant (.int place)
      if sign = .one then
        let given : Expr := .element arguments index
        let value ← if (← accept "//=") || (← accept "||=") then do
            pure (Expr.defaulted given (← w.climb 5))
          else if ← accept "=" then do
            let usual ← w.climb 5
            pure (Expr.choose (.operate ">" (.builtIn "scalar" [arguments]) index) given usual)
          else pure given
        introduce
        return .expression line (.assign "=" target value) :: (← parameters w fuel (place + 1))
      else
        let all : Expr := .elements arguments (.range index (.lastPlace arguments) false 0) false
        introduce
        return .expression line (.assign "=" target all) :: (← parameters w fuel (place + 1))

/-- A function without a name, or the value of a name. -/
def functionBody (w : Ways) : Reading (List Statement × Option String) := do
  skip
  let reader ← get
  -- A name that is declared around a function is not known in it yet.
  modify fun reader => { reader with scopes := [] :: reader.scopes, pending := [] }
  let (start, kinds) ← if ← isNext "(" then do
      let text := ((← rest).drop 1).takeWhile (· != ')')
      if text.any isNameStart then
        advance 1
        let start ← parameters w (← count) 0
        pure (start, none)
      else
        advance (text.length + 2)
        pure ([], some (String.ofList (text.filter fun c => !isSpaceChar c)))
    else pure ([], none)
  introduce
  let body ← block w
  modify fun later => { later with scopes := reader.scopes, pending := reader.pending }
  return (start ++ body, kinds)

/-- A call of a function of the program or of a library, or a name that stands for itself. -/
def userCall (w : Ways) (name : List Char) (plain : String) (after : List Char) : Reading Expr := do
  let known ← functionKinds? plain
  let whole ← wholeName name
  match after with
  | '(' :: _ =>
    if blockNames.contains plain && known.isSome && (match ((after.drop 1).dropWhile isSpaceChar).head? with
        | some c => c = '\x7b'
        | none => false) then mappedOf w plain
    else
      skip
      advance 1
      let arguments ← closedItems w
      subscripts w (← count) false false true (.call whole arguments false)
  | '-' :: '>' :: _ =>
    if known.isSome then subscripts w (← count) false false false (.call whole [] false)
    else subscripts w (← count) false false false (.constant (.text plain.toList))
  | _ =>
    match known with
    | some (some "") => return .call whole [] false
    | some kinds =>
      if blockNames.contains plain then mappedOf w plain
      else if after.head? = some '\x7b' && kinds.any fun text => text.toList.head? = some '&' then
        let body ← block w
        let _ ← accept ","
        let others ← items w (← count)
        return .call whole (.function "" body :: others) false
      else if kinds = some "$" || kinds = some "_" || kinds = some ";$" then
        if ← hasNoArgument plain then return .call whole [] false
        else return .call whole [← w.climb 15] false
      else return .call whole (← items w (← count)) false
    | none =>
      if (ascii "::").isSuffixOf name then
        subscripts w (← count) false false false (.constant (.text (name.take (name.length - 2))))
      else if plain = "new" && after.head?.any isNameStart then
        skip
        let type ← takeName
        let arguments ← if ← isNext "(" then do
            advance 1
            closedItems w
          else pure []
        return .method (.constant (.text (plainName type).toList)) (.constant (.text plain.toList)) arguments
      else if after.head?.any (fun c => c = '$' || c = '"' || c = '\'' || c.isDigit || c = '@') then
        failSyntax
      else
        if (← get).isStrict && !name.contains ':' then
          noteFault (ascii "Bareword \"" ++ name ++ ascii "\" not allowed while \"strict subs\" in use")
        return .builtIn "bareword" [.constant (.text whole.toList), .constant (.text plain.toList)]

/-- A value that begins with a name. -/
def word (w : Ways) : Reading Expr := do
  let text ← rest
  let name := nameAt text.length text
  let plain := plainName name
  let behind := text.drop name.length
  let after := behind.dropWhile isSpaceChar
  let short := text.takeWhile isNamePart
  if (ascii "=>").isPrefixOf ((text.drop short.length).dropWhile isSpaceChar) then
    advance short.length
    constantText short
  else
  let isQuote := ["q", "qq", "qw", "qr", "m", "s", "y", "tr", "qx"].contains (String.ofList short)
    && (match text.drop short.length with
      | c :: more =>
        if isSpaceChar c then !after.isEmpty && after.head? != some '=' && after.head? != some ','
          && after.head? != some ';' && after.head? != some ')' && after.head? != some '#'
        else c != ',' && c != ';' && c != ')' && !(c = '=' && more.head? = some '>')
          && !(c = '=' && (more.head?.any isSpaceChar))
      | [] => false)
  if isQuote then
    advance short.length
    quotedBy w (String.ofList short)
  else
  advance name.length
  match plain with
  | "my" => declaration false
  | "state" => declaration true
  | "our" => sharedDeclaration
  | "local" => return .localize (← w.climb 19)
  | "sub" =>
    let (body, _) ← functionBody w
    subscripts w (← count) false false false (.function "" body)
  | "do" =>
    if ← isNext "\x7b" then
      let body ← block w
      subscripts w (← count) false false false (.block body)
    else return .builtIn "do" (← soleArgument w plain)
  | "eval" =>
    if ← isNext "\x7b" then return .guarded (← block w)
    else
      let arguments ← soleArgument w plain
      return .read ((arguments.head?).getD topic) (← knownNames)
  | "__PACKAGE__" =>
    let value : Expr := .constant (.text (← get).package.toList)
    subscripts w (← count) false false false value
  | "__FILE__" => return .constant (.text (← get).file)
  | "__LINE__" => return .constant (.int (← get).line)
  | "__SUB__" => return .builtIn "__SUB__" []
  | "wantarray" =>
    if ← isNext "(" then
      advance 1
      expect ")"
    return .builtIn "wantarray" []
  | "print" => outputOf w plain
  | "printf" => outputOf w plain
  | "say" => if (← get).canSay then outputOf w plain else userCall w name plain after
  | "return" =>
    skip
    if ← isEnd then return .builtIn "return" []
    else
      let value ← climbList w
      return .builtIn "return" value
  | "defined" =>
    let arguments ← soleArgument w plain
    return .builtIn "defined" (if arguments.isEmpty then [topic] else arguments)
  | "undef" => return .builtIn "undef" (← soleArgument w plain)
  | "require" =>
    skip
    let library ← takeName
    if library.isEmpty then return .builtIn "require" [← w.climb 15]
    else return .builtIn "require" [.constant (.text (plainName library).toList)]
  | "next" => jump plain
  | "last" => jump plain
  | "redo" => jump plain
  | "split" =>
    let arguments ← argumentsOf w
    let value : Expr := .builtIn plain arguments
    return value
  | "STDIN" => return .constant (.handle "main::STDIN")
  | "STDOUT" => subscripts w (← count) false false false (.constant (.handle "main::STDOUT"))
  | "STDERR" => subscripts w (← count) false false false (.constant (.handle "main::STDERR"))
  | "ARGV" => return .constant (.handle "main::ARGV")
  | "DATA" => return .constant (.handle (← wholeName name))
  | _ =>
    if ["open", "close", "binmode", "opendir", "readdir", "closedir", "eof", "fileno", "seek", "tell",
        "readline", "read", "sysread", "truncate", "flock", "select", "stat", "getc", "printf"].contains plain
        && (← functionKinds? plain).isNone then
      -- The first argument may be the bare name of an open file.
      let isOpen ← accept "("
      skip
      let inner ← rest
      let handle := nameAt inner.length inner
      let behind := (inner.drop handle.length).dropWhile isSpaceChar
      let isBare := !handle.isEmpty && handle.head?.any isNameStart && !isOwnName (String.ofList handle)
        && (behind.isEmpty || behind.head?.any fun c => (ascii ",);").contains c)
      if isBare then
        advance handle.length
        let first : Expr := .constant (.handle (← wholeName handle))
        let _ ← accept ","
        let others ← if isOpen then closedItems w
          else if soleNames.contains plain then pure []
          else items w (← count)
        let value : Expr := .builtIn plain (first :: others)
        return value
      else if isOpen then
        let others ← closedItems w
        let value : Expr := .builtIn plain others
        -- Empty parentheses ask for the end of all files.
        if plain = "eof" && others.isEmpty then return .builtIn "eofAll" []
        subscripts w (← count) false false false value
      else if soleNames.contains plain then return .builtIn plain (← soleArgument w plain)
      else return .builtIn plain (← items w (← count))
    else if (← functionKinds? plain).isSome && !isOwnName plain then userCall w name plain after
    else if mappedNames.contains plain then mappedOf w plain
    else if bareNames.contains plain then
      if ← isNext "(" then
        advance 1
        expect ")"
      return .builtIn plain []
    else if soleNames.contains plain then
      let arguments ← soleArgument w plain
      subscripts w (← count) false false false (.builtIn plain arguments)
    else if listNames.contains plain then
      let isOpen ← isNext "("
      let arguments ← argumentsOf w
      if isOpen && (← isNext "[") && plain != "push" then
        advance 1
        let places ← inBrackets w
        return .pick (.builtIn plain arguments) places
      else subscripts w (← count) false false false (.builtIn plain arguments)
    else userCall w name plain after

/-- A value. -/
def term (w : Ways) : Reading Expr := do
  match ← rest with
  | [] => failSyntax
  | '$' :: _ =>
    advance 1
    let value ← oneVariable w false false
    let isSubscripted := match value with
      | .element _ _ => true
      | .entry _ _ => true
      | _ => false
    if isSubscripted then return value else subscripts w (← count) false false false value
  | '@' :: _ =>
    advance 1
    let value ← rowVariable w false
    subscripts w (← count) false false false value
  | '%' :: c :: _ =>
    if isNameStart c || c = '$' || c = '\x7b' || c = '+' || c = '-' || c = '^' || c = ':' || c = '!' then
      advance 1
      let found ← base w (← count) false
      match ← rest with
      | '[' :: _ =>
        advance 1
        let places ← inBrackets w
        return .elements (← ofBase .row found) places true
      | '\x7b' :: _ =>
        advance 1
        let keys ← keyExpression w
        return .entries (← ofBase .table found) keys true
      | _ => ofBase .table found
    else failSyntax
  | '&' :: _ =>
    advance 1
    match ← base w (← count) false with
    | .name name =>
      let whole ← wholeName name
      if ← isNext "(" then
        advance 1
        let arguments ← closedItems w
        subscripts w (← count) false false true (.call whole arguments false)
      else return .call whole [] true
    | .inner inner =>
      if ← isNext "(" then
        advance 1
        let arguments ← closedItems w
        subscripts w (← count) false false true (.callValue inner arguments false)
      else return .callValue inner [] true
  | '*' :: _ =>
    advance 1
    match ← base w (← count) false with
    | .name name => return .constant (.handle (← wholeName name))
    | .inner inner => return .follow .handle inner
  | '(' :: _ =>
    advance 1
    let inner ← closedItems w
    if ← isNext "[" then
      advance 1
      let places ← inBrackets w
      subscripts w (← count) false false true (.pick (.list inner) places)
    else
      subscripts w (← count) false false false (.list inner)
  | '[' :: _ =>
    advance 1
    let inner ← itemsOf w
    expect "]"
    subscripts w (← count) false false false (.newRow inner)
  | '\x7b' :: _ =>
    advance 1
    let inner ← itemsOf w
    expect "\x7d"
    subscripts w (← count) false false false (.newTable inner)
  | '"' :: _ =>
    advance 1
    let text ← delimited '"' true (endlessText '"')
    subscripts w (← count) false false false (← joinedText w false text)
  | '\'' :: _ =>
    advance 1
    let text ← delimited '\'' false (endlessText '\'')
    subscripts w (← count) false false false (← constantText (rawText text))
  | '\x60' :: _ =>
    advance 1
    let text ← delimited '\x60' true (endlessText '\x60')
    return .builtIn "readpipe" [← joinedText w false text]
  | '/' :: _ =>
    advance 1
    let text ← delimited '/' true (ascii "Search pattern not terminated")
    let flags ← letters
    return .seek none false (← joinedText w true text) flags
  | '<' :: _ => angled w
  | c :: more =>
    if c.isDigit || (c = '.' && more.head?.any Char.isDigit) then
      let value ← number Record.Number.ofText
      return .constant value
    else if isNameStart c || (c = ':' && more.head? = some ':') then word w
    else failSyntax

/-- A value with the signs before it. -/
def signed (w : Ways) : Reading Expr := do
  skip
  mark
  match ← rest with
  | '!' :: _ =>
    advance 1
    return .operate "!" (← w.climb 20) (.constant .nothing)
  | '~' :: _ =>
    advance 1
    return .operate "~" (← w.climb 20) (.constant .nothing)
  | '\\' :: _ =>
    advance 1
    return .reference (← w.climb 20)
  | '+' :: '+' :: _ =>
    advance 2
    return .step true true (← w.climb 20)
  | '-' :: '-' :: _ =>
    advance 2
    return .step true false (← w.climb 20)
  | '+' :: _ =>
    advance 1
    w.climb 20
  | '-' :: c :: more =>
    if (ascii "rwxoRWXOezsfdlpSugkbctTBAMC").contains c && !(more.head?.any isNamePart)
        && !(ascii "=>").isPrefixOf (more.dropWhile isSpaceChar)
        && !(more.dropWhile isSpaceChar).head?.any (fun d => (ascii "),;=").contains d) then
      advance 2
      if ← isEnd then return .test c topic
      else return .test c (← w.climb 15)
    else if isNameStart c then
      advance 1
      let text ← rest
      let name := String.ofList (text.takeWhile isNamePart)
      let after := (text.drop name.length).dropWhile isSpaceChar
      if !isOwnName name && after.head? != some '(' && (← functionKinds? name).isNone then
        advance name.length
        return .constant (.text ('-' :: name.toList))
      else return .operate "neg" (← w.climb 20) (.constant .nothing)
    else
      advance 1
      return .operate "neg" (← w.climb 20) (.constant .nothing)
  | _ => term w

/-- Goes on with an expression behind operators. -/
def climbRest (w : Ways) : Nat → Nat → Expr → Reading Expr
  | 0, _, first => return first
  | fuel + 1, level, first => do
    skip
    match operatorAt (← rest) with
    | none => return first
    | some (operator, tightness) =>
      if tightness < level then return first
      else
        mark
        advance operator.length
        if operator = "?" then
          let second ← w.climb 5
          expect ":"
          let third ← w.climb 5
          climbRest w fuel level (.choose first second third)
        else if tightness = 5 then
          let value ← w.climb 5
          let name := String.ofList (operator.toList.take (operator.length - 1))
          climbRest w fuel level (.assign (if operator = "=" then "=" else name) first value)
        else
          match operator with
          | "**" => climbRest w fuel level (.operate operator first (← w.climb 20))
          | "=~" => climbRest w fuel level (bound false first (← w.climb 19))
          | "!~" => climbRest w fuel level (bound true first (← w.climb 19))
          | "&&" => climbRest w fuel level (.both first (← w.climb 10))
          | "||" => climbRest w fuel level (.either first (← w.climb 9))
          | "//" => climbRest w fuel level (.defaulted first (← w.climb 9))
          | ".." => climbRest w fuel level (.range first (← w.climb 8) false (← nextRange))
          | "..." => climbRest w fuel level (.range first (← w.climb 8) true (← nextRange))
          | operator => climbRest w fuel level (.operate operator first (← w.climb (tightness + 1)))

/-- An expression whose operators bind as tightly as some level at least. -/
def climb (w : Ways) (level : Nat) : Reading Expr := do
  let first ← signed w
  climbRest w (← count) level first

/-- The branches behind the first one of a condition. -/
def branchesOf (w : Ways) : Nat → Reading (List (Expr × List Statement) × List Statement)
  | 0 => return ([], [])
  | fuel + 1 => do
    if ← acceptWord "elsif" then
      expect "("
      let condition ← w.low 1
      expect ")"
      introduce
      let body ← block w
      let (others, otherwise) ← branchesOf w fuel
      return ((condition, body) :: others, otherwise)
    else if ← acceptWord "else" then return ([], ← block w)
    else return ([], [])

/-- A loop that counts, behind its start. -/
def counted (w : Ways) (line : Nat) (label : String) (start : Option Expr) : Reading Statement := do
  let condition ← if ← isNext ";" then pure none else pure (some (loopCondition (← w.low 1)))
  expect ";"
  let next ← if ← isNext ")" then pure none else pure (some (← w.low 1))
  expect ")"
  let body ← block w
  return .count line label start condition next body

/-- A loop, if one comes next. -/
def looped (w : Ways) (line : Nat) (label : String) : Reading (Option Statement) := do
  if (← isWord "while") || (← isWord "until") then
    let isNegated ← isWord "until"
    advance 5
    let loop ← inScope (do
      expect "("
      let condition ← if ← isNext ")" then pure none else pure (some (loopCondition (← w.low 1)))
      expect ")"
      introduce
      let body ← block w
      let after ← if ← acceptWord "continue" then block w else pure []
      return Statement.loop line label isNegated condition body after)
    return some loop
  else if (← isWord "for") || (← isWord "foreach") then
    advance (← nextWord).length
    let loop ← inScope (do
      skip
      let holder ← do
        if (← acceptWord "my") || (← acceptWord "state") then
          let (_, name) ← declaredName
          let (_, slot) ← declareName .one name
          pure (some (Home.slot slot))
        else if ← acceptWord "our" then
          let (_, name) ← declaredName
          pure (some (Home.package (← wholeName name)))
        else if ← isNext "$" then
          let (_, name) ← declaredName
          pure (some (← homeOf .one name))
        else pure none
      expect "("
      if holder.isSome then
        -- The items do not see the variable.
        let pending := (← get).pending
        modify fun reader => { reader with pending := [] }
        let inner ← itemsOf w
        modify fun reader => { reader with pending := pending ++ reader.pending }
        expect ")"
        introduce
        let body ← block w
        let _ ← if ← acceptWord "continue" then block w else pure []
        return Statement.each line label holder inner body
      else if ← accept ";" then
        counted w line label none
      else
        let first ← itemsOf w
        introduce
        if ← accept ";" then counted w line label (some (.list first))
        else
          expect ")"
          let body ← block w
          return Statement.each line label none first body)
    return some loop
  else return none

/-- A statement with the words behind it that say when it is done. -/
def modified (w : Ways) (line : Nat) (value : Expr) : Reading Statement := do
  if ← acceptWord "if" then
    let condition ← w.low 1
    return .expression line (.both condition value)
  else if ← acceptWord "unless" then
    let condition ← w.low 1
    return .expression line (.either condition value)
  else if (← isWord "while") || (← isWord "until") then
    let isNegated ← isWord "until"
    advance 5
    let condition ← w.low 1
    match value with
    | .block _ => return .loopLate line isNegated condition value
    | value =>
      return .loop line "" isNegated (some (loopCondition condition)) [.expression line value] []
  else if (← acceptWord "for") || (← acceptWord "foreach") then
    let inner ← w.low 1
    return .each line "" none [inner] [.expression line value]
  else return .expression line value

/-- What a declaration of use brings about. -/
def used (w : Ways) (isOn : Bool) : Reading (Option Expr) := do
  skip
  let line ← lineNow
  let text ← rest
  let isVersion := match text with
    | 'v' :: c :: _ => c.isDigit
    | c :: _ => c.isDigit
    | [] => false
  if isVersion then
    let version := text.takeWhile fun c => c.isAlphanum || c = '.' || c = '_'
    advance version.length
    let parts := ByteText.splitAt '.' (version.filter (· != 'v'))
    let minor := if version.head? = some 'v' || 2 < parts.length then
        ByteText.valueIn 10 ((parts[1]?).getD [])
      else ByteText.valueIn 10 (((parts[1]?).getD [] ++ ['0', '0', '0']).take 3)
    modify fun reader =>
      { reader with
        canSay := reader.canSay || (isOn && 10 ≤ minor)
        isStrict := reader.isStrict || (isOn && 12 ≤ minor)
        hasSignatures := reader.hasSignatures || (isOn && 36 ≤ minor) }
    return none
  else
    let name := plainName (← takeName)
    skip
    -- A version may stand behind the name.
    if (← rest).head?.any Char.isDigit then
      let version := (← rest).takeWhile fun c => c.isDigit || c = '.' || c = '_'
      advance version.length
    skip
    let inner ← items w (← count)
    let words := inner.flatMap fun item =>
      (asItems item).filterMap fun item =>
        match item with
        | .constant (.text word) => some (String.ofList word)
        | _ => none
    modify fun reader => { reader with libraries := name :: reader.libraries }
    match name with
    | "strict" => modify fun reader => { reader with isStrict := isOn && (words.isEmpty || words != ["refs"]) }
    | "utf8" => modify fun reader => { reader with isWide := isOn }
    | "feature" =>
      if words.any fun word => word = "say" || word.toList.head? = some ':' then
        modify fun reader => { reader with canSay := isOn }
    | "vars" =>
      modify fun reader =>
        { reader with
          scopes := ((words.map fun word =>
            (word, Home.package (reader.package ++ "::" ++ String.ofList (word.toList.drop 1))))
            :: reader.scopes) }
    | _ => pure ()
    if !isOn then return none
    else
      match name with
      | "constant" =>
        let names := match inner with
          | .newTable entries :: _ => constantNames entries
          | .constant (.text word) :: _ => [String.ofList word]
          | _ => []
        for name in names do
          declareFunction ((← get).package ++ "::" ++ name) (some "")
        return some (.builtIn "constant" (.constant (.text (← get).package.toList) :: inner))
      | "parent" => return some (parents (← get).package words)
      | "base" => return some (parents (← get).package words)
      | "lib" => return none
      | "open" => return some (.builtIn "layers" (words.map fun word => .constant (.text word.toList)))
      | name =>
        match libraryNames name with
        | some usual =>
          let package := (← get).package
          for word in (if words.isEmpty then usual else words ++ usual) do
            let plain := String.ofList (word.toList.filter isNamePart)
            let kinds := if plain.toList.all (fun c => c.isUpper || c = '_' || c.isDigit) && !plain.isEmpty then
                some "" else none
            declareFunction (package ++ "::" ++ plain) kinds
          return none
        | none =>
          failLibrary line name

/-- A statement that is no loop. -/
def single (w : Ways) (line : Nat) : Reading (List Statement) := do
  let isNegated ← isWord "unless"
  if (← acceptWord "if") || (← acceptWord "unless") then
    let whole : Reading (List (Expr × List Statement) × List Statement) := do
      expect "("
      let condition ← w.low 1
      expect ")"
      introduce
      let condition : Expr :=
        if isNegated then .operate "!" condition (.constant .nothing) else condition
      let body ← block w
      let (others, otherwise) ← branchesOf w (← count)
      return ((condition, body) :: others, otherwise)
    let (branches, otherwise) ← inScope whole
    return [.conditional line branches otherwise]
  else if (← isWord "sub") && ((((← rest).drop 3).dropWhile isSpaceChar).head?.any isNameStart) then
    let _ ← acceptWord "sub"
    skip
    let name ← takeName
    let whole ← wholeName name
    if ← accept ";" then
      declareFunction whole none
      return []
    else
      let prototype := ((← rest).dropWhile isSpaceChar)
      let kinds := match prototype with
        | '(' :: more =>
          let inner := more.takeWhile (· != ')')
          if inner.any isNameStart then none
          else some (String.ofList (inner.filter fun c => !isSpaceChar c))
        | _ => none
      declareFunction whole kinds
      let (body, _) ← functionBody w
      modify fun reader => { reader with defined := (whole, body) :: reader.defined }
      return []
  else if ← acceptWord "package" then
    skip
    let name := plainName (← takeName)
    if ← isNext "\x7b" then
      let before := (← get).package
      modify fun reader => { reader with package := name }
      let body ← block w
      modify fun reader => { reader with package := before }
      return [.block "" (.package name :: body)]
    else
      let _ ← accept ";"
      modify fun reader => { reader with package := name }
      return [.package name]
  else if (← isWord "use") || (← isWord "no") then
    let isOn ← isWord "use"
    advance (if isOn then 3 else 2)
    let value ← used w isOn
    skip
    let _ ← accept ";"
    if let some value := value then
      modify fun reader =>
        { reader with beginnings := reader.beginnings ++ [.expression line value] }
    return []
  else if ["BEGIN", "END", "INIT", "CHECK", "UNITCHECK"].contains (← nextWord)
      && ((((← rest).dropWhile isNamePart).dropWhile isSpaceChar).head? = some '\x7b') then
    let name ← nextWord
    advance name.length
    let body ← block w
    if name = "END" then
      modify fun reader => { reader with endings := body :: reader.endings }
      return []
    else
      modify fun reader => { reader with beginnings := reader.beginnings ++ [.block "" body] }
      return []
  else
    let value ← w.low 1
    let result ← modified w line value
    skip
    match ← rest with
    | [] => return [result]
    | '\x7d' :: _ => return [result]
    | _ =>
      expect ";"
      return [result]

/-- A statement, or the several ones that it stands for. -/
def statement (w : Ways) : Reading (List Statement) := do
  let line ← lineNow
  let text ← rest
  mark
  match text with
  | ';' :: _ =>
    advance 1
    return []
  | '\x7b' :: rest =>
    if looksLikeTable rest then single w line else return [.block "" (← block w)]
  | _ =>
    let short := text.takeWhile isNamePart
    let behind := (text.drop short.length).dropWhile isSpaceChar
    let isLabel := short.head?.any isNameStart && behind.head? = some ':'
      && (behind.drop 1).head? != some ':' && !isOwnName (String.ofList short)
    if isLabel then
      skip
      advance short.length
      skip
      advance 1
      skip
      let line ← lineNow
      let label := String.ofList short
      if ← isNext "\x7b" then return [.block label (← block w)]
      else
        match ← looped w line label with
        | some loop => return [loop]
        | none => single w line
    else
      match ← looped w line "" with
      | some loop => return [loop]
      | none => single w line

/-- Statements up to a closing brace or the end. -/
def statements (w : Ways) : Nat → Reading (List Statement)
  | 0 => return []
  | fuel + 1 => do
    skip
    match ← rest with
    | [] => return []
    | '\x7d' :: _ => return []
    | _ =>
      if (← isWord "__END__") || (← isWord "__DATA__") then
        let text := (← rest).dropWhile (· != '\n')
        modify fun reader => { reader with data := some (text.drop 1), rest := [] }
        return []
      else
        let first ← statement w
        introduce
        return first ++ (← statements w fuel)

/-- The ways of reading parts that hold others up to some depth. -/
def ways : Nat → Ways
  | 0 => { climb := fun _ => failSyntax, low := fun _ => failSyntax, statements := fun _ => failSyntax }
  | depth + 1 =>
    { climb := fun level => climb (ways depth) level
      low := fun level => low (ways depth) level
      statements := fun _ => do statements (ways depth) (← count) }
/-- A whole program. -/
def whole : Reading Script := do
  let body ← (ways ((← rest).length + 100)).statements ()
  skip
  match ← rest with
  | [] =>
    let reader ← get
    return { body := body, functions := reader.defined.reverse, beginnings := reader.beginnings
             endings := reader.endings, slots := reader.slots, data := reader.data
             isStrict := reader.isStrict, libraries := reader.libraries }
  | _ =>
    -- A brace that closes nothing.
    let reader ← get
    throw { message := ascii "Unmatched right curly bracket at " ++ reader.file ++ ascii " line "
              ++ ByteText.ofNat reader.line ++ ascii ", at end of line\nsyntax error at " ++ reader.file
              ++ ascii " line " ++ ByteText.ofNat reader.line ++ ascii ", near \"\x7d\"\n"
            line := reader.line, isSyntax := true }

end Reading

end SchemaDocs.Shell.Sigil
