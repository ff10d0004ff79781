import SchemaDocs.Shell.Digest
import SchemaDocs.Shell.Tool.Encoding
/-!
# Digests of files

Each file gives a line with its digest and its name.  Such lines can be checked against
the files again.
-/

namespace SchemaDocs.Shell

namespace Tool

/-- A digest that can be asked for. -/
structure DigestKind where
  /-- How the digest is called where it stands before its file. -/
  label : String
  /-- The number of bytes of the digest. -/
  size : Nat
  digest : ByteText → List Nat
  /-- The same digest with some other number of bytes, where that can be chosen. -/
  ofSize? : Option (Nat → ByteText → List Nat) := none

/-- How digests are written or checked. -/
structure DigestSettings where
  isBinary : Bool := false
  isText : Bool := false
  isCheck : Bool := false
  isLabelled : Bool := false
  isZeroed : Bool := false
  ignoresMissing : Bool := false
  isQuiet : Bool := false
  isSilent : Bool := false
  isStrict : Bool := false
  warns : Bool := false
  /-- The number of bits that a digest has, where that can be chosen. -/
  length : Option Nat := none

/-- The options of the programs that write digests. -/
def digestRules : OptionRules :=
  { forms :=
    [.both 'b' "binary", .both 'c' "check", .word "ignore-missing", .word "quiet", .word "status",
     .word "strict", .word "tag", .both 't' "text", .both 'w' "warn", .both 'z' "zero",
     .word "help", .word "version"] }

/-- Settings after an option of the programs that write digests. -/
def digestOption (settings : DigestSettings) (key : String) (_ : ByteText) :
    Program (Except Nat DigestSettings) := do
  match key with
  | "b" => return .ok { settings with isBinary := true, isText := false }
  | "t" => return .ok { settings with isBinary := false, isText := true }
  | "c" => return .ok { settings with isCheck := true }
  | "ignore-missing" => return .ok { settings with ignoresMissing := true }
  | "quiet" => return .ok { settings with isQuiet := true, isSilent := false, warns := false }
  | "status" => return .ok { settings with isSilent := true, isQuiet := false, warns := false }
  | "strict" => return .ok { settings with isStrict := true }
  | "tag" => return .ok { settings with isLabelled := true, isBinary := true }
  | "w" => return .ok { settings with warns := true, isSilent := false, isQuiet := false }
  | "z" => return .ok { settings with isZeroed := true }
  | _ => return .ok settings

/-- What does not go together among the settings. -/
def digestMisuse? (settings : DigestSettings) : Option String :=
  if settings.isLabelled && !settings.isBinary then some "--tag does not support --text mode"
  else if settings.isZeroed && settings.isCheck then
    some "the --zero option is not supported when verifying checksums"
  else if settings.isLabelled && settings.isCheck then
    some "the --tag option is meaningless when verifying checksums"
  else if (settings.isBinary || settings.isText) && settings.isCheck then
    some "the --binary and --text options are meaningless when verifying checksums"
  else if settings.isCheck then none
  else
    let meaningless (name : String) : Option String :=
      some ("the --" ++ name ++ " option is meaningful only when verifying checksums")
    if settings.ignoresMissing then meaningless "ignore-missing"
    else if settings.isSilent then meaningless "status"
    else if settings.warns then meaningless "warn"
    else if settings.isQuiet then meaningless "quiet"
    else if settings.isStrict then meaningless "strict"
    else none

/-- A name on one line, with a mark before it where that changes it. -/
def nameOnLine (isZeroed : Bool) (name : ByteText) : ByteText × ByteText :=
  if !isZeroed && name.any fun c => c = '\n' || c = '\r' || c = '\\' then
    (['\\'], (name.map fun c =>
      match c with
      | '\n' => ascii "\\n"
      | '\r' => ascii "\\r"
      | '\\' => ascii "\\\\"
      | c => [c]).flatten)
  else ([], name)

/-- The line of a file with its digest. -/
def digestLine (kind : DigestKind) (settings : DigestSettings) (name text : ByteText) : ByteText :=
  let digits := Digest.hex (kind.digest text)
  let (mark, shown) := nameOnLine settings.isZeroed name
  let line :=
    if settings.isLabelled then
      mark ++ ascii kind.label ++ ascii " (" ++ shown ++ ascii ") = " ++ digits
    else mark ++ digits ++ (if settings.isBinary then ascii " *" else ascii "  ") ++ shown
  line ++ [if settings.isZeroed then '\x00' else '\n']

/-! ## Checking -/

/-- A name that was put on one line, as it was before. -/
def nameOffLine : ByteText → Option ByteText
  | [] => some []
  | '\\' :: c :: rest =>
    let named : Option Char :=
      match c with
      | 'n' => some '\n'
      | 'r' => some '\r'
      | '\\' => some '\\'
      | _ => none
    match named, nameOffLine rest with
    | some c, some rest => some (c :: rest)
    | _, _ => none
  | '\\' :: [] => none
  | c :: rest => (nameOffLine rest).map (c :: ·)

/-- The digits and the name of a line that was written with a digest. -/
def readDigestLine? (kind : DigestKind) (line : ByteText) : Option (ByteText × ByteText) :=
  let line := ByteText.dropBlanks line
  let (isMarked, line) :=
    match line with
    | '\\' :: rest => (true, rest)
    | line => (false, line)
  let named (digits name : ByteText) : Option (ByteText × ByteText) :=
    let isSized :=
      match kind.ofSize? with
      | none => digits.length = 2 * kind.size
      | some _ => digits.length % 2 = 0 && 0 < digits.length && digits.length ≤ 2 * kind.size
    if isSized && digits.all (ByteText.isDigitIn 16) && !name.isEmpty then
      if isMarked then (nameOffLine name).map fun name => (ByteText.toLower digits, name)
      else some (ByteText.toLower digits, name)
    else none
  let label := ascii kind.label
  let size := (line.drop label.length).takeWhile fun c => c = '-' || c.isDigit
  let opening := label ++ (if kind.ofSize?.isSome then size else []) ++ ascii " ("
  if opening.isPrefixOf line then
    let digits := (line.reverse.takeWhile (ByteText.isDigitIn 16)).reverse
    let before := line.take (line.length - digits.length)
    if (ascii ") = ").isSuffixOf before then
      named digits ((before.drop opening.length).take (before.length - opening.length - 4))
    else none
  else
    let digits := line.takeWhile (ByteText.isDigitIn 16)
    match line.drop digits.length with
    | ' ' :: c :: rest => named digits (if c = ' ' || c = '*' then rest else c :: rest)
    | '\t' :: c :: rest => named digits (if c = ' ' || c = '*' then rest else c :: rest)
    | _ => none

/-- What was found while lines were checked. -/
structure CheckCounts where
  proper : Nat := 0
  improper : Nat := 0
  unread : Nat := 0
  unequal : Nat := 0
  equal : Nat := 0

/-- Checks a line. -/
def checkLine (kind : DigestKind) (settings : DigestSettings) (file : ByteText)
    (counts : CheckCounts) (number : Nat) (line : ByteText) : Program CheckCounts := do
  match readDigestLine? kind line with
  | none =>
    if settings.warns then
      Program.complain (file ++ ascii ": " ++ ByteText.ofNat number ++ ascii ": improperly formatted "
        ++ ascii kind.label ++ ascii " checksum line")
    return { counts with improper := counts.improper + 1 }
  | some (digits, name) =>
    let counts := { counts with proper := counts.proper + 1 }
    let (mark, shown) := nameOnLine false name
    let tell (verdict : String) : Program Unit :=
      Program.outLine (mark ++ shown ++ ascii ": " ++ ascii verdict)
    match ← Program.readOperand name with
    | .error cause =>
      if settings.ignoresMissing && cause = .notFound then return counts
      else
        Program.complainOf name cause
        if !settings.isSilent then tell "FAILED open or read"
        return { counts with unread := counts.unread + 1 }
    | .ok text =>
      let found :=
        match kind.ofSize? with
        | some digest => digest (digits.length / 2) text
        | none => kind.digest text
      if Digest.hex found = digits then
        if !settings.isSilent && !settings.isQuiet then tell "OK"
        return { counts with equal := counts.equal + 1 }
      else
        if !settings.isSilent then tell "FAILED"
        return { counts with unequal := counts.unequal + 1 }

/-- Warns of a number of things, unless there are none. -/
def warnOfCount (count : Nat) (one several : String) : Program Unit := do
  if count != 0 then
    Program.complain (ascii "WARNING: " ++ ByteText.ofNat count
      ++ ascii (if count = 1 then one else several))

/-- Checks the lines of a file, and tells whether all went well. -/
def checkFile (kind : DigestKind) (settings : DigestSettings) (file : ByteText) :
    Program Bool := do
  let shown := Quoting.whereNeeded (if file = ['-'] then ascii "standard input" else file)
  match ← Program.readOperand file with
  | .error cause =>
    Program.complainOf file cause
    return false
  | .ok text =>
    let counts ← (ByteText.lines text).zipIdx.foldlM (fun counts (line, place) => do
      if line.text.head? = some '#' || line.text.isEmpty then return counts
      else checkLine kind settings shown counts (place + 1) line.text) {}
    if counts.proper = 0 then
      Program.complain (shown ++ ascii ": no properly formatted checksum lines found")
      return false
    else
      if !settings.isSilent then
        warnOfCount counts.improper " line is improperly formatted"
          " lines are improperly formatted"
        warnOfCount counts.unread " listed file could not be read"
          " listed files could not be read"
        warnOfCount counts.unequal " computed checksum did NOT match"
          " computed checksums did NOT match"
        if settings.ignoresMissing && counts.equal = 0 then
          Program.complain (shown ++ ascii ": no file was verified")
      return counts.unequal = 0 && counts.unread = 0 && !(settings.ignoresMissing && counts.equal = 0)
        && !(settings.isStrict && counts.improper != 0)

/-- Writes or checks the digests of files that are named. -/
def digestFiles (kind : DigestKind) (settings : DigestSettings) (operands : List ByteText) :
    Program Nat := do
  match digestMisuse? settings with
  | some text => Program.misuse 1 (ascii text)
  | none =>
    if settings.isCheck then
      (Program.inputsOr operands).foldlM (fun code file => do
        return if ← checkFile kind settings file then code else 1) 0
    else
      Program.eachText operands fun file text =>
        Program.out (digestLine kind settings file text)

/-- Writes or checks the digests of files. -/
def digestOf (kind : DigestKind) : Tool :=
  Program.withArguments digestRules {} digestOption (digestFiles kind)

/-- The digest of some number of bytes whose length can be chosen. -/
def chosenDigest (bits : Nat) : DigestKind :=
  let label := if bits = 512 then "BLAKE2b" else String.ofList (ascii "BLAKE2b-" ++ ByteText.ofNat bits)
  ⟨label, bits / 8, Digest.blake (bits / 8), none⟩

/-- Settings after an option of the program that writes digests of a chosen length. -/
def chosenOption (settings : DigestSettings) (key : String) (argument : ByteText) :
    Program (Except Nat DigestSettings) := do
  if key = "l" then
    match ByteText.toNat? argument with
    | none =>
      return .error (← Program.die 1 (ascii "invalid length: " ++ Program.quoted argument))
    | some bits =>
      if bits % 8 != 0 || 512 < bits then
        Program.complain (ascii "invalid length: " ++ Program.quoted argument)
        if bits % 8 != 0 then
          return .error (← Program.die 1 (ascii "length is not a multiple of 8"))
        else
          return .error (← Program.die 1
            (ascii "maximum digest length for 'BLAKE2b' is 512 bits"))
      else return .ok { settings with length := if bits = 0 then none else some bits }
  else digestOption settings key argument

/-- Writes or checks digests of a chosen length. -/
def b2sum : Tool :=
  Program.withArguments
    { forms := .both 'l' "length" .required :: digestRules.forms } {} chosenOption
    fun settings operands =>
      let kind := chosenDigest (settings.length.getD 512)
      let kind := if settings.isCheck then { kind with ofSize? := some Digest.blake } else kind
      digestFiles kind settings operands

/-- The digests that there are programs for, by the names of the programs. -/
def digestKinds : List (String × DigestKind) :=
  [("md5sum", ⟨"MD5", 16, Digest.md5, none⟩), ("sha1sum", ⟨"SHA1", 20, Digest.sha1, none⟩),
   ("sha224sum", ⟨"SHA224", 28, Digest.sha224, none⟩), ("sha256sum", ⟨"SHA256", 32, Digest.sha256, none⟩),
   ("sha384sum", ⟨"SHA384", 48, Digest.sha384, none⟩), ("sha512sum", ⟨"SHA512", 64, Digest.sha512, none⟩)]

/-! ## Sums -/

/-- The options of the program that sums bytes. -/
def sumRules : OptionRules :=
  { forms := [.letter 'r', .both 's' "sysv", .word "help", .word "version"] }

/-- Whether bytes are only added up, after an option. -/
def sumOption (isPlain : Bool) (key : String) (_ : ByteText) : Program (Except Nat Bool) := do
  match key with
  | "r" => return .ok false
  | "s" => return .ok true
  | _ => return .ok isPlain

/-- Writes the sums of the bytes of files, with their lengths in blocks. -/
def sumFiles (isPlain : Bool) (operands : List ByteText) : Program Nat :=
  Program.eachText operands fun file text =>
    let name := if operands.isEmpty then [] else ' ' :: file
    let count (size : Nat) : Nat := (text.length + size - 1) / size
    if isPlain then
      Program.outLine (ByteText.ofNat (Digest.plainSum text) ++ [' ']
        ++ ByteText.ofNat (count 512) ++ name)
    else
      let digits := ByteText.ofNat (Digest.turnedSum text)
      Program.outLine (List.replicate (5 - digits.length) '0' ++ digits ++ [' ']
        ++ ByteText.padLeft 5 (ByteText.ofNat (count 1024)) ++ name)

/-- Writes the sums of the bytes of files, with their lengths in blocks. -/
def sum : Tool := Program.withArguments sumRules false sumOption sumFiles

/-- The options of the program that writes remainders. -/
def cksumRules : OptionRules :=
  { forms := digestRules.forms ++
    [.both 'a' "algorithm" .required, .word "base64", .both 'l' "length" .required, .word "raw",
     .word "untagged", .word "debug"] }

/-- The names of digests that can be asked for. -/
def digestNames : List String :=
  ["bsd", "sysv", "crc", "md5", "sha1", "sha224", "sha256", "sha384", "sha512", "blake2b", "sm3"]

/-- The digest that is asked for by name, and how it is written. -/
structure CksumSettings where
  name : String := "crc"
  isUntagged : Bool := false
  inLetters : Bool := false
  isRaw : Bool := false
  digest : DigestSettings := {}

/-- Settings after an option of the program that writes remainders. -/
def cksumOption (settings : CksumSettings) (key : String) (argument : ByteText) :
    Program (Except Nat CksumSettings) := do
  match key with
  | "a" =>
    match ← Program.choose 1 "--algorithm" (digestNames.map fun name => [name]) argument with
    | .ok place => return .ok { settings with name := digestNames.getD place "crc" }
    | .error code => return .error code
  | "untagged" => return .ok { settings with isUntagged := true }
  | "tag" => return .ok { settings with isUntagged := false }
  | "base64" => return .ok { settings with inLetters := true }
  | "raw" => return .ok { settings with isRaw := true }
  | _ =>
    match ← chosenOption settings.digest key argument with
    | .ok digest => return .ok { settings with digest := digest }
    | .error code => return .error code

/-- The digest that settings ask for. -/
def cksumKind? (settings : CksumSettings) : Option DigestKind :=
  if settings.name = "blake2b" then some (chosenDigest (settings.digest.length.getD 512))
  else (digestKinds.find? fun entry => entry.1 = settings.name ++ "sum").map Prod.snd

/-- Checks lines of files, each of which names its digest. -/
def checkLabelled (settings : CksumSettings) (operands : List ByteText) : Program Nat := do
  let blake := { chosenDigest 512 with ofSize? := some Digest.blake }
  let kinds := digestKinds.map Prod.snd ++ [blake]
  (Program.inputsOr operands).foldlM (fun code file => do
    let opening ← Program.readOperand file
    let start := match opening with
      | .ok text => (ByteText.dropBlanks text).dropWhile (· = '\\')
      | .error _ => []
    let kind := (kinds.find? fun kind => (ascii kind.label).isPrefixOf start).getD blake
    return if ← checkFile kind settings.digest file then code else 1) 0

/-- Writes the remainders of files with their lengths, or digests that are asked for by name. -/
def cksum : Tool :=
  Program.withArguments cksumRules {} cksumOption fun settings operands => do
    if settings.digest.length.isSome && settings.name != "blake2b" then
      Program.die 1 (ascii "--length is only supported with --algorithm=blake2b")
    else
      match cksumKind? settings with
      | some kind =>
        if settings.digest.isCheck then
          (Program.inputsOr operands).foldlM (fun code file => do
            return if ← checkFile kind settings.digest file then code else 1) 0
        else if settings.isRaw then
          Program.eachText operands fun _ text =>
            Program.out ((kind.digest text).map Char.ofNat)
        else if settings.inLetters then
          Program.eachText operands fun file text =>
            let letters := Alphabet.sixtyFour.encode ((kind.digest text).map Char.ofNat)
            Program.outLine (if settings.isUntagged then letters ++ ascii "  " ++ file
              else ascii kind.label ++ ascii " (" ++ file ++ ascii ") = " ++ letters)
        else
          Program.eachText operands fun file text =>
            Program.out (digestLine kind
              { settings.digest with isLabelled := !settings.isUntagged } file text)
      | none =>
        if settings.digest.isCheck then checkLabelled settings operands
        else
          match settings.name with
          | "bsd" => sumFiles false operands
          | "sysv" => sumFiles true operands
          | _ =>
            Program.eachText operands fun file text =>
              Program.outLine (ByteText.ofNat (Digest.remainder text).toNat ++ [' ']
                ++ ByteText.ofNat text.length ++ (if operands.isEmpty then [] else ' ' :: file))

end Tool

end SchemaDocs.Shell
