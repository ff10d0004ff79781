import SchemaDocs.Shell.Tool.Basic
/-!
# Copying in blocks

A program that reads blocks of some size and writes blocks of another one, after some are left
out, with their bytes changed on the way.
-/

namespace SchemaDocs.Shell

namespace Tool

/-- An amount of blocks or of bytes. -/
structure BlockAmount where
  count : Nat
  isInBytes : Bool := false

/-- How blocks are copied. -/
structure BlockSettings where
  input : Option ByteText := none
  output : Option ByteText := none
  inputSize : Nat := 512
  outputSize : Nat := 512
  /-- The size of both, where each block that is read is written as it is. -/
  bothSize : Option Nat := none
  recordSize : Nat := 0
  skip : BlockAmount := ⟨0, false⟩
  seek : BlockAmount := ⟨0, false⟩
  count : Option BlockAmount := none
  changes : List String := []
  flags : List String := []
  outputFlags : List String := []
  status : String := ""

namespace BlockSettings

/-- Whether a change is made. -/
def has (settings : BlockSettings) (change : String) : Bool := settings.changes.contains change

/-- The size of the blocks that are read. -/
def readSize (settings : BlockSettings) : Nat := settings.bothSize.getD settings.inputSize

/-- The size of the blocks that are written. -/
def writeSize (settings : BlockSettings) : Nat := settings.bothSize.getD settings.outputSize

/-- Whether what is written is put together to blocks of its own. -/
def regroups (settings : BlockSettings) : Bool :=
  settings.bothSize.isNone
    || ["block", "unblock", "lcase", "ucase", "swab"].any settings.has

end BlockSettings

/-- The factor of the letters behind a number of bytes, the last of which may say that they are
bytes. -/
def blockFactor? (unit : ByteText) : Option Nat :=
  match unit with
  | ['c'] => some 1
  | ['w'] => some 2
  | ['B'] => some 1
  | _ =>
    match unit.reverse with
    | 'B' :: c :: rest =>
      if c = 'b' || c = 'c' || c = 'w' then blockLetter? (c :: rest).reverse else Units.factor? unit
    | _ => Units.factor? unit
where
  /-- The factor of a letter that is no unit of others. -/
  blockLetter? : ByteText → Option Nat
    | ['b'] => some 512
    | ['c'] => some 1
    | ['w'] => some 2
    | _ => none

/-- A number of bytes, which may be a product. -/
def blockNumber? (text : ByteText) : Option Nat :=
  (ByteText.splitAt 'x' text).foldl (fun product factor => do
    let product ← product
    let digits := factor.takeWhile Char.isDigit
    if digits.isEmpty then none
    else
      let unit ← blockFactor? (factor.drop digits.length)
      some (product * (ByteText.valueIn 10 digits * unit))) (some 1)

/-- The names of changes. -/
def blockChanges : List String :=
  ["ascii", "ebcdic", "ibm", "block", "unblock", "lcase", "ucase", "sparse", "swab", "sync",
   "excl", "nocreat", "notrunc", "noerror", "fdatasync", "fsync"]

/-- The names of flags. -/
def blockFlags : List String :=
  ["append", "direct", "directory", "dsync", "sync", "fullblock", "nonblock", "noatime",
   "nocache", "noctty", "nofollow", "nolinks", "binary", "text", "count_bytes", "skip_bytes",
   "seek_bytes"]

/-- Changes that exclude each other. -/
def excludedChanges : List (List String × String) :=
  [(["ascii", "ebcdic", "ibm"], "cannot combine any two of \x7bascii,ebcdic,ibm\x7d"),
   (["block", "unblock"], "cannot combine block and unblock"),
   (["lcase", "ucase"], "cannot combine lcase and ucase"),
   (["excl", "nocreat"], "cannot combine excl and nocreat")]

/-- Settings after an operand. -/
def blockOperand (settings : BlockSettings) (operand : ByteText) :
    Program (Except Nat BlockSettings) := do
  let name := operand.takeWhile (· != '=')
  let misuse (text : String) (value : ByteText) : Program (Except Nat BlockSettings) := do
    return .error (← Program.misuse 1 (ascii text ++ Program.quoted value))
  match operand.drop name.length with
  | [] => misuse "unrecognized operand " operand
  | _ :: value =>
    let number (isPositive : Bool) (step : BlockAmount → BlockSettings) :
        Program (Except Nat BlockSettings) := do
      match blockNumber? value with
      | some n =>
        if isPositive && n = 0 then
          return .error (← Program.die 1 (ascii "invalid number: " ++ Program.quoted value))
        else if 9223372036854775807 < n then
          return .error (← Program.die 1 (ascii "invalid number: " ++ Program.quoted value
            ++ ascii ": Value too large for defined data type"))
        else return .ok (step ⟨n, value.contains 'B'⟩)
      | none =>
        return .error (← Program.die 1 (ascii "invalid number: " ++ Program.quoted value))
    let words (known : List String) (noun : String) (step : List String → BlockSettings) :
        Program (Except Nat BlockSettings) := do
      let given := ByteText.splitAt ',' value
      match given.find? fun word => !(known.map ascii).contains word with
      | some word => misuse noun word
      | none => return .ok (step (given.map String.ofList))
    match String.ofList name with
    | "if" => return .ok { settings with input := some value }
    | "of" => return .ok { settings with output := some value }
    | "ibs" => number true fun n => { settings with inputSize := n.count }
    | "obs" => number true fun n => { settings with outputSize := n.count }
    | "bs" => number true fun n => { settings with bothSize := some n.count }
    | "cbs" => number true fun n => { settings with recordSize := n.count }
    | "skip" => number false fun n => { settings with skip := n }
    | "iseek" => number false fun n => { settings with skip := n }
    | "seek" => number false fun n => { settings with seek := n }
    | "oseek" => number false fun n => { settings with seek := n }
    | "count" => number false fun n => { settings with count := some n }
    | "conv" =>
      words blockChanges "invalid conversion: " fun given =>
        { settings with changes := settings.changes ++ given }
    | "iflag" =>
      words blockFlags "invalid input flag: " fun given =>
        { settings with flags := settings.flags ++ given }
    | "oflag" =>
      words blockFlags "invalid output flag: " fun given =>
        { settings with outputFlags := settings.outputFlags ++ given }
    | "status" =>
      if ["none", "noxfer", "progress"].any fun word => ascii word = value then
        return .ok { settings with status := String.ofList value }
      else misuse "invalid status level: " value
    | _ => misuse "unrecognized operand " operand

/-- A text in pieces of some length. -/
def piecesOf (size : Nat) : Nat → ByteText → List ByteText
  | 0, _ => []
  | fuel + 1, text =>
    if text.isEmpty then [] else text.take size :: piecesOf size fuel (text.drop size)

/-! ## Changes -/

/-- A text with each two neighbours swapped. -/
def swapped : ByteText → ByteText
  | a :: b :: rest => b :: a :: swapped rest
  | rest => rest

/-- Lines as records of some length, and how many were cut. -/
def recordsOf (size : Nat) (text : ByteText) : ByteText × Nat :=
  let lines := ByteText.lines text
  let records := lines.map fun line => ByteText.padRight size (line.text.take size)
  (records.flatten, (lines.filter fun line => size < line.text.length).length)

/-- Records of some length as lines, without the blanks at their ends. -/
def linesOf (size : Nat) (text : ByteText) : ByteText :=
  ((piecesOf size (text.length + 1) text).map fun record =>
    (record.reverse.dropWhile (· = ' ')).reverse ++ ['\n']).flatten

/-- What blocks that were read become, and how many records were cut. -/
def changedText (settings : BlockSettings) (text : ByteText) : ByteText × Nat :=
  let text := if settings.has "swab" then swapped text else text
  let text := if settings.has "lcase" then text.map Char.toLower else text
  let text := if settings.has "ucase" then text.map Char.toUpper else text
  if settings.recordSize = 0 then (text, 0)
  else if settings.has "block" then recordsOf settings.recordSize text
  else if settings.has "unblock" then (linesOf settings.recordSize text, 0)
  else (text, 0)

/-! ## Copying -/

/-- The number of bytes that are left out at the start of what is read. -/
def skippedBytes (settings : BlockSettings) : Nat :=
  if settings.skip.isInBytes || settings.flags.contains "skip_bytes" then settings.skip.count
  else settings.skip.count * settings.readSize

/-- The number of bytes that are left as they are at the start of what is written. -/
def soughtBytes (settings : BlockSettings) : Nat :=
  if settings.seek.isInBytes || settings.outputFlags.contains "seek_bytes" then settings.seek.count
  else settings.seek.count * settings.writeSize

/-- The greatest number of bytes that are read. -/
def wantedBytes? (settings : BlockSettings) : Option Nat :=
  settings.count.map fun amount =>
    if amount.isInBytes || settings.flags.contains "count_bytes" then amount.count
    else amount.count * settings.readSize

/-- Tells how much was copied. -/
def reportBlocks (settings : BlockSettings) (read written : Nat × Nat) (cut bytes : Nat) :
    Program Unit := do
  let pair (counts : Nat × Nat) (verb : String) : ByteText :=
    ByteText.ofNat counts.1 ++ ['+'] ++ ByteText.ofNat counts.2 ++ ascii (" records " ++ verb ++ "\n")
  if settings.status != "none" then
    Program.err (pair read "in" ++ pair written "out")
    if 0 < cut then
      Program.err (ByteText.ofNat cut
        ++ ascii (if cut = 1 then " truncated record\n" else " truncated records\n"))
    if settings.status != "noxfer" then
      Program.err (ByteText.ofNat bytes ++ ascii (if bytes = 1 then " byte" else " bytes")
        ++ ascii " copied, 0.0001 s, " ++ ByteText.ofNat (bytes * 10) ++ ascii " kB/s\n")

/-- Opens what is written to.  A new text may take the place of an old one from some byte on. -/
def openTarget (settings : BlockSettings) (path : ByteText) : Program (Except Nat Nat) := do
  let fail (cause : FileError) : Program (Except Nat Nat) := do
    return .error (← Program.die 1 (ascii "failed to open " ++ Program.quoted path
      ++ ascii (": " ++ cause.reason)))
  let isThere := (← Program.kindOf path) != .missing
  if settings.has "excl" && isThere then fail .exists
  else if settings.has "nocreat" && !isThere then fail .notFound
  else
    let appends := settings.outputFlags.contains "append"
    let before ← if isThere then Program.readOperand path else pure (Except.ok [])
    match ← Program.openOutput path (settings.has "notrunc") with
    | .error cause => fail cause
    | .ok channel =>
      match ← System.channel? channel with
      | some (.file steps _ mode) =>
        let start := soughtBytes settings
        if !settings.has "notrunc" then
          let kept := match before with
            | .ok text => text.take start
            | .error _ => []
          if 0 < start then
            System.setContents steps (kept ++ List.replicate (start - kept.length) '\x00')
        System.put channel (.file steps start { mode with appends := appends })
      | _ => pure ()
      return .ok channel

/-- The text that is read, in blocks. -/
def readBlocks (settings : BlockSettings) (channel : Nat) : Program (List ByteText) := do
  let size := settings.readSize
  let text ←
    match wantedBytes? settings with
    | some wanted => System.readExactly channel wanted
    | none => System.readAll channel
  return piecesOf size (text.length + 1) text

/-- Copies blocks from one open file to another one. -/
def copyBlocks (settings : BlockSettings) (name : ByteText) (source target : Nat) :
    Program Nat := do
  let skip := skippedBytes settings
  let (known, tail) ← System.pending source
  if 0 < skip then System.advance source (min skip known.length)
  if tail = .ended && known.length < skip && settings.status != "none" then
    Program.complain (name ++ ascii ": cannot skip to specified offset")
  let blocks ← if wantedBytes? settings = some 0 then pure [] else readBlocks settings source
  let size := settings.readSize
  let full := (blocks.filter fun block => block.length = size).length
  let pad := if settings.has "block" || settings.has "unblock" then ' ' else '\x00'
  let read :=
    if settings.has "sync" then
      blocks.map fun block => block ++ List.replicate (size - block.length) pad
    else blocks
  let (text, cut) := changedText settings read.flatten
  let written :=
    if settings.regroups then
      (text.length / settings.writeSize, if text.length % settings.writeSize = 0 then 0 else 1)
    else
      let whole := (read.filter fun block => block.length = size).length
      (whole, read.length - whole)
  Program.noteFault (← System.write target text)
  reportBlocks settings (full, blocks.length - full) written cut text.length
  return 0

/-- Copies blocks once both ends are open. -/
def startCopying (settings : BlockSettings) (source : Nat) : Program Nat := do
  let opened : Except Nat (Option Nat) ←
    match settings.output with
    | some path =>
      match ← openTarget settings path with
      | .ok channel => pure (.ok (some channel))
      | .error code => pure (.error code)
    | none => pure (.ok (← Program.descriptor? 1))
  let name := Quoting.whereNeeded (settings.input.getD (ascii "standard input"))
  match opened with
  | .error code => return code
  | .ok none => Program.die 1 (ascii "failed to open 'standard output': Bad file descriptor")
  | .ok (some target) =>
    if ← Program.isDirectory source then
      Program.complain (ascii "error reading " ++ Program.quoted (settings.input.getD
        (ascii "standard input")) ++ ascii ": Is a directory")
      reportBlocks settings (0, 0) (0, 0) 0 0
      return 1
    else
      let start := if settings.output.isNone then soughtBytes settings else 0
      match ← System.channel? target with
      | some (.file ..) =>
        System.advance target start
        copyBlocks settings name source target
      | _ =>
        if 0 < start then
          Program.complain (ascii "'standard output': cannot seek: Illegal seek")
          reportBlocks settings (0, 0) (0, 0) 0 0
          return 1
        else copyBlocks settings name source target

/-- Copies in blocks. -/
def dd : Tool :=
  Program.withArguments { forms := [.word "help", .word "version"] } ()
    (fun _ _ _ => return .ok ()) fun _ operands => do
      let outcome ← operands.foldlM (fun (outcome : Except Nat BlockSettings) operand => do
        match outcome with
        | .error code => return .error code
        | .ok settings => blockOperand settings operand) (.ok {})
      match outcome with
      | .error code => return code
      | .ok settings =>
        match excludedChanges.find? fun (group, _) =>
            1 < (settings.changes.eraseDups.filter group.contains).length with
        | some (_, text) => Program.die 1 (ascii text)
        | none =>
          match settings.input with
          | none =>
            match ← Program.descriptor? 0 with
            | some channel => startCopying settings channel
            | none => Program.die 1 (ascii "failed to open 'standard input': Bad file descriptor")
          | some path =>
            match ← Program.openInput path with
            | .error cause =>
              Program.die 1 (ascii "failed to open " ++ Program.quoted path
                ++ ascii (": " ++ cause.reason))
            | .ok channel => startCopying settings channel

end Tool

end SchemaDocs.Shell
