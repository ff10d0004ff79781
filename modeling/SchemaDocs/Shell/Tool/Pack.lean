import SchemaDocs.Shell.Digest
import SchemaDocs.Shell.Packing.Block
import SchemaDocs.Shell.Packing.Code
import SchemaDocs.Shell.Calendar
import SchemaDocs.Shell.NumberText
import SchemaDocs.Shell.Tool.Filing.Basic
/-!
# Packing files

Packed bytes with their headers and checks, and the programs that put them in place of files.
-/

/-!
## Members

Packed bytes stand between a header, which may tell the name and the time of a file, and a
check with the number of bytes.  Several members may follow each other, and are unpacked
into one text.
-/

namespace SchemaDocs.Shell

namespace Packing

/-- The bytes of a text. -/
def bytesOfText (text : ByteText) : ByteArray :=
  ⟨(text.map fun c => UInt8.ofNat c.toNat).toArray⟩

/-- The text of bytes. -/
def textOfBytes (bytes : ByteArray) : ByteText :=
  bytes.toList.map fun byte => Char.ofNat byte.toNat

/-- A number as so many bytes, the first of which weighs least. -/
def littleEndian (count n : Nat) : ByteText :=
  (List.range count).map fun place => Char.ofNat (n / Nat.pow 256 place % 256)

/-- The number that so many bytes at a place stand for. -/
def numberAt (bytes : ByteArray) (place count : Nat) : Nat :=
  (bytes.extract place (place + count)).toList.reverse.foldl (fun n byte => n * 256 + byte.toNat) 0

/-- A text as a member. -/
def member (level : Nat) (name : Option ByteText) (moment : Nat) (text : ByteText) : ByteText :=
  let speed := if level = 1 then '\x04' else if level = 9 then '\x02' else '\x00'
  let title :=
    match name with
    | some name => name ++ ['\x00']
    | none => []
  ['\x1f', '\x8b', '\x08', if name.isSome then '\x08' else '\x00'] ++ littleEndian 4 moment
    ++ [speed, '\x03'] ++ title ++ textOfBytes (pack level (bytesOfText text))
    ++ littleEndian 4 (Digest.cyclicCheck text).toNat ++ littleEndian 4 text.length

/-- What is wrong with a header. -/
inductive HeaderFault where
  /-- It is none. -/
  | foreign
  /-- It is cut off. -/
  | cut
  /-- The bytes are packed in another way. -/
  | method (number : Nat)
  | encrypted
  /-- It has marks that mean nothing. -/
  | marks (bits : Nat)

/-- What a header tells. -/
structure Header where
  name : Option ByteText
  moment : Nat
  /-- The place where the packed bytes begin. -/
  body : Nat

/-- The text up to a zero and the place behind it. -/
def zeroEnded (bytes : ByteArray) : Nat → Nat → ByteText → Option (ByteText × Nat)
  | 0, _, _ => none
  | fuel + 1, place, taken =>
    if h : place < bytes.size then
      let byte := bytes[place]
      if byte = 0 then some (taken.reverse, place + 1)
      else zeroEnded bytes fuel (place + 1) (Char.ofNat byte.toNat :: taken)
    else none

/-- Reads the rest of a header, whose first two bytes are right. -/
def headerAfterMark (bytes : ByteArray) (place : Nat) : Except HeaderFault Header := do
  let byte (offset : Nat) : Except HeaderFault Nat :=
    if place + offset < bytes.size then .ok (numberAt bytes (place + offset) 1) else .error .cut
  let method ← byte 2
  if method != 8 then throw (.method method)
  let marks ← byte 3
  if marks &&& 0x20 != 0 then throw .encrypted
  if marks &&& 0xc0 != 0 then throw (.marks marks)
  let _ ← byte 9
  let moment := numberAt bytes (place + 4) 4
  let after := place + 10
  let after ←
    if marks &&& 4 != 0 then
      if bytes.size < after + 2 then throw .cut
      else pure (after + 2 + numberAt bytes after 2)
    else pure after
  let text (isThere : Bool) (after : Nat) : Except HeaderFault (Option ByteText × Nat) :=
    if isThere then
      match zeroEnded bytes (bytes.size + 1) after [] with
      | some (text, after) => .ok (some text, after)
      | none => .error .cut
    else .ok (none, after)
  let (name, after) ← text (marks &&& 8 != 0) after
  let (_, after) ← text (marks &&& 16 != 0) after
  let after := if marks &&& 2 != 0 then after + 2 else after
  if bytes.size < after then throw .cut
  return ⟨name, moment, after⟩

/-- Reads a header at a place. -/
def header (bytes : ByteArray) (place : Nat) : Except HeaderFault Header :=
  let mark := textOfBytes (bytes.extract place (place + 2))
  match mark with
  | [] => .error .cut
  | [c] => if c = '\x00' then .error .foreign else .error .cut
  | mark => if mark = ['\x1f', '\x8b'] then headerAfterMark bytes place else .error .foreign

/-- How the members of a text come to their end. -/
inductive MembersEnding where
  | done
  /-- Zeros follow. -/
  | zeros
  /-- Something else follows. -/
  | garbage
  | header (fault : HeaderFault)
  | unpack (fault : UnpackFault)
  /-- The bytes are not those that were packed, or not as many. -/
  | changed (isCheckWrong isCountWrong : Bool)

/-- The members of a text. -/
structure Members where
  /-- What was unpacked, in pieces of which the last comes first. -/
  pieces : List ByteArray := []
  ending : MembersEnding := .done
  /-- The header of the first member. -/
  first : Option Header := none
  /-- The number of bytes of the last member, unpacked. -/
  lastCount : Nat := 0
  /-- The check of the last member. -/
  lastCheck : Nat := 0
  /-- The place behind all of them. -/
  stop : Nat := 0

/-- What is kept of bytes that were unpacked up to a fault. -/
def keptAt (fault : UnpackFault) (output : ByteArray) : ByteArray :=
  match fault with
  | .cut => output
  | .violated => output.extract 0 (output.size / half * half)

/-- Reads the members from a place on.  Each step reads one. -/
def membersFrom (bytes : ByteArray) : Nat → Nat → Members → Members
  | 0, _, members => members
  | fuel + 1, place, members =>
    let isFirst := members.first.isNone
    if !isFirst && bytes.size ≤ place then { members with stop := place }
    else
      match header bytes place with
      | .error fault =>
        let ending : MembersEnding :=
          match fault with
          | .foreign =>
            if isFirst then .header fault
            else if (bytes.extract place bytes.size).toList.all (· = 0) then .zeros
            else .garbage
          | _ => .header fault
        { members with ending := ending, stop := place }
      | .ok head =>
        let (output, after, fault) := unpack bytes head.body
        let members := { members with first := members.first.or (some head) }
        let add (output : ByteArray) (members : Members) : Members :=
          { members with pieces := output :: members.pieces, lastCount := output.size }
        match fault with
        | some fault => { add (keptAt fault output) members with ending := .unpack fault }
        | none =>
          let members := add output members
          if bytes.size < after + 8 then { members with ending := .unpack .cut }
          else
            let check := (Digest.cyclicCheck (textOfBytes output)).toNat
            let isCheckWrong := numberAt bytes after 4 != check
            let isCountWrong := numberAt bytes (after + 4) 4 != output.size % Nat.pow 2 32
            let members := { members with lastCheck := check, stop := after + 8 }
            if isCheckWrong || isCountWrong then
              { members with ending := .changed isCheckWrong isCountWrong }
            else membersFrom bytes fuel (after + 8) members

/-- Reads all members of a text. -/
def members (text : ByteText) : Members :=
  let bytes := bytesOfText text
  membersFrom bytes (bytes.size + 1) 0 {}

end Packing

end SchemaDocs.Shell

/-!
## Packed files

Files are replaced by packed ones and back again, or packed from the input to the output.
-/

namespace SchemaDocs.Shell

namespace Tool

open Filing

/-- How files are packed or unpacked. -/
structure PackSettings where
  unpacks : Bool := false
  toOutput : Bool := false
  keeps : Bool := false
  isForced : Bool := false
  isListing : Bool := false
  isTest : Bool := false
  isDeep : Bool := false
  isQuiet : Bool := false
  isVerbose : Bool := false
  /-- Whether names and times are kept with packed files, and taken from them. -/
  usesNames : Option Bool := none
  suffix : ByteText := ascii ".gz"
  level : Nat := 6

/-- What was done so far. -/
structure PackRun where
  code : Nat := 0
  isStopped : Bool := false
  hasHeading : Bool := false
  packedTotal : Nat := 0
  plainTotal : Nat := 0
  /-- The bytes around the packed ones of the last file. -/
  around : Nat := 0

/-- The options of the program that packs. -/
def packRules : OptionRules :=
  { forms :=
    [.both 'a' "ascii", .both 'c' "stdout", .word "to-stdout", .both 'd' "decompress",
     .word "uncompress", .both 'f' "force", .both 'h' "help", .both 'k' "keep", .both 'l' "list",
     .both 'L' "license", .both 'n' "no-name", .both 'N' "name", .both 'q' "quiet", .word "silent",
     .word "synchronous", .both 'r' "recursive", .both 'S' "suffix" .required, .both 't' "test",
     .both 'v' "verbose", .both 'V' "version", .both '1' "fast", .both '9' "best",
     .both 'b' "bits" .required, .word "rsyncable"]
    ++ (ascii "2345678").map OptionForm.letter }

/-- Settings after an option of the program that packs. -/
def packOption (settings : PackSettings) (key : String) (argument : ByteText) :
    Program (Except Nat PackSettings) :=
  return .ok (match key with
    | "c" => { settings with toOutput := true }
    | "to-stdout" => { settings with toOutput := true }
    | "d" => { settings with unpacks := true }
    | "uncompress" => { settings with unpacks := true }
    | "f" => { settings with isForced := true }
    | "k" => { settings with keeps := true }
    | "l" => { settings with isListing := true, unpacks := true, toOutput := true }
    | "n" => { settings with usesNames := some false }
    | "N" => { settings with usesNames := some true }
    | "q" => { settings with isQuiet := true, isVerbose := false }
    | "silent" => { settings with isQuiet := true, isVerbose := false }
    | "r" => { settings with isDeep := true }
    | "S" => { settings with suffix := argument }
    | "t" => { settings with isTest := true, unpacks := true, toOutput := true }
    | "v" => { settings with isVerbose := true, isQuiet := false }
    | key =>
      match ByteText.toNat? (ascii key) with
      | some level => { settings with level := level }
      | none => settings)

/-- Tells how to get help. -/
def suggestPackHelp : Program Unit := do
  let name ← Program.name
  Program.err (ascii "Try \x60" ++ name ++ ascii " --help' for more information.\n")

/-! ### Messages -/

/-- A code after a warning, which is told unless the program is to be quiet. -/
def warnPacking (settings : PackSettings) (run : PackRun) (text : ByteText) : Program PackRun := do
  if !settings.isQuiet then Program.err text
  return { run with code := if run.code = 0 then 2 else run.code }

/-- A message with the name of the program before it. -/
def packMessage (text : ByteText) : Program ByteText := do
  return (← Program.name) ++ ascii ": " ++ text ++ ['\n']

/-- A run after a fault. -/
def failPacking (run : PackRun) (text : ByteText) : Program PackRun := do
  Program.err (← packMessage text)
  return { run with code := 1 }

/-- A run after a fault that begins a new line. -/
def breakPacking (run : PackRun) (text : ByteText) : Program PackRun := do
  Program.err ['\n']
  failPacking run text

/-- Tells how the members of a file came to their end, and whether what was unpacked is good. -/
def tellMembers (settings : PackSettings) (shown : ByteText) (run : PackRun)
    (ending : Packing.MembersEnding) : Program (PackRun × Bool) := do
  let told (text : String) : ByteText := shown ++ ascii (": " ++ text)
  let stop (run : PackRun) : PackRun := { run with isStopped := true }
  match ending with
  | .done => return (run, true)
  | .zeros =>
    if settings.isVerbose then
      let text ← packMessage (told "decompression OK, trailing zero bytes ignored")
      return (← warnPacking settings run ('\n' :: text), true)
    else return (run, true)
  | .garbage =>
    let text ← packMessage (told "decompression OK, trailing garbage ignored")
    return (← warnPacking settings run ('\n' :: text), true)
  | .header .foreign => return (← breakPacking run (told "not in gzip format"), false)
  | .header .cut => return (stop (← breakPacking run (told "unexpected end of file")), false)
  | .header (.method number) =>
    return (← failPacking run (told "unknown method " ++ ByteText.ofNat number
      ++ ascii " -- not supported"), false)
  | .header .encrypted =>
    return (← failPacking run (shown ++ ascii " is encrypted -- not supported"), false)
  | .header (.marks bits) =>
    return (← failPacking run (shown ++ ascii " has flags 0x" ++ ByteText.digitsIn 16 bits
      ++ ascii " -- not supported"), false)
  | .unpack .cut => return (stop (← breakPacking run (told "unexpected end of file")), false)
  | .unpack .violated =>
    return (stop (← breakPacking run (told "invalid compressed data--format violated")), false)
  | .changed isCheckWrong isCountWrong =>
    let run ←
      if isCheckWrong then breakPacking run (told "invalid compressed data--crc error")
      else pure run
    let run ←
      if isCountWrong then breakPacking run (told "invalid compressed data--length error")
      else pure run
    return (if settings.isTest then run else stop run, false)

/-- A share in percent. -/
def percentage (part : Int) (whole : Nat) : ByteText :=
  let share := if whole = 0 then 0.0 else 100.0 * Float.ofInt part / Float.ofNat whole
  Fractional.write { width := 5, precision := some 1, conversion := 'f' }
    (Fractional.ofBits 11 52 share.toBits.toNat) ++ ['%']

/-- The share of a text that packing saves. -/
def savedShare (plain packed around : Nat) : ByteText :=
  percentage ((plain : Int) - ((packed : Int) - around)) plain

/-! ### Listing -/

/-- The bytes around the packed ones of some members, as far as they are told. -/
def aroundOf (members : Packing.Members) : Nat :=
  match members.first, members.pieces with
  | some head, [_] => head.body + 8
  | _, _ => 0

/-- A number in a column of a list. -/
def packColumn (n : Nat) : ByteText := ByteText.padLeft 19 (ByteText.ofNat n)

/-- Lists a packed file. -/
def listPacked (settings : PackSettings) (run : PackRun) (name : ByteText) (moment : Int)
    (members : Packing.Members) : Program PackRun := do
  if !run.hasHeading then
    if settings.isVerbose then Program.out (ascii "method  crc     date  time  ")
    if !settings.isQuiet then
      Program.outLine (ByteText.padLeft 19 (ascii "compressed") ++ [' ']
        ++ ByteText.padLeft 19 (ascii "uncompressed") ++ ascii "  ratio uncompressed_name")
  let packed := members.stop
  let plain := members.lastCount
  let around := aroundOf members
  if settings.isVerbose then
    let check := ByteText.digitsIn 16 members.lastCheck
    Program.out (ascii "defla " ++ List.replicate (8 - check.length) '0' ++ check ++ [' ']
      ++ Calendar.write (ascii "%b %e %H:%M ") moment)
  Program.outLine (packColumn packed ++ [' '] ++ packColumn plain ++ [' ']
    ++ savedShare plain packed around ++ [' '] ++ name)
  return { run with
    hasHeading := true, packedTotal := run.packedTotal + packed
    plainTotal := run.plainTotal + plain, around := around }

/-- Lists the totals of all files. -/
def listTotals (settings : PackSettings) (run : PackRun) : Program Unit := do
  if run.packedTotal != 0 && run.plainTotal != 0 then
    if settings.isVerbose then Program.out (List.replicate 28 ' ')
    Program.outLine (packColumn run.packedTotal ++ [' '] ++ packColumn run.plainTotal ++ [' ']
      ++ savedShare run.plainTotal run.packedTotal run.around ++ ascii " (totals)")

/-! ### Names -/

/-- The ending of a name that stands for packing, if it has one. -/
def packedEnding? (suffix name : ByteText) : Option ByteText :=
  let lower := name.map Char.toLower
  let known := [".gz", ".z", ".taz", ".tgz", "-gz", "-z", "_z"].map ascii
  let known := if suffix = ['z'] then known else suffix :: known
  (known.find? fun ending =>
    ending.length < name.length && ending.isPrefixOf (lower.drop (name.length - ending.length))
      && (name.take (name.length - ending.length)).getLast? != some '/').map fun ending =>
    name.drop (name.length - ending.length)

/-- A name without an ending that stands for packing. -/
def unpackedName (name ending : ByteText) : ByteText :=
  let stem := name.take (name.length - ending.length)
  let lower := ending.map Char.toLower
  if lower = ascii ".tgz" || lower = ascii ".taz" then stem ++ ascii ".tar" else stem

/-- The last name of a path. -/
def lastPackName (path : ByteText) : ByteText := ((ByteText.splitAt '/' path).getLast?).getD []

/-! ### Packing and unpacking -/

/-- The seconds of a time for a header, with a warning if they do not fit there. -/
def headerMoment (settings : PackSettings) (run : PackRun) (shown : ByteText) (moment : Option Int) :
    Program (PackRun × Nat) := do
  match moment with
  | none => return (run, 0)
  | some moment =>
    let seconds := moment / 1000000000
    if 0 < seconds && seconds < 4294967296 then return (run, seconds.toNat)
    else
      let text ← packMessage (shown ++ ascii ": warning: file timestamp out of range for gzip format")
      return (← warnPacking settings run text, 0)

/-- Unpacks a text to the output, or only looks at it. -/
def unpackToOutput (settings : PackSettings) (run : PackRun) (shown : ByteText) (text : ByteText) :
    Program (PackRun × Packing.Members × Bool) := do
  let members := Packing.members text
  let copies := settings.isForced && settings.toOutput && !settings.isListing
  let isForeign : Bool :=
    match members.ending with
    | .header .foreign => true
    | .header .cut => members.first.isNone && text.length < 2
    | .garbage => true
    | _ => false
  if !settings.isTest && !settings.isListing then
    Program.out ((members.pieces.reverse.map Packing.textOfBytes).flatten)
  if copies && isForeign then
    Program.out (text.drop members.stop)
    return (run, members, true)
  else
    let (run, isGood) ← tellMembers settings shown run members.ending
    return (run, members, isGood)

/-- Whether members ended without a word on what follows. -/
def isClean (members : Packing.Members) : Bool :=
  match members.ending with
  | .done => true
  | _ => false

/-- Packs or unpacks the input. -/
def packInput (settings : PackSettings) (run : PackRun) : Program PackRun := do
  let moment : Option Int ← do
    match ← Program.descriptor? 0 with
    | none => pure none
    | some channel =>
      match ← System.channel? channel with
      | some (.file steps _ _) => pure (some ((← tree).marks steps).changed)
      | _ => pure none
  match ← Program.readInput with
  | .error cause => failPacking run (ascii ("stdin: " ++ cause.reason))
  | .ok text =>
    if settings.unpacks then
      let (run, members, isGood) ← unpackToOutput settings run (ascii "stdin") text
      if !isGood then return run
      else if settings.isListing then
        if isClean members then
          listPacked settings run (ascii "stdout") ((moment.getD 0) / 1000000000) members
        else return run
      else
        if settings.isVerbose && settings.isTest then Program.err (ascii " OK\n")
        return run
    else
      let moment := if settings.usesNames = some false then none else moment
      let (run, seconds) ← headerMoment settings run (ascii "stdin") moment
      let packed := Packing.member settings.level none seconds text
      Program.out packed
      if settings.isVerbose then
        Program.err (savedShare text.length packed.length 18 ++ ['\n'])
      return run

/-- Looks for the file of a path.  One to unpack may lack the ending of its name. -/
def packedFile (settings : PackSettings) (path : ByteText) :
    Program (Except (ByteText × FileError) (ByteText × FilePlace)) := do
  let look (path : ByteText) : Program (Except FileError FilePlace) :=
    if settings.toOutput || settings.isForced then placeOf path
    else do
      match ← linkPlaceOf path with
      | .ok place => return if place.kind = .link then .error .tooManyLinks else .ok place
      | .error cause => return .error cause
  match ← look path with
  | .ok place => return .ok (path, place)
  | .error cause =>
    if !settings.unpacks || cause ≠ .notFound || (packedEnding? settings.suffix path).isSome then
      return .error (path, cause)
    else
      let endings := [settings.suffix, ascii ".gz", ascii ".z", ascii "-z", ascii ".Z"]
      let found ← endings.findSomeM? fun ending => do
        match ← look (path ++ ending) with
        | .ok place => return some (path ++ ending, place)
        | .error _ => return none
      match found with
      | some found => return .ok found
      | none => return .error (path ++ settings.suffix, .notFound)

/-- The reason of a fault with the path before it. -/
def packFault (path : ByteText) (cause : FileError) : ByteText :=
  if path.isEmpty then ascii cause.reason else path ++ ascii (": " ++ cause.reason)

/-- Puts what was made of a file in its place. -/
def replacePacked (settings : PackSettings) (source : FilePlace) (target : Steps)
    (moment : Option Int) (text : ByteText) : Program Unit := do
  let marks := (← tree).marks source.steps
  let marks := { marks with changed := moment.getD marks.changed }
  changeTree fun tree =>
    ((tree.remove target).putFileWith marks.mode target text.toBytes).putMarks target marks
  if !settings.keeps then changeTree fun tree => tree.remove source.steps

/-- The name of the file that is made, unless there is none.  A run with a warning is given then. -/
def madeName (settings : PackSettings) (run : PackRun) (path : ByteText) :
    Program (Except PackRun ByteText) := do
  let isTold := settings.isVerbose || (!settings.isDeep && !settings.isQuiet)
  match packedEnding? settings.suffix path with
  | none =>
    if !settings.unpacks then return .ok (path ++ settings.suffix)
    else if !settings.isDeep && (settings.isTest || settings.isListing) then return .ok path
    else if isTold then
      return .error (← warnPacking settings run
        (← packMessage (path ++ ascii ": unknown suffix -- ignored")))
    else return .error run
  | some ending =>
    if settings.unpacks then return .ok (unpackedName path ending)
    else if settings.isForced then return .ok (path ++ settings.suffix)
    else
      if isTold then
        Program.err (← packMessage
          (path ++ ascii " already has " ++ ending ++ ascii " suffix -- unchanged"))
      return .error run

/-- Why a file is left as it is, if it is. -/
def leftAlone? (settings : PackSettings) (mode : Nat) : Option String :=
  if settings.toOutput then none
  else if mode &&& Rights.asOwner != 0 then some "set-user-ID on execution - ignored"
  else if mode &&& Rights.asGroup != 0 then some "set-group-ID on execution - ignored"
  else none

/-- The place of the file that is made, unless it cannot be made.  A run with a fault is given then. -/
def madePlace (settings : PackSettings) (run : PackRun) (path : ByteText) :
    Program (Except PackRun FilePlace) := do
  match ← newPlaceWith true path with
  | .error cause => return .error (← failPacking run (packFault path cause))
  | .ok place =>
    if place.kind = .missing || (settings.isForced && place.kind != .directory) then return .ok place
    else
      Program.err ((← Program.name) ++ ascii ": " ++ path
        ++ ascii " already exists;\tnot overwritten\n")
      return .error { run with code := if run.code = 0 then 2 else run.code }

/-- Tells what became of a file. -/
def tellPacked (settings : PackSettings) (share name : ByteText) : Program Unit := do
  if settings.isVerbose then
    let verb := if settings.keeps then " -- created " else " -- replaced with "
    Program.err (share ++ ascii verb ++ name ++ ['\n'])

/-- Unpacks a file. -/
def unpackFile (settings : PackSettings) (run : PackRun) (path name : ByteText) (place : FilePlace)
    (text : ByteText) : Program PackRun := do
  let marks := (← tree).marks place.steps
  let begin_ : Program Unit := if settings.isVerbose then Program.err (path ++ ascii ":\t") else pure ()
  if settings.toOutput then
    if settings.isListing then
      let (run, members, isGood) ← unpackToOutput settings run path text
      if isGood && isClean members then
        let name :=
          match settings.usesNames, members.first.bind Packing.Header.name with
          | some true, some saved => lastPackName saved
          | _, _ => name
        listPacked settings run name (marks.changed / 1000000000) members
      else return run
    else
      begin_
      let (run, members, isGood) ← unpackToOutput settings run path text
      if isGood then
        if settings.isVerbose && settings.isTest then Program.err (ascii " OK\n")
        else
          tellPacked settings (savedShare members.lastCount text.length (aroundOf members))
            (ascii "stdout")
      return run
  else
    let members := Packing.members text
    match members.first with
    | none => return (← tellMembers settings path run members.ending).1
    | some head =>
      let name :=
        match settings.usesNames, head.name with
        | some true, some saved => name.take (name.length - (lastPackName name).length) ++ lastPackName saved
        | _, _ => name
      match ← madePlace settings run name with
      | .error run => return run
      | .ok target =>
        begin_
        let (run, isGood) ← tellMembers settings path run members.ending
        if isGood then
          let moment : Option Int :=
            if settings.usesNames = some true && head.moment != 0 then
              some ((head.moment : Int) * 1000000000)
            else none
          replacePacked settings place target.steps moment
            ((members.pieces.reverse.map Packing.textOfBytes).flatten)
          tellPacked settings (savedShare members.lastCount text.length (aroundOf members)) name
        return run

/-- Packs a file. -/
def packPlain (settings : PackSettings) (run : PackRun) (path name : ByteText) (place : FilePlace)
    (text : ByteText) : Program PackRun := do
  let keepsName := settings.usesNames != some false
  let saved := if keepsName then some (lastPackName path) else none
  let marks := (← tree).marks place.steps
  let moment := if keepsName then some marks.changed else none
  let around := 18 + (if keepsName then (lastPackName path).length + 1 else 0)
  let pack (run : PackRun) : Program (PackRun × ByteText) := do
    if settings.isVerbose then Program.err (path ++ ascii ":\t")
    let (run, seconds) ← headerMoment settings run path moment
    return (run, Packing.member settings.level saved seconds text)
  if settings.toOutput then
    let (run, packed) ← pack run
    Program.out packed
    tellPacked settings (savedShare text.length packed.length around) (ascii "stdout")
    return run
  else
    match ← madePlace settings run name with
    | .error run => return run
    | .ok target =>
      let (run, packed) ← pack run
      replacePacked settings place target.steps none packed
      tellPacked settings (savedShare text.length packed.length around) name
      return run

/-- Packs or unpacks what a path leads to.  Each step goes a level of directories deep. -/
def packAt (settings : PackSettings) : Nat → PackRun → ByteText → Program PackRun
  | 0, run, _ => return run
  | depth + 1, run, path => do
    if run.isStopped then return run
    else if path = ['-'] then packInput settings run
    else
      match ← packedFile settings path with
      | .error (path, cause) => failPacking run (packFault path cause)
      | .ok (path, place) =>
        if place.kind = .directory then
          if settings.isDeep then
            let names := (← tree).namesIn place.steps
            names.foldlM (fun run name =>
              packAt settings depth run (inside path (ByteText.ofString name))) run
          else
            warnPacking settings run (← packMessage (path ++ ascii " is a directory -- ignored"))
        else if !settings.toOutput && place.kind != .file then
          warnPacking settings run
            (← packMessage (path ++ ascii " is not a directory or a regular file - ignored"))
        else
          match leftAlone? settings ((← tree).marks place.steps).mode with
          | some reason => warnPacking settings run (← packMessage (path ++ ascii (" is " ++ reason)))
          | none =>
            match ← Program.readOperand path with
            | .error cause => failPacking run (packFault path cause)
            | .ok text =>
              match ← (if settings.toOutput && !settings.isListing && !settings.isTest then
                  pure (.ok path) else madeName settings run path) with
              | .error run => return run
              | .ok name =>
                if settings.unpacks then unpackFile settings run path name place text
                else packPlain settings run path name place text

/-- Packs or unpacks files, or the input. -/
def packAll (settings : PackSettings) (operands : List ByteText) : Program Nat := do
  if settings.suffix.isEmpty || 30 < settings.suffix.length then
    Program.die 1 (ascii "invalid suffix '" ++ settings.suffix ++ ['\''])
  else
    let run ←
      if operands.isEmpty then packInput { settings with toOutput := true } {}
      else operands.foldlM (packAt settings deepest) {}
    if settings.isListing && !settings.isQuiet && 1 < operands.length && !run.isStopped then
      listTotals settings run
    return run.code

/-- Packs files, or does as settings say. -/
def packWith (settings : PackSettings) : Tool :=
  Program.withArguments packRules settings packOption packAll 1 suggestPackHelp

/-- Packs files. -/
def gzip : Tool := packWith {}

/-- Does something under the name of the program that packs. -/
def asPacker (tool : Tool) : Tool :=
  withReader (fun process => { process with name := ascii "gzip" }) tool

/-- Unpacks files. -/
def gunzip : Tool := asPacker (packWith { unpacks := true })

/-- Unpacks files to the output. -/
def zcat : Tool := asPacker (packWith { unpacks := true, toOutput := true })

end Tool

end SchemaDocs.Shell
