import SchemaDocs.Shell.Calendar
import SchemaDocs.Shell.Glob
import SchemaDocs.Shell.Tool.Filing.Basic
import SchemaDocs.Shell.Tool.Order
/-!
# Listing files

What is in directories, by name or with all that is noted of each file, one file in a line or
several in columns.
-/

namespace SchemaDocs.Shell

namespace Tool

open Filing

/-- How files are laid out. -/
inductive Layout where
  | single | down | across | commas | long
deriving DecidableEq

/-- What files are sorted by. -/
inductive ListOrder where
  | name | time | size | ending | version | width | nothing
deriving DecidableEq

/-- How names are written. -/
inductive NameStyle where
  | literal | shell | shellAlways | quoted | escaped
deriving DecidableEq

/-- Which files are marked behind their names. -/
inductive MarkStyle where
  | nothing | directories | types | all
deriving DecidableEq

/-- How files are listed. -/
structure ListSettings where
  layout : Layout := .single
  order : ListOrder := .name
  isTurned : Bool := false
  directoriesFirst : Bool := false
  showsHidden : Bool := false
  showsDots : Bool := false
  hidden : List Glob := []
  ignored : List Glob := []
  asThemselves : Bool := false
  isDeep : Bool := false
  followsAll : Bool := false
  followsOperands : Bool := false
  marks : MarkStyle := .nothing
  style : NameStyle := .literal
  hidesControl : Bool := false
  width : Nat := 80
  tabWidth : Nat := 8
  showsOwner : Bool := true
  showsGroup : Bool := true
  isNumeric : Bool := false
  showsAuthor : Bool := false
  showsBlocks : Bool := false
  showsNodes : Bool := false
  isHuman : Bool := false
  isDecimal : Bool := false
  blockSize : Option Nat := none
  timeStyle : ByteText := ascii "locale"
  terminator : Char := '\n'

/-- The options of the program that lists files. -/
def lsRules : OptionRules :=
  { forms :=
    [.both 'a' "all", .both 'A' "almost-all", .word "author", .both 'b' "escape",
     .word "block-size" .required, .both 'B' "ignore-backups", .letter 'c', .letter 'C',
     .word "color" .optional, .both 'd' "directory", .both 'D' "dired", .letter 'f',
     .letter 'F', .word "classify" .optional, .word "file-type", .word "format" .required,
     .word "full-time", .letter 'g', .word "group-directories-first", .both 'G' "no-group",
     .both 'h' "human-readable", .word "si", .both 'H' "dereference-command-line",
     .word "dereference-command-line-symlink-to-dir", .word "hide" .required,
     .word "hyperlink" .optional, .word "indicator-style" .required, .both 'i' "inode",
     .both 'I' "ignore" .required, .both 'k' "kibibytes", .letter 'l', .both 'L' "dereference",
     .letter 'm', .both 'n' "numeric-uid-gid", .both 'N' "literal", .letter 'o', .letter 'p',
     .both 'q' "hide-control-chars", .word "show-control-chars", .both 'Q' "quote-name",
     .word "quoting-style" .required, .both 'r' "reverse", .both 'R' "recursive",
     .both 's' "size", .letter 'S', .word "sort" .required, .word "time" .required,
     .word "time-style" .required, .letter 't', .both 'T' "tabsize" .required, .letter 'u',
     .letter 'U', .letter 'v', .both 'w' "width" .required, .letter 'x', .letter 'X',
     .both 'Z' "context", .word "zero", .letter '1', .word "help", .word "version"] }

/-- A pattern for names. -/
def namePattern (text : ByteText) : Glob := Glob.ofMarked { hasCaret := true } (marked text false)

/-- The number of bytes of a block that an argument names. -/
def blockSize? (text : ByteText) : Option Nat := (Units.number? text).filter (0 < ·)

/-- Settings after an option of the program that lists files. -/
def lsOption (settings : ListSettings) (key : String) (argument : ByteText) :
    Program (Except Nat ListSettings) := do
  let long := { settings with layout := .long }
  let put (settings : ListSettings) : Program (Except Nat ListSettings) := return .ok settings
  let choose (option : String) (groups : List (List String))
      (step : Nat → ListSettings) : Program (Except Nat ListSettings) := do
    match ← Program.choose 2 option groups argument with
    | .ok place => return .ok (step place)
    | .error code => return .error code
  match key with
  | "a" => put { settings with showsHidden := true, showsDots := true }
  | "A" => put { settings with showsHidden := true, showsDots := false }
  | "author" => put { settings with showsAuthor := true }
  | "b" => put { settings with style := .escaped }
  | "B" =>
    put { settings with ignored := settings.ignored ++ [namePattern (ascii "*~"), namePattern (ascii ".*~")] }
  | "block-size" =>
    match blockSize? argument with
    | some size => put { settings with blockSize := some size }
    | none =>
      return .error (← Program.die 2 (ascii "invalid --block-size argument "
        ++ Program.quoted argument))
  | "C" => put { settings with layout := .down }
  | "d" => put { settings with asThemselves := true }
  | "f" =>
    put { settings with showsHidden := true, showsDots := true, order := .nothing, isTurned := false }
  | "F" => put { settings with marks := .all }
  | "classify" =>
    if argument.isEmpty then put { settings with marks := .all }
    else
      choose "--classify" [["always", "yes", "force"], ["never", "no", "none"],
        ["auto", "tty", "if-tty"]]
        fun place => if place = 0 then { settings with marks := .all } else settings
  | "file-type" => put { settings with marks := .types }
  | "p" => put { settings with marks := .directories }
  | "indicator-style" =>
    choose "--indicator-style" [["none"], ["slash"], ["file-type"], ["classify"]] fun place =>
      { settings with marks := match place with
          | 0 => .nothing
          | 1 => .directories
          | 2 => .types
          | _ => .all }
  | "format" =>
    choose "--format" [["verbose", "long"], ["commas"], ["horizontal", "across"], ["vertical"],
        ["single-column"]] fun place =>
      { settings with layout := match place with
          | 0 => .long
          | 1 => .commas
          | 2 => .across
          | 3 => .down
          | _ => .single }
  | "full-time" => put { long with timeStyle := ascii "full-iso" }
  | "g" => put { long with showsOwner := false }
  | "o" => put { long with showsGroup := false }
  | "G" => put { settings with showsGroup := false }
  | "group-directories-first" => put { settings with directoriesFirst := true }
  | "h" => put { settings with isHuman := true, isDecimal := false }
  | "si" => put { settings with isHuman := true, isDecimal := true }
  | "H" => put { settings with followsOperands := true }
  | "L" => put { settings with followsAll := true }
  | "hide" => put { settings with hidden := namePattern argument :: settings.hidden }
  | "I" => put { settings with ignored := namePattern argument :: settings.ignored }
  | "i" => put { settings with showsNodes := true }
  | "l" => put long
  | "m" => put { settings with layout := .commas }
  | "n" => put { long with isNumeric := true }
  | "N" => put { settings with style := .literal }
  | "q" => put { settings with hidesControl := true }
  | "show-control-chars" => put { settings with hidesControl := false }
  | "Q" => put { settings with style := .quoted }
  | "quoting-style" =>
    choose "--quoting-style" [["literal"], ["shell"], ["shell-always"], ["shell-escape"],
        ["shell-escape-always"], ["c"], ["c-maybe"], ["escape"], ["locale"], ["clocale"]] fun place =>
      { settings with style := match place with
          | 0 => .literal
          | 1 => .shell
          | 2 => .shellAlways
          | 3 => .shell
          | 4 => .shellAlways
          | 7 => .escaped
          | _ => .quoted }
  | "r" => put { settings with isTurned := true }
  | "R" => put { settings with isDeep := true }
  | "s" => put { settings with showsBlocks := true }
  | "S" => put { settings with order := .size }
  | "sort" =>
    choose "--sort" [["none"], ["time"], ["size"], ["extension"], ["version"], ["width"]] fun place =>
      { settings with order := match place with
          | 0 => .nothing
          | 1 => .time
          | 2 => .size
          | 3 => .ending
          | 4 => .version
          | _ => .width }
  | "time-style" => put { settings with timeStyle := argument }
  | "t" => put { settings with order := .time }
  | "T" =>
    match ByteText.toNat? argument with
    | some width => put { settings with tabWidth := width }
    | none =>
      return .error (← Program.die 2 (ascii "invalid tab size: " ++ Program.quoted argument))
  | "U" => put { settings with order := .nothing }
  | "v" => put { settings with order := .version }
  | "w" =>
    match ByteText.toNat? argument with
    | some width => put { settings with width := width }
    | none =>
      return .error (← Program.die 2 (ascii "invalid line width: " ++ Program.quoted argument))
  | "x" => put { settings with layout := .across }
  | "X" => put { settings with order := .ending }
  | "zero" =>
    put { settings with
      terminator := '\x00', style := .literal
      layout := if settings.layout = .long then .long else .single }
  | "1" => put { settings with layout := if settings.layout = .long then .long else .single }
  | _ => put settings

/-! ## What is shown of a file -/

/-- A file that is listed: how it was named, where it stands, and where its link leads, if it is one. -/
structure ListedFile where
  name : ByteText
  steps : Steps
  kind : FileKind
  marks : FileMarks
  size : Nat
  target : Option ByteText
  targetKind : Option FileKind
  targetMode : Nat

/-- The number of bytes of a directory. -/
def directorySize : Nat := 4096

/-- What is listed of a place. -/
def listedFile (name : ByteText) (steps : Steps) : Program ListedFile := do
  let tree ← tree
  let kind := tree.kind steps
  let target := (tree.link? steps).map ByteText.ofString
  let reached ← match kind with
    | .link =>
      match tree.locate steps.dropLast ((tree.link? steps).getD "") with
      | .ok place => pure (some place)
      | .error _ => pure none
    | _ => pure none
  let size :=
    match kind with
    | .directory => directorySize
    | .link => (target.getD []).length
    | .file => ((tree.file? steps).getD []).length
    | _ => 0
  return { name := name, steps := steps, kind := kind, marks := tree.marks steps, size := size
           target := target, targetKind := reached.map FilePlace.kind
           targetMode := (reached.map fun place => (tree.marks place.steps).mode).getD 0 }

/-- The mark behind the name of a file. -/
def markOf (style : MarkStyle) (kind : FileKind) (mode : Nat) : ByteText :=
  match style, kind with
  | .nothing, _ => []
  | _, .directory => ['/']
  | .directories, _ => []
  | _, .link => ['@']
  | .all, .file => if mode &&& Rights.running != 0 then ['*'] else []
  | _, _ => []

/-- A name in some style. -/
def styledName (settings : ListSettings) (name : ByteText) : ByteText :=
  let char (quote : Char) (c : Char) : ByteText :=
    if c = quote then ['\\', c]
    else if c = '\\' then ascii "\\\\"
    else if Quoting.isHidden c then Quoting.escaped c
    else [c]
  match settings.style with
  | .literal =>
    if settings.hidesControl then name.map fun c => if Quoting.isHidden c then '?' else c else name
  | .shell => Quoting.whereNeeded name
  | .shellAlways => Quoting.inQuotes name
  | .quoted => ['"'] ++ (name.map (char '"')).flatten ++ ['"']
  | .escaped => (name.map (char ' ')).flatten

/-- The blocks of a thousand and twenty-four bytes that a file takes. -/
def blocksOf (file : ListedFile) : Nat :=
  match file.kind with
  | .file => (file.size + 4095) / 4096 * 4
  | .directory => 4
  | _ => 0

/-- A number of bytes with a unit, rounded up. -/
def humanSize (isDecimal : Bool) (bytes : Nat) : ByteText :=
  let base := if isDecimal then 1000 else 1024
  let letters := if isDecimal then ascii "kMGTPE" else ascii "KMGTPE"
  let rec climb : ByteText → Nat → ByteText
    | [], _ => ByteText.ofNat bytes
    | letter :: rest, unit =>
      let tenths := (bytes * 10 + unit - 1) / unit
      if tenths < 100 then ByteText.ofNat (tenths / 10) ++ ['.'] ++ ByteText.ofNat (tenths % 10) ++ [letter]
      else
        let whole := (bytes + unit - 1) / unit
        if whole < base then ByteText.ofNat whole ++ [letter] else climb rest (unit * base)
  if bytes < base then ByteText.ofNat bytes else climb letters base

/-- The size of a file as it is shown. -/
def sizeText (settings : ListSettings) (bytes : Nat) : ByteText :=
  if settings.isHuman then humanSize settings.isDecimal bytes
  else
    match settings.blockSize with
    | some size => ByteText.ofNat ((bytes + size - 1) / size)
    | none => ByteText.ofNat bytes

/-- The blocks of a file as they are shown. -/
def blockText (settings : ListSettings) (blocks : Nat) : ByteText :=
  if settings.isHuman then humanSize settings.isDecimal (blocks * 1024)
  else
    match settings.blockSize with
    | some size => ByteText.ofNat ((blocks * 1024 + size - 1) / size)
    | none => ByteText.ofNat blocks

/-- A number that stands for where a file stands. -/
def nodeNumber (steps : Steps) : Nat :=
  steps.foldl (fun number name =>
    (name.toList.foldl (fun number c => (number * 31 + c.toNat) % 999983) number + 7)) 1000

/-- The letter for the kind of a file. -/
def kindLetter : FileKind → Char
  | .directory => 'd'
  | .link => 'l'
  | .device _ => 'c'
  | _ => '-'

/-- The numbers of a device. -/
def deviceNumbers : Device → Nat × Nat
  | .null => (1, 3)
  | .zero => (1, 5)
  | .full => (1, 7)
  | .noise => (1, 9)
  | .terminal => (5, 0)
  | .stream n => (136, n)

/-- The time at which a file was changed, as it is shown. -/
def timeText (settings : ListSettings) (now changed : Int) : Except Unit ByteText :=
  let seconds := changed / 1000000000
  let age := now / 1000000000 - seconds
  let isRecent := 0 ≤ age && age < 15778476
  let nanos := (changed % 1000000000).toNat
  match String.ofList settings.timeStyle with
  | "locale" => .ok (Calendar.write (ascii (if isRecent then "%b %e %H:%M" else "%b %e  %Y")) seconds)
  | "full-iso" =>
    .ok (Calendar.write (ascii "%Y-%m-%d %H:%M:%S.") seconds ++ Calendar.zeros 9 nanos
      ++ ascii " +0000")
  | "long-iso" => .ok (Calendar.write (ascii "%Y-%m-%d %H:%M") seconds)
  | "iso" => .ok (Calendar.write (ascii (if isRecent then "%m-%d %H:%M" else "%Y-%m-%d ")) seconds)
  | _ =>
    match settings.timeStyle with
    | '+' :: format =>
      let (old, recent) :=
        match ByteText.splitAt '\n' format with
        | [old, recent] => (old, recent)
        | _ => (format, format)
      .ok (Calendar.write (if isRecent then recent else old) seconds)
    | _ => .error ()

/-- The number of names of a file. -/
def nameCount (tree : FileTree) (file : ListedFile) : Nat :=
  match file.kind with
  | .directory =>
    2 + ((tree.namesIn file.steps).filter fun name =>
      tree.kind (file.steps ++ [name]) = .directory).length
  | _ => 1

/-! ## Lines -/

/-- The name of a file as it is shown, with its mark. -/
def shownName (settings : ListSettings) (file : ListedFile) : ByteText :=
  styledName settings file.name ++ markOf settings.marks file.kind file.marks.mode

/-- What stands before the name of a file in every layout, where numbers have some width. -/
def frontText (settings : ListSettings) (nodeWidth blockWidth : Nat) (file : ListedFile) : ByteText :=
  (if settings.showsNodes then
    ByteText.padLeft nodeWidth (ByteText.ofNat (nodeNumber file.steps)) ++ [' '] else [])
  ++ (if settings.showsBlocks then
    ByteText.padLeft blockWidth (blockText settings (blocksOf file)) ++ [' '] else [])

/-- The greatest length of texts. -/
def widest (texts : List ByteText) : Nat := (texts.map List.length).foldl max 0

/-- Texts with blanks before them up to the widest. -/
def alignRight (texts : List ByteText) : List ByteText := texts.map (ByteText.padLeft (widest texts))

/-- Texts with blanks after them up to the widest. -/
def alignLeft (texts : List ByteText) : List ByteText := texts.map (ByteText.padRight (widest texts))

/-- The sizes of files as they stand in long lines. -/
def sizeColumn (settings : ListSettings) (files : List ListedFile) : List ByteText :=
  let devices := files.map fun file =>
    match file.kind with
    | .device device => some (deviceNumbers device)
    | _ => none
  let majors := devices.filterMap fun pair => pair.map fun (major, _) => ByteText.ofNat major
  let minors := devices.filterMap fun pair => pair.map fun (_, minor) => ByteText.ofNat minor
  alignRight ((files.zip devices).map fun (file, numbers) =>
    match numbers with
    | some (major, minor) =>
      ByteText.padLeft (widest majors) (ByteText.ofNat major) ++ ascii ", "
        ++ ByteText.padLeft (widest minors) (ByteText.ofNat minor)
    | none => sizeText settings file.size)

/-- The lines of files with all that is noted of them. -/
def longLines (settings : ListSettings) (now : Int) (tree : FileTree) (files : List ListedFile) :
    List ByteText :=
  let owner := if settings.isNumeric then ascii "0" else ascii "root"
  let counts := alignRight (files.map fun file => ByteText.ofNat (nameCount tree file))
  let sizes := sizeColumn settings files
  let times := alignRight (files.map fun file =>
    match timeText settings now file.marks.changed with
    | .ok text => text
    | .error _ => [])
  let columns := (counts.zip (sizes.zip times)).map fun (count, size, time) =>
    [' '] ++ count ++ [' '] ++ (if settings.showsOwner then owner ++ [' '] else [])
      ++ (if settings.showsGroup then owner ++ [' '] else [])
      ++ (if settings.showsAuthor then owner ++ [' '] else []) ++ size ++ [' '] ++ time ++ [' ']
  (files.zip columns).map fun (file, columns) =>
    let target :=
      match file.target with
      | some target =>
        ascii " -> " ++ styledName settings target
          ++ (match file.targetKind with
            | some kind => markOf settings.marks kind file.targetMode
            | none => [])
      | none => []
    let name := if file.target.isSome then styledName settings file.name else shownName settings file
    [kindLetter file.kind] ++ Rights.letters file.marks.mode ++ columns ++ name ++ target

/-- The blanks and tabs from a column to another one.  Each step writes one of them. -/
def indentFrom (tab : Nat) : Nat → Nat → Nat → ByteText
  | 0, _, _ => []
  | fuel + 1, start, stop =>
    if stop ≤ start then []
    else if tab != 0 && (start + 1) / tab < stop / tab then
      '\t' :: indentFrom tab fuel (start + tab - start % tab) stop
    else ' ' :: indentFrom tab fuel (start + 1) stop

/-- The widths of so many columns for texts of some lengths. -/
def columnWidths (isDown : Bool) (lengths : Array Nat) (columns : Nat) : List Nat :=
  let rows := (lengths.size + columns - 1) / columns
  let place (index : Nat) : Nat := if isDown then index / rows else index % columns
  let widths := lengths.toList.zipIdx.foldl
    (fun (widths : Array Nat) (length, index) =>
      let column := place index
      let wanted := length + if column + 1 = columns then 0 else 2
      if widths[column]?.getD 0 < wanted then widths.setIfInBounds column wanted else widths)
    (Array.replicate columns 3)
  widths.toList

/-- The widths of the most columns that fit into a line. -/
def fittingWidths (isDown : Bool) (lengths : Array Nat) (width : Nat) : Nat → List Nat
  | 0 => columnWidths isDown lengths 1
  | columns + 1 =>
    let widths := columnWidths isDown lengths (columns + 1)
    if columns = 0 || width = 0 || ByteText.total widths < width then widths
    else fittingWidths isDown lengths width columns

/-- A line of columns of some widths. -/
def columnLine (tab : Nat) : Nat → List (ByteText × Nat) → ByteText
  | _, [] => []
  | _, [(text, _)] => text
  | column, (text, width) :: rest =>
    text ++ indentFrom tab width (column + text.length) (column + width)
      ++ columnLine tab (column + width) rest

/-- The lines of texts in columns. -/
def columnLines (isDown : Bool) (width tab : Nat) (texts : List ByteText) : List ByteText :=
  let lengths := (texts.map List.length).toArray
  let most := if width = 0 then texts.length else min texts.length (max 1 (width / 3))
  let widths := fittingWidths isDown lengths width most
  let columns := widths.length
  let rows := (texts.length + columns - 1) / columns
  let array := texts.toArray
  (List.range rows).map fun row =>
    let cells := (List.range columns).filterMap fun column =>
      array[if isDown then column * rows + row else row * columns + column]?
    columnLine tab 0 (cells.zip widths)

/-- The lines of texts with commas between them. -/
def commaLines (width : Nat) (texts : List ByteText) : ByteText :=
  let (written, _) := texts.foldl
    (fun ((written, column) : List ByteText × Nat) text =>
      if written.isEmpty then ([text], text.length)
      else if width = 0 || column + text.length + 2 < width then
        (text :: ascii ", " :: written, column + 2 + text.length)
      else (text :: ascii ",\n" :: written, text.length)) ([], 0)
  written.reverse.flatten

/-- Shows files in the layout that was asked for. -/
def showFiles (settings : ListSettings) (files : List ListedFile) : Program Unit := do
  if files.isEmpty then return ()
  let nodeWidth := widest (files.map fun file => ByteText.ofNat (nodeNumber file.steps))
  let blockWidth := widest (files.map fun file => blockText settings (blocksOf file))
  let front := frontText settings nodeWidth blockWidth
  let texts := files.map fun file => front file ++ shownName settings file
  match settings.layout with
  | .long =>
    let tree ← tree
    let lines := longLines settings tree.now tree files
    ((files.map front).zip lines).forM fun (front, line) =>
      Program.out (front ++ line ++ [settings.terminator])
  | .single => texts.forM fun text => Program.out (text ++ [settings.terminator])
  | .commas => Program.outLine (commaLines settings.width texts)
  | .down => (columnLines true settings.width settings.tabWidth texts).forM Program.outLine
  | .across => (columnLines false settings.width settings.tabWidth texts).forM Program.outLine

/-! ## Order -/

/-- The ending of a name, from its last point on. -/
def endingOf (name : ByteText) : ByteText :=
  match name.reverse.dropWhile (· != '.') with
  | [] => []
  | before => name.drop (before.length - 1)

/-- Whether a file does not come behind another one. -/
def comesFirst (order : ListOrder) (a b : ListedFile) : Bool :=
  let byName := ByteText.isBefore a.name b.name
  match order with
  | .name => byName
  | .nothing => true
  | .time =>
    if a.marks.changed = b.marks.changed then byName
    else decide (b.marks.changed < a.marks.changed)
  | .size => if a.size = b.size then byName else decide (b.size < a.size)
  | .ending =>
    if endingOf a.name = endingOf b.name then byName
    else ByteText.isBefore (endingOf a.name) (endingOf b.name)
  | .version =>
    match compareVersions a.name b.name with
    | .lt => true
    | .eq => byName
    | .gt => false
  | .width =>
    if a.name.length = b.name.length then byName else decide (a.name.length < b.name.length)

/-- Files in the order that was asked for. -/
def inListOrder (settings : ListSettings) (files : List ListedFile) : List ListedFile :=
  let sorted :=
    if settings.order = .nothing then files
    else files.mergeSort (comesFirst settings.order)
  let sorted := if settings.isTurned then sorted.reverse else sorted
  let isDirectory (file : ListedFile) : Bool :=
    file.kind = .directory || file.targetKind = some .directory
  if settings.directoriesFirst then
    sorted.filter isDirectory ++ sorted.filter fun file => !isDirectory file
  else sorted

/-- Whether a name in a directory is listed. -/
def isListed (settings : ListSettings) (name : ByteText) : Bool :=
  !(settings.ignored.any fun glob => glob.matchesName name)
    && (settings.showsHidden
      || (name.head? != some '.' && !settings.hidden.any fun glob => glob.matchesName name))

/-- Shows what is in a directory, and in those within it if that is asked for.  Each step goes one
level deep. -/
def showDirectory (settings : ListSettings) (hasHeading : Bool) :
    Nat → Bool → ByteText → Steps → Program Unit
  | 0, _, _, _ => return ()
  | depth + 1, isFirst, path, steps => do
    if !isFirst then Program.outLine []
    if hasHeading || settings.isDeep then Program.outLine (styledName settings path ++ [':'])
    let names := (((← tree).namesIn steps).map ByteText.ofString).filter (isListed settings)
    let reached (name : ByteText) : Program Steps := do
      let inner := steps ++ [name.toString]
      if settings.followsAll then
        match (← tree).locate steps name.toString with
        | .ok place => return if place.kind = .missing then inner else place.steps
        | .error _ => return inner
      else return inner
    let files ← names.mapM fun name => do listedFile name (← reached name)
    let dots ←
      if settings.showsDots then do
        pure [← listedFile ['.'] steps, ← listedFile ['.', '.'] steps.dropLast]
      else pure []
    let files := inListOrder settings (dots ++ files)
    if settings.layout = .long || settings.showsBlocks then
      let total := ByteText.total (files.map blocksOf)
      Program.out (ascii "total " ++ blockText settings total ++ [settings.terminator])
    showFiles settings files
    if settings.isDeep then
      files.forM fun file => do
        if file.kind = .directory && file.name != ['.'] && file.name != ['.', '.'] then
          showDirectory settings hasHeading depth false (inside path file.name) file.steps

/-- Lists files. -/
def ls : Tool :=
  Program.withArguments lsRules ({} : ListSettings) lsOption (fun settings operands => do
    match timeText settings 0 0 with
    | .error _ =>
      match ← Program.choose 2 "--time-style" [["full-iso"], ["long-iso"], ["iso"], ["locale"]]
          settings.timeStyle with
      | .ok _ => return 2
      | .error code => return code
    | .ok _ =>
      let given := if operands.isEmpty then [['.']] else operands
      let followsDirectories :=
        !(settings.asThemselves || settings.layout = .long || settings.marks = .all)
      let (found, code) ← given.foldlM (fun (found, code) path => do
        let itself ← linkPlaceOf path
        let reached ← placeOf path
        let follows :=
          settings.followsAll || settings.followsOperands
            || (followsDirectories && match reached with
              | .ok place => place.kind = .directory
              | .error _ => false)
        let chosen := match follows, reached with
          | true, .ok place => Except.ok place
          | _, _ => itself
        match chosen with
        | .ok place => return ((← listedFile path place.steps) :: found, code)
        | .error cause =>
          Program.complain (ascii "cannot access " ++ Program.quoted path
            ++ ascii (": " ++ cause.reason))
          return (found, 2)) (([] : List ListedFile), 0)
      let found := inListOrder settings found.reverse
      let isPlain (file : ListedFile) : Bool := settings.asThemselves || file.kind != .directory
      let files := found.filter isPlain
      let directories := found.filter fun file => !isPlain file
      showFiles settings files
      let hasHeading := 1 < given.length
      let _ ← directories.foldlM (fun isFirst file => do
        showDirectory settings hasHeading deepest isFirst file.name file.steps
        return false) files.isEmpty
      return code) 2

end Tool

end SchemaDocs.Shell

/-!
## The status of files

What is noted of files, in a layout that the caller writes down.
-/

namespace SchemaDocs.Shell

namespace Tool

open Filing

/-- How the status of files is shown. -/
structure StatusSettings where
  followsLinks : Bool := false
  format : Option ByteText := none
  /-- Whether characters behind backslashes are replaced, and lines are not ended. -/
  isRaw : Bool := false
  isTerse : Bool := false
  ofSystem : Bool := false

/-- The options of the program that shows the status of files. -/
def statRules : OptionRules :=
  { forms :=
    [.both 'L' "dereference", .both 'f' "file-system", .word "cached" .required,
     .both 'c' "format" .required, .word "printf" .required, .both 't' "terse", .word "help",
     .word "version"] }

/-- Settings after an option of the program that shows the status of files. -/
def statOption (settings : StatusSettings) (key : String) (argument : ByteText) :
    Program (Except Nat StatusSettings) :=
  return .ok (match key with
    | "L" => { settings with followsLinks := true }
    | "f" => { settings with ofSystem := true }
    | "c" => { settings with format := some argument, isRaw := false }
    | "printf" => { settings with format := some argument, isRaw := true }
    | "t" => { settings with isTerse := true }
    | _ => settings)

/-- The layout that is used if none is asked for. -/
def usualStatus (kind : FileKind) : ByteText :=
  ascii "  File: %N\n  Size: %-10s\tBlocks: %-10b IO Block: %-6o %F\n"
    ++ (match kind with
      | .device _ => ascii "Device: %Hd,%Ld\tInode: %-10i  Links: %-5h Device type: %Hr,%Lr\n"
      | _ => ascii "Device: %Hd,%Ld\tInode: %-10i  Links: %h\n")
    ++ ascii "Access: (%04a/%10.10A)  Uid: (%5u/%8U)   Gid: (%5g/%8G)\n"
    ++ ascii "Access: %x\nModify: %y\nChange: %z\n Birth: %w\n"

/-- The layout in one line. -/
def terseStatus : ByteText := ascii "%n %s %b %f %u %g %D %i %h %t %T %X %Y %Z %W %o\n"

/-- The kind of a file in words. -/
def statusKind (file : ListedFile) : ByteText :=
  match file.kind with
  | .file => ascii (if file.size = 0 then "regular empty file" else "regular file")
  | .directory => ascii "directory"
  | .link => ascii "symbolic link"
  | .device _ => ascii "character special file"
  | .missing => []

/-- The bits for the kind of a file. -/
def kindBits : FileKind → Nat
  | .file => 32768
  | .directory => 16384
  | .link => 40960
  | .device _ => 8192
  | .missing => 0

/-- What a directive of a layout shows: a text, or a whole number. -/
inductive StatusField where
  | text (text : ByteText)
  | number (n : Int)
  | octal (n : Nat)
  | hex (n : Nat)
  /-- Billionths of a second. -/
  | moment (n : Int)

/-- A time in full. -/
def fullTime (moment : Int) : ByteText :=
  Calendar.write (ascii "%Y-%m-%d %H:%M:%S.") (moment / 1000000000)
    ++ Calendar.zeros 9 (moment % 1000000000).toNat ++ ascii " +0000"

/-- What a letter shows of a file. -/
def statusField? (tree : FileTree) (isPlain : Bool) (file : ListedFile) (c : Char) :
    Option StatusField :=
  let shown := if isPlain then Quoting.whereNeeded else Quoting.inQuotes
  let time := file.marks.changed
  let device : Nat × Nat :=
    match file.kind with
    | .device device => deviceNumbers device
    | _ => (0, 0)
  match c with
  | 'a' => some (.octal file.marks.mode)
  | 'A' => some (.text (kindLetter file.kind :: Rights.letters file.marks.mode))
  | 'b' => some (.number (2 * blocksOf file))
  | 'B' => some (.number 512)
  | 'C' => some (.text ['?'])
  | 'd' => some (.number 65024)
  | 'D' => some (.hex 65024)
  | 'f' => some (.hex (kindBits file.kind + file.marks.mode))
  | 'F' => some (.text (statusKind file))
  | 'g' => some (.number 0)
  | 'G' => some (.text (ascii "root"))
  | 'h' => some (.number (nameCount tree file))
  | 'i' => some (.number (nodeNumber file.steps))
  | 'm' => some (.text ['/'])
  | 'n' => some (.text file.name)
  | 'N' =>
    some (.text (shown file.name ++ (match file.target with
      | some target => ascii " -> " ++ shown target
      | none => [])))
  | 'o' => some (.number 4096)
  | 's' => some (.number file.size)
  | 'r' => some (.number (device.1 * 256 + device.2))
  | 'R' => some (.hex (device.1 * 256 + device.2))
  | 't' => some (.hex device.1)
  | 'T' => some (.hex device.2)
  | 'u' => some (.number 0)
  | 'U' => some (.text (ascii "root"))
  | 'w' => some (.text (fullTime time))
  | 'W' => some (.moment time)
  | 'x' => some (.text (fullTime time))
  | 'X' => some (.moment time)
  | 'y' => some (.text (fullTime time))
  | 'Y' => some (.moment time)
  | 'z' => some (.text (fullTime time))
  | 'Z' => some (.moment time)
  | _ => none

/-- What a directive of a layout shows of a file. -/
def statusText (directive : Directive) (field : StatusField) : ByteText :=
  match field with
  | .text text => { directive with conversion := 's' }.writeText text
  | .number n =>
    if n < 0 then { directive with conversion := 'd' }.writeSigned n
    else { directive with conversion := 'u' }.writeUnsigned n.toNat
  | .octal n => { directive with conversion := 'o' }.writeUnsigned n
  | .hex n => { directive with conversion := 'x' }.writeUnsigned n
  | .moment n =>
    match directive.precision with
    | none => { directive with conversion := 'd' }.writeSigned (n / 1000000000)
    | some precision =>
      let places := min 9 (if precision = 0 then 9 else precision)
      let digits := (Calendar.zeros 9 (n % 1000000000).toNat).take places
      let extra := List.replicate (precision - 9) '0'
      directive.pad (ByteText.ofInt (n / 1000000000) ++ ['.'] ++ digits ++ extra)

/-- The numbers of the device that files are on, or of a device itself. -/
def pairedNumber (isMajor isOwn : Bool) (file : ListedFile) : Nat :=
  let numbers : Nat × Nat :=
    if isOwn then
      match file.kind with
      | .device device => deviceNumbers device
      | _ => (0, 0)
    else (254, 0)
  if isMajor then numbers.1 else numbers.2

/-- The status of a file in a layout.  Each step takes a character or a directive. -/
def statusFrom (show? : Char → Option StatusField) (paired : Bool → Bool → Nat) (isRaw : Bool) :
    Nat → ByteText → ByteText
  | 0, _ => []
  | _ + 1, [] => []
  | fuel + 1, '%' :: rest =>
    let flags := rest.takeWhile (ascii "'-+ #0I").contains
    let rest := rest.drop flags.length
    let width := rest.takeWhile Char.isDigit
    let rest := rest.drop width.length
    let (precision, rest) :=
      match rest with
      | '.' :: more =>
        let digits := more.takeWhile Char.isDigit
        (some (ByteText.valueIn 10 digits), more.drop digits.length)
      | rest => (none, rest)
    let directive : Directive :=
      { flags := flags, width := ByteText.valueIn 10 width, precision := precision }
    match rest with
    | [] => ['%']
    | '%' :: rest => '%' :: statusFrom show? paired isRaw fuel rest
    | 'H' :: 'd' :: rest =>
      statusText directive (.number (paired true false)) ++ statusFrom show? paired isRaw fuel rest
    | 'L' :: 'd' :: rest =>
      statusText directive (.number (paired false false)) ++ statusFrom show? paired isRaw fuel rest
    | 'H' :: 'r' :: rest =>
      statusText directive (.number (paired true true)) ++ statusFrom show? paired isRaw fuel rest
    | 'L' :: 'r' :: rest =>
      statusText directive (.number (paired false true)) ++ statusFrom show? paired isRaw fuel rest
    | c :: rest =>
      (match show? c with
        | some field => statusText directive field
        | none => ['?']) ++ statusFrom show? paired isRaw fuel rest
  | fuel + 1, '\\' :: rest =>
    if !isRaw then '\\' :: statusFrom show? paired isRaw fuel rest
    else
      match rest with
      | [] => ['\\']
      | 'x' :: more =>
        let (digits, after) := Escape.digits 16 2 more
        if digits.isEmpty then ['\\', 'x'] ++ statusFrom show? paired isRaw fuel more
        else
          Escape.byte (ByteText.valueIn 16 digits) :: statusFrom show? paired isRaw fuel after
      | c :: more =>
        if ByteText.isDigitIn 8 c then
          let (digits, after) := Escape.digits 8 3 rest
          Escape.byte (ByteText.valueIn 8 digits) :: statusFrom show? paired isRaw fuel after
        else
          match Escape.letter? c with
          | some named => named :: statusFrom show? paired isRaw fuel more
          | none => c :: statusFrom show? paired isRaw fuel more
  | fuel + 1, c :: rest => c :: statusFrom show? paired isRaw fuel rest

/-- Shows the status of files. -/
def stat : Tool :=
  Program.withArguments statRules {} statOption fun settings operands => do
    if operands.isEmpty then Program.missingOperand
    else
      forAll operands fun path => do
        match ← placeWith (!settings.followsLinks) path with
        | .error cause => refuseFor "cannot statx " path cause
        | .ok place =>
          let now ← tree
          let file ← listedFile path place.steps
          let isPlain := settings.format.isNone
          let format :=
            match settings.format with
            | some format => if settings.isRaw then format else format ++ ['\n']
            | none => if settings.isTerse then terseStatus else usualStatus file.kind
          Program.out (statusFrom (statusField? now isPlain file)
            (fun isMajor isOwn => pairedNumber isMajor isOwn file) settings.isRaw
            (format.length + 1) format)
          return true

end Tool

end SchemaDocs.Shell
