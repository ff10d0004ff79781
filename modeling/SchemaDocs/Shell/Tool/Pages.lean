import SchemaDocs.Shell.Calendar
import SchemaDocs.Shell.Tool.Basic
/-!
# Pages

Files are laid out on pages with a heading, in one column or several.  The lines of a file run down
the columns or across them, or every file has a column of its own.  Blanks between columns are
written as tabs where they reach tab stops.
-/

namespace SchemaDocs.Shell

namespace Tool

/-- How pages are laid out. -/
structure PageSettings where
  firstPage : Nat := 1
  lastPage : Option Nat := none
  columns : Nat := 1
  hasColumns : Bool := false
  runsAcross : Bool := false
  isParallel : Bool := false
  isDouble : Bool := false
  showsControl : Bool := false
  showsOctal : Bool := false
  dateFormat : ByteText := ascii "%Y-%m-%d %H:%M"
  expands : Bool := false
  inputTab : Char × Nat := ('\t', 8)
  compresses : Bool := false
  outputTab : Char × Nat := ('\t', 8)
  feeds : Bool := false
  heading : Option ByteText := none
  joins : Bool := false
  pageLength : Nat := 66
  isNumbered : Bool := false
  numberMark : Char := '\t'
  numberWidth : Nat := 5
  firstNumber : Int := 1
  margin : Nat := 0
  isSilent : Bool := false
  hasSeparator : Bool := false
  separator : ByteText := ['\t']
  /-- Whether a separator was asked for in the old way, and a width. -/
  oldSeparator : Bool := false
  oldWidth : Bool := false
  hasOldOptions : Bool := false
  hasFrame : Bool := true
  keepsFeeds : Bool := false
  cuts : Bool := false
  width : Nat := 72

/-- The options of the program that lays out pages. -/
def prRules : OptionRules :=
  { forms :=
    [.word "pages" .required, .word "columns" .required, .both 'a' "across",
     .both 'c' "show-control-chars", .both 'd' "double-space", .both 'D' "date-format" .required,
     .both 'e' "expand-tabs" .optional, .letter 'f', .both 'F' "form-feed",
     .both 'h' "header" .required, .both 'i' "output-tabs" .optional, .both 'J' "join-lines",
     .both 'l' "length" .required, .both 'm' "merge", .both 'n' "number-lines" .optional,
     .both 'N' "first-line-number" .required, .both 'o' "indent" .required,
     .both 'r' "no-file-warnings", .both 's' "separator" .optional,
     .both 'S' "sep-string" .optional, .both 't' "omit-header", .both 'T' "omit-pagination",
     .both 'v' "show-nonprinting", .both 'w' "width" .required,
     .both 'W' "page-width" .required, .letter 'b', .word "help", .word "version",
     .letter '0', .letter '1', .letter '2', .letter '3', .letter '4', .letter '5', .letter '6',
     .letter '7', .letter '8', .letter '9'] }

/-- A character and a number behind it, each of which may be missing. -/
def readMark? (usual : Char × Nat) (text : ByteText) : Option (Char × Nat) :=
  let (mark, digits) :=
    match text with
    | [] => (usual.1, [])
    | c :: rest => if c.isDigit then (usual.1, text) else (c, rest)
  if digits.isEmpty then some (mark, usual.2)
  else ((ByteText.toNat? digits).filter (0 < ·)).map fun n => (mark, n)

/-- The first and the last page of a range. -/
def readPages? (text : ByteText) : Option (Nat × Option Nat) :=
  let first := text.takeWhile (· != ':')
  match ByteText.toNat? first, text.drop first.length with
  | some (n + 1), [] => some (n + 1, none)
  | some (n + 1), _ :: last =>
    match ByteText.toNat? last with
    | some m => if n < m then some (n + 1, some m) else none
    | none => none
  | _, _ => none

/-- Settings after an option of the program that lays out pages. -/
def prOption (settings : PageSettings) (key : String) (argument : ByteText) :
    Program (Except Nat PageSettings) := do
  let put (settings : PageSettings) : Program (Except Nat PageSettings) := return .ok settings
  let number (least : Nat) (text : String) (step : Nat → PageSettings) :
      Program (Except Nat PageSettings) := do
    let start := ascii text ++ Program.quoted argument
    match ByteText.toNat? argument with
    | some n =>
      if n < least then
        return .error (← Program.die 1 (start ++ ascii ": Numerical result out of range"))
      else return .ok (step n)
    | none => return .error (← Program.die 1 start)
  let mark (usual : Char × Nat) (letter : String) (step : Char × Nat → PageSettings) :
      Program (Except Nat PageSettings) := do
    match readMark? usual argument with
    | some pair => return .ok (step pair)
    | none =>
      let shown := argument.dropWhile fun c => !c.isDigit
      return .error (← Program.misuse 1
        (ascii ("'-" ++ letter ++ "' extra characters or invalid number in the argument: ")
          ++ Program.quoted shown))
  match key with
  | "pages" =>
    match readPages? argument with
    | some (first, last) => put { settings with firstPage := first, lastPage := last }
    | none =>
      return .error (← Program.die 1 (ascii "invalid --pages argument " ++ Program.quoted argument))
  | "columns" =>
    number 1 "invalid number of columns: " fun n =>
      { settings with columns := n, hasColumns := true, hasOldOptions := true }
  | "a" => put { settings with runsAcross := true }
  | "c" => put { settings with showsControl := true }
  | "d" => put { settings with isDouble := true }
  | "D" => put { settings with dateFormat := argument }
  | "e" => mark ('\t', 8) "e" fun pair => { settings with expands := true, inputTab := pair }
  | "f" => put { settings with feeds := true }
  | "F" => put { settings with feeds := true }
  | "h" => put { settings with heading := some argument }
  | "i" => mark ('\t', 8) "i" fun pair => { settings with compresses := true, outputTab := pair }
  | "J" => put { settings with joins := true }
  | "l" => number 1 "'-l PAGE_LENGTH' invalid number of lines: " fun n =>
      { settings with pageLength := n }
  | "m" => put { settings with isParallel := true }
  | "n" => mark ('\t', 5) "n" fun (c, n) =>
      { settings with isNumbered := true, numberMark := c, numberWidth := n }
  | "N" =>
    match (if argument.head? = some '-' then (ByteText.toNat? (argument.drop 1)).map fun n => -(n : Int)
        else (ByteText.toNat? argument).map fun n => (n : Int)) with
    | some n => put { settings with firstNumber := n }
    | none =>
      return .error (← Program.die 1 (ascii "'-N NUMBER' invalid starting line number: "
        ++ Program.quoted argument))
  | "o" => number 0 "'-o MARGIN' invalid line offset: " fun n => { settings with margin := n }
  | "r" => put { settings with isSilent := true }
  | "s" =>
    put { settings with
      oldSeparator := true, hasOldOptions := true
      separator := if settings.hasSeparator || argument.isEmpty then settings.separator else argument }
  | "S" =>
    put { settings with oldSeparator := false, separator := argument, hasSeparator := true }
  | "t" => put { settings with hasFrame := false, keepsFeeds := true }
  | "T" => put { settings with hasFrame := false, keepsFeeds := false }
  | "v" => put { settings with showsOctal := true }
  | "w" =>
    number 1 "'-w PAGE_WIDTH' invalid number of characters: " fun n =>
      { settings with
        hasOldOptions := true, oldWidth := true, width := if settings.cuts then settings.width else n }
  | "W" =>
    number 1 "'-W PAGE_WIDTH' invalid number of characters: " fun n =>
      { settings with oldWidth := false, cuts := true, width := n }
  | _ =>
    match key.toList with
    | [c] =>
      if c.isDigit then
        let before := if settings.hasColumns then settings.columns else 0
        put { settings with
          columns := before * 10 + (c.toNat - '0'.toNat), hasColumns := true, hasOldOptions := true }
      else put settings
    | _ => put settings

/-! ## Settings that follow from others -/

/-- How pages are laid out in the end. -/
structure PageLayout where
  settings : PageSettings
  columns : Nat
  /-- Whether the lines of a file run down the columns. -/
  runsDown : Bool
  hasFrame : Bool
  keepsFeeds : Bool
  bodyLines : Nat
  separator : ByteText
  hasSeparator : Bool
  cuts : Bool
  expands : Bool
  compresses : Bool
  columnWidth : Nat
  numberWidth : Nat

/-- The next tab stop. -/
def tabAfter (size column : Nat) : Nat := column + size - column % size

/-- Settings in which the old ways to ask for something are put into the new ones. -/
def PageSettings.modern (settings : PageSettings) : PageSettings :=
  let isWide := settings.isParallel || settings.hasColumns
  if !settings.hasOldOptions then settings
  else if settings.oldWidth then
    if isWide then
      { settings with cuts := true, hasSeparator := settings.hasSeparator || settings.oldSeparator }
    else { settings with joins := true }
  else if !settings.hasSeparator && settings.oldSeparator && isWide then
    if settings.cuts then { settings with hasSeparator := true }
    else { settings with joins := true, hasSeparator := !settings.separator.isEmpty }
  else settings

/-- The layout of some number of files. -/
def layoutOf? (settings : PageSettings) (files : Nat) : Option PageLayout :=
  let settings := settings.modern
  let isParallel := settings.isParallel && files != 0
  let columns := if isParallel then files else settings.columns
  let hasFrame := settings.hasFrame && 10 < settings.pageLength
  let keepsFeeds := settings.keepsFeeds || (settings.hasFrame && !hasFrame)
  let bodyLines := if hasFrame then settings.pageLength - 10 else settings.pageLength
  let bodyLines := if settings.isDouble then bodyLines / 2 else bodyLines
  let isWide := 1 < columns
  let separator : ByteText :=
    if isWide then
      if !settings.hasSeparator then (if settings.joins then ['\t'] else [' '])
      else if !settings.joins && settings.separator = ['\t'] then [' ']
      else settings.separator
    else if settings.hasSeparator then settings.separator
    else []
  let hasSeparator := isWide || settings.hasSeparator
  let numberWidth :=
    if !settings.isNumbered then 0
    else if settings.numberMark = '\t' then tabAfter 8 settings.numberWidth
    else settings.numberWidth + 1
  let used := (if isParallel then numberWidth else 0) + (columns - 1) * separator.length
  let columnWidth := (settings.width - used) / columns
  if columnWidth < 1 then none
  else
    some
      { settings := { settings with isParallel := isParallel }
        columns := columns
        runsDown := isWide && !settings.runsAcross && !isParallel
        hasFrame := hasFrame, keepsFeeds := keepsFeeds
        bodyLines := max 1 bodyLines
        separator := separator
        hasSeparator := hasSeparator
        cuts := (settings.cuts || isWide) && !settings.joins
        expands := settings.expands || (isWide && separator != ['\t'])
        compresses := settings.compresses || isWide
        columnWidth := columnWidth
        numberWidth := numberWidth }

/-! ## Characters -/

/-- A character as it is shown at a column, and the column behind it. -/
def shownAt (layout : PageLayout) (column : Nat) (c : Char) : ByteText × Nat :=
  let octal : ByteText :=
    let digits := ByteText.digitsIn 8 c.toNat
    '\\' :: (List.replicate (3 - digits.length) '0' ++ digits)
  if c = layout.settings.inputTab.1 || c = '\t' then
    let size := if c = layout.settings.inputTab.1 then layout.settings.inputTab.2 else 8
    let stop := tabAfter size column
    (if layout.expands then List.replicate (stop - column) ' ' else [c], stop)
  else if isShown c then ([c], column + 1)
  else if layout.settings.showsOctal then (octal, column + 4)
  else if layout.settings.showsControl then
    if c.toNat < 128 then (['^', Char.ofNat (c.toNat ^^^ 64)], column + 2) else (octal, column + 4)
  else if c = '\x08' then (if column = 0 then [] else [c], column - 1)
  else ([c], column)

/-- The characters of a line from a column on, as many as there is room for. -/
def shownFrom (layout : PageLayout) : Nat → ByteText → List ByteText
  | _, [] => []
  | column, c :: cs =>
    let (shown, next) := shownAt layout column c
    if layout.cuts && layout.columnWidth < next then []
    else shown :: shownFrom layout next cs

/-- A number in so many columns, of which the last digits stay. -/
def numberText (width : Nat) (n : Int) : ByteText :=
  let digits := ByteText.ofInt n
  if width < digits.length then digits.drop (digits.length - width) else ByteText.padLeft width digits

/-- A line as it stands in a column, with its number if it has one. -/
def columnText (layout : PageLayout) (number : Option Int) (line : ByteText) : ByteText :=
  match number with
  | none => (shownFrom layout 0 line).flatten
  | some n =>
    let settings := layout.settings
    let mark : ByteText :=
      if settings.numberMark = '\t' && 1 < layout.columns then
        List.replicate (layout.numberWidth - settings.numberWidth) ' '
      else [settings.numberMark]
    let start := if layout.cuts && !settings.isParallel then layout.numberWidth else 0
    let shown : ByteText :=
      match line with
      | [] => []
      | c :: cs =>
        let (first, column) := shownAt layout 0 c
        if layout.cuts && layout.columnWidth < column then []
        else first ++ (shownFrom layout (column + start) cs).flatten
    numberText settings.numberWidth n ++ mark ++ shown

/-! ## Rows -/

/-- A row that is being written: its characters, the last one first, the column, the blanks and the
separators that are not written yet. -/
structure Row where
  chars : ByteText := []
  column : Int := 0
  blanks : Int := 0
  separators : Nat := 0

namespace Row

/-- A number of tabs and blanks that reach from a column to another one. -/
def blanksTo (tab : Char × Nat) (goal : Nat) : Nat → Nat → ByteText
  | 0, _ => []
  | fuel + 1, column =>
    if column + 1 < goal && tabAfter tab.2 column ≤ goal then
      tab.1 :: blanksTo tab goal fuel (tabAfter tab.2 column)
    else List.replicate (goal - column) ' '

/-- The row with its blanks written. -/
def settle (layout : PageLayout) (row : Row) : Row :=
  if row.blanks ≤ 0 then row
  else
    let goal := row.column + row.blanks
    let blanks := blanksTo layout.settings.outputTab goal.toNat (goal.toNat + 1) row.column.toNat
    { row with chars := blanks.reverse ++ row.chars, column := goal, blanks := 0 }

/-- The row with a character. -/
def push (layout : PageLayout) (row : Row) (c : Char) : Row :=
  if !layout.compresses then { row with chars := c :: row.chars }
  else if c = ' ' then { row with blanks := row.blanks + 1 }
  else
    let row := row.settle layout
    let column :=
      if isShown c then row.column + 1 else if c = '\x08' then row.column - 1 else row.column
    { row with chars := c :: row.chars, column := column }

/-- The row with blanks up to a column. -/
def padTo (layout : PageLayout) (row : Row) (column : Nat) : Row :=
  if layout.compresses then { row with blanks := (column : Int) - row.column }
  else
    { row with
      chars := List.replicate ((column : Int) - row.column).toNat ' ' ++ row.chars
      column := column }

/-- The row with the separator that is not written yet. -/
def separate (layout : PageLayout) (row : Row) : Row :=
  if row.separators = 0 then row.settle layout
  else
    let row := layout.separator.foldl (fun (row : Row) c =>
      if c = ' ' then { row with blanks := row.blanks + 1 }
      else
        let row := row.settle layout
        { row with chars := c :: row.chars, column := row.column + 1 }) row
    { row.settle layout with separators := 0 }

/-- The column at which the text of a column of the page starts. -/
def startOf (layout : PageLayout) (index : Nat) : Nat :=
  let separator := layout.separator.length
  let number := if layout.settings.isParallel then layout.numberWidth else 0
  if index = 0 then layout.settings.margin + separator
  else if !layout.cuts then 0
  else layout.settings.margin + number + index * (layout.columnWidth + separator)

/-- The row at the start of a column of the page. -/
def begin (layout : PageLayout) (row : Row) (index : Nat) : Row :=
  let start := startOf layout index
  let row :=
    if layout.separator.length < start then row.padTo layout (start - layout.separator.length)
    else row
  if layout.hasSeparator then row.separate layout else row

/-- The row after a column of the page. -/
def leave (layout : PageLayout) (row : Row) : Row :=
  if layout.hasSeparator then { row with separators := row.separators + 1 } else row

/-- The row with the text of a column. -/
def write (layout : PageLayout) (row : Row) (index : Nat) (text : ByteText) : Row :=
  text.foldl (Row.push layout) (row.begin layout index)

end Row

/-- The text of a row of columns, in which some may be missing. -/
def rowText (layout : PageLayout) (columns : List (Option ByteText)) : ByteText :=
  let isParallel := layout.settings.isParallel
  let (row, _) := columns.zipIdx.foldl (fun ((row, isEmpty) : Row × Bool) (column, index) =>
    match column with
    | some text =>
      let row :=
        if isParallel && isEmpty && 0 < index then
          (List.range index).foldl (fun row place => (row.begin layout place).leave layout)
            { row with separators := 0 }
        else row
      ((row.write layout index text).leave layout, false)
    | none =>
      let row := if isParallel && !isEmpty then row.begin layout index else row
      (row.leave layout, isEmpty)) (({}, true) : Row × Bool)
  row.chars.reverse ++ ['\n']

/-! ## Pages -/

/-- The lines of a part of a file in columns, as rows. -/
def rowsOf (layout : PageLayout) (lines : List ByteText) : List (List (Option ByteText)) :=
  let count := layout.columns
  if layout.runsDown then
    let sizes := (List.range count).map fun index =>
      lines.length / count + (if index < lines.length % count then 1 else 0)
    let (columns, _) := sizes.foldl (fun ((columns, rest) : List (List ByteText) × List ByteText) size =>
      (rest.take size :: columns, rest.drop size)) ([], lines)
    let columns := columns.reverse.map List.toArray
    (List.range (sizes.headD 0)).map fun row => columns.map fun column => column[row]?
  else
    let rec deal : Nat → List ByteText → List (List (Option ByteText))
      | 0, _ => []
      | fuel + 1, lines =>
        if lines.isEmpty then []
        else
          let row := (lines.take count).map some
          (row ++ List.replicate (count - row.length) none) :: deal fuel (lines.drop count)
    deal (lines.length + 1) lines

/-- The heading of a page. -/
def pageHeading (layout : PageLayout) (date name : ByteText) (page : Nat) : ByteText :=
  let number := ascii "Page " ++ ByteText.ofNat page
  let room := layout.settings.width - date.length - name.length - number.length
  let left := room / 2
  let blanks (count : Nat) : ByteText := List.replicate (max 1 count) ' '
  ascii "\n\n" ++ List.replicate layout.settings.margin ' ' ++ date ++ blanks left ++ name
    ++ blanks (room - left) ++ number ++ ascii "\n\n\n"

/-- A page of some rows. -/
def pageText (layout : PageLayout) (heading : ByteText) (rows : List (List (Option ByteText))) :
    ByteText :=
  let isDouble := layout.settings.isDouble
  let body := (rows.map fun row =>
    rowText layout row ++ (if isDouble then ['\n'] else [])).flatten
  if !layout.hasFrame then body
  else
    let used := if isDouble then 2 * rows.length else rows.length
    let room := if isDouble then 2 * layout.bodyLines else layout.bodyLines
    let footer :=
      if layout.settings.feeds then ['\x0c'] else List.replicate (room - used + 5) '\n'
    heading ++ body ++ footer

/-- The parts of a text between form feeds.  One right behind a full page counts for nothing. -/
def partsOf (text : ByteText) : List ByteText :=
  let parts := ByteText.splitAt '\x0c' text
  if 1 < parts.length && parts.getLast? = some [] then parts.dropLast else parts

/-- Things in groups of so many.  Each step takes a group. -/
def groupsBy {α : Type} (size : Nat) : Nat → List α → List (List α)
  | 0, _ => []
  | fuel + 1, items =>
    if items.isEmpty then [] else items.take size :: groupsBy size fuel (items.drop size)

/-- The pages of a file, each as its rows. -/
def pagesOf (layout : PageLayout) (text : ByteText) : List (List (List (Option ByteText))) :=
  let settings := layout.settings
  let (pages, _) := (partsOf text).foldl
    (fun ((pages, number) : List (List (List (List (Option ByteText)))) × Int) part =>
      let lines := (ByteText.lines part).map ByteText.Line.text
      let shown := lines.zipIdx.map fun (line, index) =>
        columnText layout (if settings.isNumbered then some (number + index) else none) line
      let size := layout.bodyLines * layout.columns
      let groups := groupsBy size (shown.length + 1) shown
      let groups := if groups.isEmpty && 1 < (partsOf text).length then [[]] else groups
      (groups.map (rowsOf layout) :: pages, number + lines.length)) ([], settings.firstNumber)
  pages.reverse.flatten

/-- The pages of files next to each other. -/
def parallelPages (layout : PageLayout) (texts : List ByteText) :
    List (List (List (Option ByteText))) :=
  let columns := texts.map fun text =>
    ((ByteText.lines text).map ByteText.Line.text).toArray
  let count := (columns.map Array.size).foldl max 0
  let settings := layout.settings
  let rows := (List.range count).map fun row =>
    columns.zipIdx.map fun (column, index) =>
      column[row]?.map fun line =>
        columnText layout
          (if settings.isNumbered && index = 0 then some (settings.firstNumber + row) else none) line
  groupsBy layout.bodyLines (rows.length + 1) rows

/-- Writes the pages that are wanted. -/
def showPages (layout : PageLayout) (name : ByteText) (moment : Int)
    (pages : List (List (List (Option ByteText)))) : Program Unit := do
  let settings := layout.settings
  let date := Calendar.write settings.dateFormat (moment / 1000000000)
  let name := settings.heading.getD name
  if pages.length < settings.firstPage && 1 < settings.firstPage then
    Program.complain (ascii "starting page number " ++ ByteText.ofNat settings.firstPage
      ++ ascii " exceeds page count " ++ ByteText.ofNat pages.length)
  else
    Program.each (pages.zipIdx 1) fun (rows, page) => do
      if settings.firstPage ≤ page && settings.lastPage.all fun last => page ≤ last then
        Program.out (pageText layout (pageHeading layout date name page) rows)
        if layout.keepsFeeds && page < pages.length && rows.length < layout.bodyLines then
          Program.out ['\x0c']

/-- When a file was changed that is laid out. -/
def momentOf (file : ByteText) : Program Int := do
  if file = ['-'] then return (← get).tree.now
  else return ((← Program.marksOf file).map FileMarks.changed).getD (← get).tree.now

/-- The texts of files that can be read, with their names, and a code. -/
def readPagesOf (settings : PageSettings) (files : List ByteText) :
    Program (List (ByteText × ByteText) × Nat) := do
  let (texts, code) ← files.foldlM
    (fun ((texts, code) : List (ByteText × ByteText) × Nat) file => do
      match ← Program.readOperand file with
      | .ok text => return ((file, text) :: texts, code)
      | .error cause =>
        if !settings.isSilent then Program.complainOf file cause
        return (texts, 1)) ([], 0)
  return (texts.reverse, code)

/-- Lays out files. -/
def layOut (settings : PageSettings) (files : List ByteText) : Program Nat := do
  let named := if files.isEmpty then [['-']] else files
  match layoutOf? settings files.length with
  | none => Program.die 1 (ascii "page width too narrow")
  | some layout =>
    let shownName (file : ByteText) : ByteText := if file = ['-'] then [] else file
    let (texts, code) ← readPagesOf settings named
    if layout.settings.isParallel then
      match layoutOf? settings texts.length with
      | none => return code
      | some layout =>
        let name := if texts.length = 1 then shownName (named.headD []) else []
        let now := (← get).tree.now
        showPages layout name now (parallelPages layout (texts.map Prod.snd))
        return code
    else
      Program.each texts fun (file, text) => do
        showPages layout (shownName file) (← momentOf file) (pagesOf layout text)
      return code

/-- Lays out files on pages. -/
def pr : Tool :=
  Program.withArguments prRules {} prOption fun settings operands => do
    let isRange (word : ByteText) : Bool := word.head? = some '+'
    let range := (operands.filter isRange).head?
    let pages := range.bind fun word => readPages? (word.drop 1)
    let badNumber := range.filter fun word =>
      pages.isNone && !(word.drop 1).all fun c => c.isDigit || c = ':'
    match badNumber with
    | some word =>
      Program.die 1 (ascii "invalid + argument " ++ Program.quoted (word.drop 1))
    | none =>
      let files := if pages.isSome then operands.filter fun word => some word != range else operands
      let settings :=
        match pages with
        | some (first, last) => { settings with firstPage := first, lastPage := last }
        | none => settings
      if settings.hasColumns && settings.columns = 0 then
        Program.die 1 (ascii "invalid number of columns: '0': Numerical result out of range")
      else if settings.isParallel && settings.hasColumns then
        Program.die 1 (ascii "cannot specify number of columns when printing in parallel")
      else if settings.isParallel && settings.runsAcross then
        Program.die 1 (ascii "cannot specify both printing across and printing in parallel")
      else layOut settings files

end Tool

end SchemaDocs.Shell
