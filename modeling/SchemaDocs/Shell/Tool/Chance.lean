import SchemaDocs.Shell.Tool.Basic
/-!
# Lines by chance

Lines are chosen by numbers that random bytes give, each with the same chance.  What is
left of the bytes after a choice goes into the next one.
-/

namespace SchemaDocs.Shell

namespace Tool

/-! ## Random numbers -/

/-- Random bytes, and what is left of those that were read. -/
structure Luck where
  /-- The bytes of a source. -/
  bytes : ByteText := []
  /-- The state of a generator that gives bytes when there are none left. -/
  seed : Option Nat := none
  /-- A byte that a source gives for ever. -/
  filler : Option Char := none
  /-- A number that is left over, and the greatest one that it could have been. -/
  rest : Nat := 0
  most : Nat := 0

namespace Luck

/-- Takes a byte, if there is one. -/
def byte? (luck : Luck) : Option (Nat × Luck) :=
  match luck.bytes, luck.filler, luck.seed with
  | c :: bytes, _, _ => some (c.toNat, { luck with bytes := bytes })
  | [], some c, _ => some (c.toNat, luck)
  | [], none, some seed =>
    let seed := (seed * 6364136223846793005 + 1442695040888963407) % Nat.pow 2 64
    some (seed / Nat.pow 2 40 % 256, { luck with seed := some seed })
  | [], none, none => none

/-- Takes bytes until the number that is left over could have been at least some number.  Each step takes a
byte. -/
def extended? (least : Nat) : Nat → Luck → Option Luck
  | 0, luck => some luck
  | fuel + 1, luck =>
    if least ≤ luck.most then some luck
    else
      match luck.byte? with
      | none => none
      | some (byte, luck) =>
        extended? least fuel
          { luck with rest := luck.rest * 256 + byte, most := luck.most * 256 + 255 }

/-- A number below another one.  Each step is a try. -/
def chooseFrom? (count : Nat) : Nat → Luck → Option (Nat × Luck)
  | 0, luck => some (0, luck)
  | fuel + 1, luck => do
    let luck ← luck.extended? (count - 1) 9
    if luck.most = count - 1 then some (luck.rest, { luck with rest := 0, most := 0 })
    else
      let excess := luck.most - (count - 1)
      let unusable := excess % count
      let last := luck.most - unusable
      if luck.rest ≤ last then
        some (luck.rest % count, { luck with rest := luck.rest / count, most := excess / count })
      else chooseFrom? count fuel { luck with rest := luck.rest - (last + 1), most := unusable - 1 }

/-- A number below another one. -/
def choose? (luck : Luck) (count : Nat) : Option (Nat × Luck) := luck.chooseFrom? count 10000

/-- Puts things chosen by chance to the front, one after the other. -/
def shuffleFrom? {α : Type} : Nat → Nat → Array α → Luck → Option (Array α)
  | 0, _, items, _ => some items
  | wanted + 1, place, items, luck =>
    match luck.choose? (items.size - place) with
    | none => none
    | some (offset, luck) =>
      shuffleFrom? wanted (place + 1) (items.swapIfInBounds place (place + offset)) luck

/-- Some things chosen by chance, none of them twice. -/
def shuffled? {α : Type} (luck : Luck) (wanted : Nat) (items : Array α) : Option (List α) :=
  (shuffleFrom? (min wanted items.size) 0 items luck).map fun items => items.toList.take wanted

/-- Keeps some of many things, where each further one may take the place of one that is kept.  A place is
chosen before it is known whether there is a further one. -/
def sampleFrom? {α : Type} (wanted : Nat) :
    Nat → List α → Array α → Luck → Option (Array α × Luck)
  | count, [], kept, luck => (luck.choose? (count + 1)).map fun (_, luck) => (kept, luck)
  | count, item :: items, kept, luck =>
    match luck.choose? (count + 1) with
    | none => none
    | some (place, luck) =>
      sampleFrom? wanted (count + 1) items
        (if place < wanted then kept.setIfInBounds place item else kept) luck

/-- Things chosen by chance that may be chosen again. -/
def repeated? {α : Type} (items : Array α) : Nat → Luck → List α → Option (List α)
  | 0, _, taken => some taken.reverse
  | count + 1, luck, taken =>
    match luck.choose? items.size with
    | none => none
    | some (place, luck) =>
      match items[place]? with
      | some item => repeated? items count luck (item :: taken)
      | none => some taken.reverse

end Luck

/-! ## Shuffling -/

/-- How lines are chosen. -/
structure ShuffleSettings where
  takesWords : Bool := false
  range : Option (Nat × Nat) := none
  count : Option Nat := none
  output : Option ByteText := none
  source : Option ByteText := none
  isRepeating : Bool := false
  terminator : Char := '\n'

/-- The options of the program that shuffles. -/
def shuffleRules : OptionRules :=
  { forms :=
    [.both 'e' "echo", .both 'i' "input-range" .required, .both 'n' "head-count" .required,
     .both 'o' "output" .required, .word "random-source" .required, .both 'r' "repeat",
     .both 'z' "zero-terminated", .word "help", .word "version"] }

/-- Settings with something that can be given once, or given again. -/
def chooseOnce {σ : Type} (old : Option ByteText) (argument : ByteText) (noun : String)
    (settings : σ) : Program (Except Nat σ) := do
  if old.any (· != argument) then
    return .error (← Program.die 1 (ascii ("multiple " ++ noun ++ " specified")))
  else return .ok settings

/-- Settings after an option of the program that shuffles. -/
def shuffleOption (settings : ShuffleSettings) (key : String) (argument : ByteText) :
    Program (Except Nat ShuffleSettings) := do
  let refuse : Program Nat := Program.die 1 (ascii "invalid input range: " ++ Program.quoted argument)
  match key with
  | "e" => return .ok { settings with takesWords := true }
  | "r" => return .ok { settings with isRepeating := true }
  | "z" => return .ok { settings with terminator := '\x00' }
  | "o" =>
    chooseOnce settings.output argument "output files" { settings with output := some argument }
  | "random-source" =>
    chooseOnce settings.source argument "random sources" { settings with source := some argument }
  | "n" =>
    match ByteText.toNat? argument with
    | some count =>
      return .ok { settings with count := some (min count (settings.count.getD count)) }
    | none => return .error (← Program.die 1 (ascii "invalid line count: " ++ Program.quoted argument))
  | "i" =>
    if settings.range.isSome then
      return .error (← Program.die 1 (ascii "multiple -i options specified"))
    else
      let low := argument.takeWhile (· != '-')
      let high := argument.drop (low.length + 1)
      match ByteText.toNat? low, ByteText.toNat? high with
      | some first, some last =>
        if first ≤ last + 1 then return .ok { settings with range := some (first, last + 1) }
        else return .error (← refuse)
      | _, _ => return .error (← refuse)
  | _ => return .ok settings

/-- Random bytes from a source, or from a generator. -/
def luckFrom (source : Option ByteText) : Program (Except FileError Luck) := do
  match source with
  | none =>
    let world ← get
    return .ok { seed := some (world.milliseconds + world.tree.clock + world.channels.size) }
  | some path =>
    match ← Program.openInput path with
    | .error cause => return .error cause
    | .ok channel =>
      match ← System.pending channel with
      | (_, .endless piece) => return .ok { filler := piece.head? }
      | (text, _) => return .ok { bytes := text }

/-- The number of lines after which a choice without end begins anew. -/
def cycleLength : Nat := 4096

/-- Writes lines that were chosen, or tells that the random bytes came to an end. -/
def writeChosen (settings : ShuffleSettings) (lines : Option (List ByteText)) : Program Nat := do
  match lines with
  | none =>
    Program.die 1 (Program.quoted (settings.source.getD []) ++ ascii ": end of file")
  | some lines =>
    let text := (lines.map fun line => line ++ [settings.terminator]).flatten
    let isEndless := settings.isRepeating && settings.count.isNone
    match settings.output with
    | none =>
      if isEndless then Program.outForever text else Program.out text
      return 0
    | some path =>
      match ← Program.openOutput path false with
      | .error cause =>
        Program.complainOf path cause
        return 1
      | .ok channel =>
        if isEndless then Program.noteFault (← System.writeForever channel text)
        else Program.noteFault (← System.write channel text)
        return 0

/-- The lines that are chosen from, and whether they were read without a known number of them. -/
def shuffledLines (settings : ShuffleSettings) (operands : List ByteText) :
    Program (Except Nat (List ByteText × Bool)) := do
  if settings.count = some 0 then return .ok ([], false)
  else if settings.takesWords then return .ok (operands, false)
  else
    match settings.range with
    | some (first, stop) =>
      return .ok ((List.range (stop - first)).map fun n => ByteText.ofNat (first + n), false)
    | none =>
      let path := operands.head?.getD ['-']
      match ← Program.readOperand path with
      | .error cause =>
        Program.complain (if cause = .isADirectory then ascii ("read error: " ++ cause.reason)
          else Quoting.whereNeeded path ++ ascii (": " ++ cause.reason))
        return .error 1
      | .ok text =>
        let isSeekable ←
          if path != ['-'] then pure true
          else do
            match ← Program.descriptor? 0 with
            | none => pure false
            | some channel =>
              match ← System.channel? channel with
              | some (.file ..) => pure true
              | _ => pure false
        let lines := (ByteText.linesEndedBy settings.terminator text).map ByteText.Line.text
        return .ok (lines, !isSeekable)

/-- Writes lines in an order given by chance. -/
def shuffleWith (settings : ShuffleSettings) (operands : List ByteText) : Program Nat := do
  match ← shuffledLines settings operands with
  | .error code => return code
  | .ok (lines, isUncounted) =>
    match ← luckFrom settings.source with
    | .error cause =>
      Program.complainOf (settings.source.getD []) cause
      return 1
    | .ok luck =>
      let items := lines.toArray
      if settings.isRepeating then
        if settings.count = some 0 then writeChosen settings (some [])
        else if lines.isEmpty then Program.die 1 (ascii "no lines to repeat")
        else
          writeChosen settings (luck.repeated? items (settings.count.getD cycleLength) [])
      else
        match settings.count with
        | some wanted =>
          if isUncounted && wanted ≤ items.size then
            match Luck.sampleFrom? wanted wanted (lines.drop wanted) (items.extract 0 wanted) luck with
            | none => writeChosen settings none
            | some (kept, luck) => writeChosen settings (luck.shuffled? wanted kept)
          else writeChosen settings (luck.shuffled? wanted items)
        | none => writeChosen settings (luck.shuffled? items.size items)

/-- Writes lines, words or numbers in an order given by chance. -/
def shuf : Tool :=
  Program.withArguments shuffleRules {} shuffleOption fun settings operands => do
    let misuse (text : ByteText) : Program Nat := Program.misuse 1 text
    if settings.takesWords && settings.range.isSome then
      misuse (ascii "cannot combine -e and -i options")
    else
      match settings.range, settings.takesWords, operands with
      | some _, _, operand :: _ => Program.extraOperand operand
      | none, false, _ :: operand :: _ => Program.extraOperand operand
      | _, _, _ => shuffleWith settings operands

end Tool

end SchemaDocs.Shell
