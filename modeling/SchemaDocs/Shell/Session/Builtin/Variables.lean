import SchemaDocs.Shell.Session.Builtin.Basic
import SchemaDocs.Shell.Session.Expand
/-!
# Commands of the shell that change what it knows

Variables with their marks, arguments, options of the shell and options of scripts.
-/

namespace SchemaDocs.Shell

namespace Builtin

/-- The variables of the session in order of their names. -/
def sortedVariables : Action (List (ByteText × Variable)) := do
  return (← Action.session).bindings.mergeSort fun a b => ByteText.isBefore a.1 b.1

/-- Lists the variables with a mark, as commands that would set it. -/
def listMarked (command : String) (isMarked : Variable → Bool) : Action Unit := do
  (← sortedVariables).forM fun (name, known) => do
    if isMarked known then
      let value :=
        match known.value with
        | some value => ['='] ++ quoted value
        | none => []
      outLine (ascii command ++ [' '] ++ name ++ value)

/-- Gives variables a mark, and values where they are assigned. -/
def mark (command : String) (isMarked : Variable → Bool) (setMark : Variable → Variable)
    (arguments : List ByteText) : Action Nat := do
  let (options, operands) ← options "p" arguments
  if operands.isEmpty || options.any (fun option => option.1 = 'p') then
    listMarked command isMarked
  else
    operands.forM fun argument => do
      let (name, value) := assignment argument
      requireName name argument
      match value with
      | some value => Action.assign name value
      | none => pure ()
      Action.putVariable name (some (setMark ((← Action.variableOf? name).getD {})))
  return 0

/-- Variables of a function of their own, which get values where they are assigned. -/
def makeLocal (arguments : List ByteText) : Action Nat := do
  match (← Action.session).hidden with
  | [] => Action.fail (ascii "not in a function")
  | scope :: outer =>
    let _ ← pure (scope, outer)
    arguments.forM fun argument => do
      let (name, value) := assignment argument
      requireName name argument
      let old ← Action.variableOf? name
      Action.change fun session =>
        { session with
          hidden :=
            match session.hidden with
            | scope :: outer => ((name, old) :: scope) :: outer
            | [] => [] }
      match value with
      | some value => Action.assign name value
      | none => pure ()
    return 0

/-- Takes variables or functions away. -/
def unset (arguments : List ByteText) : Action Nat := do
  let (options, operands) ← options "vf" arguments
  let isFunction := (options.getLast?.map Prod.fst) = some 'f'
  operands.forM fun name => do
    if isFunction then
      Action.change fun session =>
        { session with functions := session.functions.filter fun entry => entry.1 != name }
    else
      requireName name name
      Action.unassign name
  return 0

/-- Drops arguments. -/
def shift (arguments : List ByteText) : Action Nat := do
  let count ← match arguments with
    | [] => pure 1
    | text :: _ => number text
  if (← Action.session).arguments.length < count then
    Action.fail (ascii "can't shift that many")
  else
    Action.change fun session => { session with arguments := session.arguments.drop count }
    return 0

/-! ## Options of the shell -/

/-- The options of the shell by name. -/
def optionNames : List (String × Char) :=
  [("errexit", 'e'), ("noglob", 'f'), ("ignoreeof", 'I'), ("interactive", 'i'), ("monitor", 'm'),
   ("noexec", 'n'), ("stdin", 's'), ("xtrace", 'x'), ("verbose", 'v'), ("vi", 'V'),
   ("emacs", 'E'), ("noclobber", 'C'), ("allexport", 'a'), ("notify", 'b'), ("nounset", 'u'),
   ("privileged", 'p'), ("nolog", '0'), ("debug", '1')]

/-- The letters that set options of the shell. -/
def optionLetters : ByteText := ascii "efIimnsxvVECabup"

/-- Sets an option of the shell or takes it back. -/
def putOption (isOn : Bool) (letter : Char) : Action Unit :=
  Action.change fun session =>
    let others := session.options.filter (· != letter)
    { session with options := if isOn then letter :: others else others }

/-- Lists the options of the shell. -/
def listOptions (isOn : Bool) : Action Unit := do
  let session ← Action.session
  if isOn then
    outLine (ascii "Current option settings")
    optionNames.forM fun (name, letter) =>
      outLine (ByteText.padRight 16 (ascii name)
        ++ ascii (if session.options.contains letter then "on" else "off"))
  else
    optionNames.forM fun (name, letter) =>
      outLine (ascii (if session.options.contains letter then "set -o " else "set +o ")
        ++ ascii name)

/-- Sets options of the shell by the letters behind a sign.  Each step takes a letter.  What follows
is given back. -/
def putLetters (isOn : Bool) : ByteText → List ByteText → Action (List ByteText)
  | [], rest => return rest
  | 'o' :: letters, rest => do
    match rest with
    | [] =>
      listOptions isOn
      putLetters isOn letters []
    | name :: rest =>
      match optionNames.find? fun entry => ascii entry.1 = name with
      | some (_, letter) =>
        putOption isOn letter
        putLetters isOn letters rest
      | none => Action.fail (ascii "Illegal option -o " ++ name)
  | letter :: letters, rest => do
    if optionLetters.contains letter then
      putOption isOn letter
      putLetters isOn letters rest
    else Action.fail (ascii "Illegal option -" ++ [letter])

/-- Sets options of the shell from arguments.  What follows them is given back, if it is to become
the arguments.  Each step takes an argument. -/
def putOptions : Nat → List ByteText → Action (Option (List ByteText))
  | 0, _ => return none
  | _ + 1, [] => return none
  | fuel + 1, argument :: rest => do
    match argument with
    | ['-', '-'] => return some rest
    | ['-'] =>
      putOption false 'x'
      putOption false 'v'
      return if rest.isEmpty then none else some rest
    | '-' :: letters => putOptions fuel (← putLetters true letters rest)
    | '+' :: letters => putOptions fuel (← putLetters false letters rest)
    | _ => return some (argument :: rest)

/-- Lists variables, or sets options of the shell and its arguments. -/
def set (arguments : List ByteText) : Action Nat := do
  if arguments.isEmpty then
    (← sortedVariables).forM fun (name, known) => do
      match known.value with
      | some value => outLine (name ++ ['='] ++ quoted value)
      | none => pure ()
  else
    match ← putOptions (arguments.length + 1) arguments with
    | some operands => Action.change fun session => { session with arguments := operands }
    | none => pure ()
  return 0

/-! ## Options of scripts -/

/-- Writes a message as it is. -/
def plainError (text : ByteText) : Action Unit := Action.program (Program.err (text ++ ['\n']))

/-- Says what is wrong with an option of a script. -/
def warnOfOption (sh bash : String) (letter : Char) : Action Unit := do
  if ← Action.isBash then
    if (← Action.value? (ascii "OPTERR")) != some ['0'] then
      plainError ((← Action.session).name ++ ascii ": " ++ ascii bash ++ ascii " -- " ++ [letter])
  else plainError (ascii sh)

/-- Reads the next option of a script into a variable. -/
def nextOption (arguments : List ByteText) : Action Nat := do
  match arguments with
  | letters :: name :: rest =>
    let session ← Action.session
    let operands := if rest.isEmpty then session.arguments else rest
    let place :=
      ((((← Action.value? (ascii "OPTIND")).bind ByteText.toNat?).getD 1) - 1)
    let isQuiet := letters.head? = some ':'
    let before : ByteText :=
      if place = 0 then [] else ((operands[place - 1]?).getD []).drop session.optionOffset
    let finish (status place offset : Nat) (letter : Char) (value : Option ByteText) :
        Action Nat := do
      match value with
      | some value => Action.assign (ascii "OPTARG") value
      | none => Action.unassign (ascii "OPTARG")
      Action.assign (ascii "OPTIND") (ByteText.ofNat (place + 1))
      Action.change fun session => { session with optionOffset := offset }
      requireName name name
      Action.assign name [letter]
      return status
    let start : Option (ByteText × Nat) :=
      if !before.isEmpty && session.optionOffset != 0 then some (before, place)
      else
        match operands[place]? with
        | some ('-' :: c :: cs) => if c = '-' && cs.isEmpty then none else some (c :: cs, place + 1)
        | _ => none
    match start with
    | none =>
      let place := if operands[place]? = some ['-', '-'] then place + 1 else place
      let old ← Action.value? (ascii "OPTARG")
      finish 1 place 0 '?' old
    | some ([], _) => finish 1 place 0 '?' none
    | some (c :: cs, place) =>
      let offset := (((operands[place - 1]?).getD []).length) - cs.length
      match letters.dropWhile (· != c) with
      | [] =>
        if isQuiet then finish 0 place offset '?' (some [c])
        else
          warnOfOption ("Illegal option -" ++ String.singleton c) "illegal option" c
          finish 0 place offset '?' none
      | _ :: ':' :: _ =>
        if !cs.isEmpty then finish 0 place 0 c (some cs)
        else
          match operands[place]? with
          | some value => finish 0 (place + 1) 0 c (some value)
          | none =>
            if isQuiet then finish 0 place 0 ':' (some [c])
            else
              warnOfOption ("No arg for -" ++ String.singleton c ++ " option")
                "option requires an argument" c
              finish 0 place 0 '?' none
      | _ => finish 0 place offset c (some [])
  | _ => Action.fail (ascii "Usage: getopts optstring var [arg...]")

/-- The commands that change what the shell knows. -/
def variableBuiltins : List Builtin :=
  [{ name := "export", isSpecial := true, assigns := true
     run := fun _ => mark "export" Variable.isExported fun known =>
      { known with isExported := true } },
   { name := "readonly", isSpecial := true, assigns := true
     run := fun _ => mark "readonly" Variable.isReadOnly fun known =>
      { known with isReadOnly := true } },
   { name := "local", isSpecial := true, assigns := true, run := fun _ => makeLocal },
   { name := "unset", isSpecial := true, run := fun _ => unset },
   { name := "shift", isSpecial := true, run := fun _ => shift },
   { name := "set", isSpecial := true, run := fun _ => set },
   { name := "getopts", run := fun _ => nextOption }]

end Builtin

end SchemaDocs.Shell

/-!
## Declarations

Commands of the shell with more features that say what variables are: arrays, numbers,
letters in one case, names of others, variables of a function, and variables that are
handed on or that must not change.
-/

namespace SchemaDocs.Shell

namespace Declaration

/-- What is to be done with variables. -/
structure Plan where
  on : List Char := []
  off : List Char := []
  /-- Whether messages about variables that must not change leave out the command. -/
  isBare : Bool := false

/-- Reads the options of a declaration.  Each step takes an argument. -/
def readPlan (letters : ByteText) (plan : Plan) : List ByteText → Action (Plan × List ByteText)
  | [] => return (plan, [])
  | argument :: rest => do
    let put (sign : Char) (given : ByteText) : Action Unit := do
      match given.find? fun c => !letters.contains c with
      | some c => Usage.refuse ([sign, c] ++ ascii ": invalid option")
      | none => return ()
    match argument with
    | ['-', '-'] => return (plan, rest)
    | '-' :: c :: cs =>
      put '-' (c :: cs)
      readPlan letters { plan with on := plan.on ++ (c :: cs) } rest
    | '+' :: c :: cs =>
      put '+' (c :: cs)
      readPlan letters { plan with off := plan.off ++ (c :: cs) } rest
    | _ => return (plan, argument :: rest)

/-- A variable after marks were set and taken back. -/
def marked (plan : Plan) (known : Variable) : Variable :=
  let mark (letter : Char) (old : Bool) : Bool :=
    if plan.on.contains letter then true
    else if plan.off.contains letter then false
    else old
  let letterCase : Option CaseChange :=
    if plan.on.contains 'u' then some .upper
    else if plan.on.contains 'l' then some .lower
    else if plan.on.contains 'c' then some .swap
    else if plan.off.contains 'u' || plan.off.contains 'l' then none
    else known.letterCase
  let elements : Option Elements :=
    match known.elements with
    | some elements => some elements
    | none =>
      let first : List (Nat × ByteText) := (known.value.map fun text => [(0, text)]).getD []
      if plan.on.contains 'A' then
        some (.table (first.map fun (_, text) => (['0'], text)))
      else if plan.on.contains 'a' then some (.list first)
      else none
  { known with
    elements := elements
    value := if elements.isSome then none else known.value
    isNumber := mark 'i' known.isNumber
    isExported := mark 'x' known.isExported
    isPointer := mark 'n' known.isPointer
    letterCase := letterCase }

/-- The parts of an argument that declares: the name, the place in an array, and the value with
whether it goes behind the one there. -/
structure Operand where
  name : ByteText
  place : Option ByteText
  value : Option (Bool × ByteText)

/-- The parts of an argument that declares. -/
def Operand.ofText (text : ByteText) : Operand :=
  let head := text.takeWhile (· != '=')
  let (target, value) : ByteText × Option (Bool × ByteText) :=
    match text.drop head.length with
    | [] => (head, none)
    | _ :: value =>
      if head.getLast? = some '+' then (head.dropLast, some (true, value))
      else (head, some (false, value))
  let (name, place) := Calculation.splitName target
  ⟨name, place, value⟩

/-- Keeps what is known of a variable until the function ends that is running. -/
def hide (name : ByteText) : Action Unit := do
  let old ← Action.pointer? name
  Action.change fun session =>
    { session with
      hidden :=
        match session.hidden with
        | scope :: outer =>
          if scope.any fun entry => entry.1 = name then scope :: outer
          else ((name, old) :: scope) :: outer
        | [] => [] }

/-- Makes a variable one of the function that is running. -/
def makeOwn (inherits : Bool) (name : ByteText) : Action Unit := do
  let isOwn := ((← Action.session).hidden.head?.getD []).any fun entry => entry.1 = name
  if !isOwn then
    hide name
    let old := (← Action.pointer? name).getD {}
    if old.isReadOnly then Action.failWith 1 (name ++ ascii ": readonly variable")
    let own : Variable := if inherits then old else { isExported := old.isExported }
    Action.putVariable name (some own)

/-- Declares a variable, and tells whether that worked. -/
def declare (plan : Plan) (isOwn : Bool) (text : ByteText) : Action Bool := do
  let operand := Operand.ofText text
  let refuse (text : ByteText) : Action Bool := do
    Action.warn text
    return false
  if !isName operand.name then
    refuse (['\x60'] ++ text ++ ascii "': not a valid identifier")
  else
    if isOwn then makeOwn (plan.on.contains 'I') operand.name
    let pointsNow := plan.on.contains 'n' || plan.off.contains 'n'
    let name ← if pointsNow then pure operand.name else Action.target operand.name
    let known := (← Action.pointer? name).getD {}
    if known.isReadOnly && (operand.value.isSome || plan.off.contains 'r') then
      if plan.isBare then Action.refuseChange name
      else refuse (name ++ ascii ": readonly variable")
    else
      Action.putVariable name (some (marked plan known))
      match operand.value with
      | none => pure ()
      | some (appends, value) =>
        if plan.on.contains 'n' then
          Action.putVariable name
            (some { (← Action.pointer? name).getD {} with value := some value })
        else
          let place ← match operand.place with
            | some place => pure (some (← Calculation.placeOf name place))
            | none => pure none
          Assignment.assignText name place appends value
      if plan.on.contains 'r' then
        Action.putVariable name
          (some { (← Action.pointer? name).getD {} with isReadOnly := true })
      return true

/-- Declares variables one after the other.  The status tells whether all of that worked. -/
def declareAll (plan : Plan) (isOwn : Bool) (operands : List ByteText) : Action Nat :=
  operands.foldlM (fun status text => do
    return if ← declare plan isOwn text then status else 1) 0

/-! ### Lists -/

/-- Lists variables as commands that would declare them. -/
def list (isListed : Variable → Bool) : Action Unit := do
  (← Builtin.sortedVariables).forM fun (name, known) => do
    if isListed known then Builtin.outLine (Expansion.declaration name known)

/-- Whether a variable has all of some marks. -/
def hasMarks (letters : List Char) (known : Variable) : Bool :=
  letters.all fun letter =>
    letter = 'p' || letter = 'g' || (Expansion.letters known).contains letter

/-- Tells how variables were declared. -/
def tell (operands : List ByteText) : Action Nat :=
  operands.foldlM (fun status name => do
    let computed ← Action.computed? name
    let known ← if computed.isSome then pure computed else Action.pointer? name
    match known with
    | some known =>
      Builtin.outLine (Expansion.declaration name known)
      return status
    | none =>
      Action.warn (name ++ ascii ": not found")
      return 1) 0

/-- Tells which functions there are. -/
def tellFunctions (namesOnly : Bool) (operands : List ByteText) : Action Nat := do
  let functions := (← Action.session).functions
  if operands.isEmpty then
    (functions.map Prod.fst |>.mergeSort ByteText.isBefore).forM fun name =>
      Builtin.outLine (ascii "declare -f " ++ name)
    return 0
  else
    operands.foldlM (fun status name => do
      if functions.any fun entry => entry.1 = name then
        if namesOnly then Builtin.outLine name
        return status
      else return 1) 0

/-- Lists all variables with their values. -/
def listValues : Action Unit := do
  (← Builtin.sortedVariables).forM fun (name, known) => do
    match known.elements, known.value with
    | some elements, _ => Builtin.outLine (name ++ ['='] ++ Expansion.writtenElements elements)
    | none, some value => Builtin.outLine (name ++ ['='] ++ Quoted.listed value)
    | none, none => return ()

/-! ### Commands -/

/-- Declares variables. -/
def declareBuiltin (isLocal : Bool) (arguments : List ByteText) : Action Nat := do
  let session ← Action.session
  if isLocal && session.callers.isEmpty then
    Action.failWith 1 (ascii "can only be used in a function")
  let (plan, operands) ← readPlan (ascii "aAfFgiIlnprtuxc") {} arguments
  if plan.on.contains 'f' || plan.on.contains 'F' then
    tellFunctions (plan.on.contains 'F') operands
  else if operands.isEmpty then
    if plan.on.isEmpty && plan.off.isEmpty then listValues
    else list (hasMarks plan.on)
    return 0
  else if plan.on.contains 'p' then tell operands
  else declareAll plan (!session.callers.isEmpty && !plan.on.contains 'g') operands

/-- Hands variables on, or does so no more. -/
def exportBuiltin (arguments : List ByteText) : Action Nat := do
  let (options, operands) ← Usage.options "fnp" arguments
  if Usage.has options 'f' then return 0
  else if operands.isEmpty then
    list Variable.isExported
    return 0
  else if Usage.has options 'n' then declareAll { off := ['x'], isBare := true } false operands
  else declareAll { on := ['x'], isBare := true } false operands

/-- Lets variables not change any more. -/
def readonlyBuiltin (arguments : List ByteText) : Action Nat := do
  let (options, operands) ← Usage.options "aAfp" arguments
  if Usage.has options 'f' then return 0
  else if operands.isEmpty then
    list Variable.isReadOnly
    return 0
  else
    let kinds := (options.map Prod.fst).filter fun c => c = 'a' || c = 'A'
    declareAll { on := 'r' :: kinds, isBare := true } false operands

/-- Takes away an element of an array, or all of them. -/
def unsetElement (name place : ByteText) : Action Unit := do
  let name ← Action.target name
  match ← Action.variableOf? name with
  | none => return ()
  | some known =>
    if known.isReadOnly then
      Action.failWith 1 (name ++ ascii ": cannot unset: readonly variable")
    else
      match known.elements, place with
      | some (.list _), ['@'] =>
        Action.putVariable name (some { known with elements := some (.list []) })
      | some elements, place =>
        let place ← Calculation.placeOf name place
        Action.putVariable name (some { known with elements := some (elements.erase place) })
      | none, _ => Action.failWith 1 (name ++ ascii ": not an array variable")

/-- Takes away a variable, an element of an array or a function. -/
def unsetOne (options : List (Char × ByteText)) (text : ByteText) : Action Unit := do
  let (name, place) := Calculation.splitName text
  let dropFunction : Action Unit :=
    Action.change fun session =>
      { session with functions := session.functions.filter fun entry => entry.1 != text }
  if Usage.has options 'f' then dropFunction
  else
    match place with
    | some place => unsetElement name place
    | none =>
      if !isName name then
        if Usage.has options 'v' then Usage.requireName name text else dropFunction
      else
        let name ← if Usage.has options 'n' then pure name else Action.target name
        if (← Action.pointer? name).isSome then Action.unassign name
        else if Usage.has options 'v' then return ()
        else dropFunction

/-- Takes away variables, elements of arrays or functions. -/
def unsetBuiltin (arguments : List ByteText) : Action Nat := do
  let (options, operands) ← Usage.options "fvn" arguments
  operands.foldlM (fun status text => do
    match ← Action.tried (unsetOne options text) with
    | .ok () => return status
    | .error .fault => return 1
    | .error jump => throw jump) 0

/-- Works out expressions.  The last one has to be other than zero. -/
def letBuiltin (arguments : List ByteText) : Action Nat := do
  let arguments := match arguments with
    | ['-', '-'] :: rest => rest
    | rest => rest
  if arguments.isEmpty then Action.failWith 1 (ascii "expression expected")
  else
    let name := (← Action.session).commandName
    arguments.foldlM (fun _ text => do
      match ← Calculation.evaluate? name text with
      | some value => return if value = 0 then 1 else 0
      | none => Action.setStatus 1; throw .fault) 0

/-- Drops arguments. -/
def shiftBuiltin (arguments : List ByteText) : Action Nat := do
  let count ← match arguments with
    | [] => pure 1
    | [text] => Usage.number text 1
    | text :: _ :: _ =>
      let _ ← Usage.number text 1
      Action.passLine (ascii "too many arguments")
  if count < 0 then
    Action.failWith 1 (ByteText.ofInt count ++ ascii ": shift count out of range")
  else if ((← Action.session).arguments.length : Int) < count then return 1
  else
    Action.change fun session =>
      { session with arguments := session.arguments.drop count.toNat }
    return 0

/-! ### Options of the shell -/

/-- The letters that set options of the shell. -/
def optionLetters : ByteText := ascii "abefhkmnptuvxBCEHPT"

/-- Lists the options of the shell. -/
def listOptions (asCommands : Bool) : Action Unit := do
  let session ← Action.session
  Setting.options.forM fun (name, letter) => do
    let isOn := session.options.contains letter
    if asCommands then
      Builtin.outLine (ascii (if isOn then "set -o " else "set +o ") ++ ascii name)
    else
      Builtin.outLine (ByteText.padRight 15 (ascii name) ++ ['\t']
        ++ ascii (if isOn then "on" else "off"))

/-- Sets options of the shell by the letters behind a sign, and gives what follows. -/
def putLetters (isOn : Bool) : ByteText → List ByteText → Action (List ByteText)
  | [], rest => return rest
  | 'o' :: letters, rest => do
    match rest with
    | [] =>
      listOptions !isOn
      putLetters isOn letters []
    | name :: rest =>
      match Setting.options.find? fun entry => ascii entry.1 = name with
      | some (_, letter) =>
        Builtin.putOption isOn letter
        putLetters isOn letters rest
      | none => Action.failWith 2 (name ++ ascii ": invalid option name")
  | letter :: letters, rest => do
    if optionLetters.contains letter then
      Builtin.putOption isOn letter
      putLetters isOn letters rest
    else Usage.refuse ([if isOn then '-' else '+', letter] ++ ascii ": invalid option")

/-- Sets options of the shell from arguments.  What follows them is given back, if it is to become
the arguments. -/
def putOptions : Nat → List ByteText → Action (Option (List ByteText))
  | 0, _ => return none
  | _ + 1, [] => return none
  | fuel + 1, argument :: rest => do
    match argument with
    | ['-', '-'] => return some rest
    | ['-'] =>
      Builtin.putOption false 'x'
      Builtin.putOption false 'v'
      return if rest.isEmpty then none else some rest
    | '-' :: letters => putOptions fuel (← putLetters true letters rest)
    | '+' :: letters => putOptions fuel (← putLetters false letters rest)
    | _ => return some (argument :: rest)

/-- Lists variables, or sets options of the shell and its arguments. -/
def setBuiltin (arguments : List ByteText) : Action Nat := do
  if arguments.isEmpty then listValues
  else
    match ← putOptions (arguments.length + 1) arguments with
    | some operands => Action.change fun session => { session with arguments := operands }
    | none => pure ()
  return 0

/-- Shows a feature. -/
def showFeature (asCommand : Bool) (name : ByteText) : Action Unit := do
  let isOn := (← Action.session).features.contains name
  if asCommand then Builtin.outLine (ascii (if isOn then "shopt -s " else "shopt -u ") ++ name)
  else
    Builtin.outLine (ByteText.padRight 15 name ++ ['\t'] ++ ascii (if isOn then "on" else "off"))

/-- Switches features on and off, or tells which are on. -/
def shoptBuiltin (arguments : List ByteText) : Action Nat := do
  let (options, operands) ← Usage.options "psuqo" arguments
  let switches := Usage.has options 's' || Usage.has options 'u'
  let isOn := Usage.has options 's'
  if Usage.has options 'o' then
    operands.foldlM (fun status name => do
      match Setting.options.find? fun entry => ascii entry.1 = name with
      | some (_, letter) =>
        if switches then
          Builtin.putOption isOn letter
          return status
        else
          let isSet ← Action.hasOption letter
          if !Usage.has options 'q' then
            Builtin.outLine (ByteText.padRight 15 name ++ ['\t']
              ++ ascii (if isSet then "on" else "off"))
          return if isSet then status else 1
      | none =>
        Action.warn (name ++ ascii ": invalid option name")
        return 1) 0
  else if operands.isEmpty then
    let session ← Action.session
    Setting.features.forM fun (name, _) => do
      if !switches || session.features.contains (ascii name) = isOn then
        showFeature (Usage.has options 'p') (ascii name)
    return 0
  else
    operands.foldlM (fun status name => do
      if !Setting.features.any fun entry => ascii entry.1 = name then
        Action.warn (name ++ ascii ": invalid shell option name")
        return 1
      else if switches then
        Action.change fun session =>
          let others := session.features.filter fun other => other != name
          { session with features := if isOn then name :: others else others }
        return status
      else
        if !Usage.has options 'q' then showFeature (Usage.has options 'p') name
        return if (← Action.session).features.contains name then status else 1) 0

/-- The commands that say what variables are. -/
def builtins : List Builtin :=
  [{ name := "declare", assigns := true, run := fun _ => declareBuiltin false },
   { name := "typeset", assigns := true, run := fun _ => declareBuiltin false },
   { name := "local", assigns := true, run := fun _ => declareBuiltin true },
   { name := "export", assigns := true, run := fun _ => exportBuiltin },
   { name := "readonly", assigns := true, run := fun _ => readonlyBuiltin },
   { name := "unset", run := fun _ => unsetBuiltin },
   { name := "let", run := fun _ => letBuiltin },
   { name := "shift", run := fun _ => shiftBuiltin },
   { name := "set", run := fun _ => setBuiltin },
   { name := "shopt", run := fun _ => shoptBuiltin }]

end Declaration

end SchemaDocs.Shell
