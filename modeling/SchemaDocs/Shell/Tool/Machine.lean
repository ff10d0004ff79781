import SchemaDocs.Shell.Tool.Filing.Owner
/-!
# Who runs where

What programs tell of the machine that they run on, of whoever runs them, and of the terminal,
which there is none of.
-/

namespace SchemaDocs.Shell

namespace Tool

/-- Ends because of the first operand, of which there must be none. -/
def withoutOperands (code : Nat) (operands : List ByteText) (body : Tool) : Tool :=
  match operands with
  | [] => body
  | operand :: _ => Program.extraOperand operand code

/-- A program that tells something and takes neither options nor operands. -/
def teller (body : Tool) (code : Nat := 1) : Tool :=
  Program.withArguments { forms := [.word "help", .word "version"] } ()
    (fun _ _ _ => return .ok ()) (fun _ operands => withoutOperands code operands body) code

/-! ## The machine -/

/-- What is told of the machine, each with its letter, in the order in which it is shown. -/
def machineFacts : List (String × String) :=
  [("s", "Linux"), ("n", "localhost"), ("r", "6.8.0"), ("v", "#1 SMP"), ("m", "x86_64"),
   ("p", "x86_64"), ("i", "x86_64"), ("o", "GNU/Linux")]

/-- The options of the program that tells of the machine. -/
def unameRules : OptionRules :=
  { forms :=
    [.both 'a' "all", .both 's' "kernel-name", .both 'n' "nodename", .both 'r' "kernel-release",
     .both 'v' "kernel-version", .both 'm' "machine", .both 'p' "processor",
     .both 'i' "hardware-platform", .both 'o' "operating-system", .word "help",
     .word "version"] }

/-- Tells of the machine. -/
def uname : Tool :=
  Program.withArguments unameRules ([] : List String)
    (fun letters key _ => return .ok (key :: letters)) fun letters operands =>
      withoutOperands 1 operands do
        let letters := if letters.isEmpty then ["s"] else letters
        let facts := machineFacts.filter fun (letter, _) =>
          letters.contains "a" || letters.contains letter
        Program.outLine ((facts.map fun (_, fact) => ascii fact).intersperse [' ']).flatten
        return 0

/-- Tells which kind of machine it is. -/
def arch : Tool := teller do
  Program.outLine (ascii "x86_64")
  return 0

/-- Tells a number that stands for the machine. -/
def hostid : Tool := teller do
  Program.outLine (ascii "007f0100")
  return 0

/-- Tells how many processors there are. -/
def nproc : Tool :=
  Program.withArguments
    { forms := [.word "all", .word "ignore" .required, .word "help", .word "version"] } 0
    (fun ignored key argument => do
      if key = "ignore" then
        match ByteText.toNat? argument with
        | some n => return .ok n
        | none =>
          return .error (← Program.die 1 (ascii "invalid number: " ++ Program.quoted argument))
      else return .ok ignored)
    fun ignored operands => withoutOperands 1 operands do
      Program.outLine (ByteText.ofNat (max 1 (4 - ignored)))
      return 0

/-! ## Whoever runs programs -/

/-- What is shown of an owner. -/
structure IdentitySettings where
  shows : List Char := []
  asNames : Bool := false
  isReal : Bool := false
  isZero : Bool := false

/-- The options of the program that tells of owners. -/
def idRules : OptionRules :=
  { forms :=
    [.letter 'a', .both 'Z' "context", .both 'g' "group", .both 'G' "groups", .both 'n' "name",
     .both 'r' "real", .both 'u' "user", .both 'z' "zero", .word "help", .word "version"] }

/-- Settings after an option of the program that tells of owners. -/
def idOption (settings : IdentitySettings) (key : String) (_argument : ByteText) :
    Program (Except Nat IdentitySettings) := do
  match key with
  | "Z" =>
    return .error (← Program.die 1
      (ascii "--context (-Z) works only on an SELinux-enabled kernel"))
  | "n" => return .ok { settings with asNames := true }
  | "r" => return .ok { settings with isReal := true }
  | "z" => return .ok { settings with isZero := true }
  | "g" => return .ok { settings with shows := 'g' :: settings.shows }
  | "G" => return .ok { settings with shows := 'G' :: settings.shows }
  | "u" => return .ok { settings with shows := 'u' :: settings.shows }
  | _ => return .ok settings

/-- The name and number of an owner that is named. -/
def owner? (word : ByteText) : Option (String × Nat) :=
  match owners.find? fun entry => ascii entry.1 = word with
  | some entry => some entry
  | none => (ByteText.toNat? word).bind fun n => owners.find? fun entry => entry.2 = n

/-- The name and number of the group of an owner. -/
def groupOf (entry : String × Nat) : String × Nat :=
  (groups.find? fun group => group.2 = entry.2).getD ("nogroup", 65534)

/-- What is shown of an owner. -/
def identityText (settings : IdentitySettings) (entry : String × Nat) : ByteText :=
  let group := groupOf entry
  let one (entry : String × Nat) : ByteText :=
    if settings.asNames then ascii entry.1 else ByteText.ofNat entry.2
  let both (entry : String × Nat) : ByteText :=
    ByteText.ofNat entry.2 ++ ['('] ++ ascii entry.1 ++ [')']
  match settings.shows with
  | 'u' :: _ => one entry
  | _ :: _ => one group
  | [] =>
    ascii "uid=" ++ both entry ++ ascii " gid=" ++ both group ++ ascii " groups=" ++ both group

/-- Tells of owners. -/
def id : Tool :=
  Program.withArguments idRules {} idOption fun settings operands => do
    if 1 < settings.shows.eraseDups.length then
      Program.die 1 (ascii "cannot print \"only\" of more than one choice")
    else if settings.shows.isEmpty && (settings.asNames || settings.isReal) then
      Program.die 1 (ascii "cannot print only names or real IDs in default format")
    else if settings.shows.isEmpty && settings.isZero then
      Program.die 1 (ascii "option --zero not permitted in default format")
    else
      let ending : ByteText := [if settings.isZero then '\x00' else '\n']
      Filing.forAll (if operands.isEmpty then [ascii "root"] else operands) fun word => do
        match owner? word with
        | some entry =>
          Program.out (identityText settings entry ++ ending)
          return true
        | none => Filing.refuse (Program.quoted word ++ ascii ": no such user")

/-- Tells which groups owners belong to. -/
def groupsOf : Tool :=
  Program.withArguments { forms := [.word "help", .word "version"] } ()
    (fun _ _ _ => return .ok ()) fun _ operands => do
      if operands.isEmpty then
        Program.outLine (ascii "root")
        return 0
      else
        Filing.forAll operands fun word => do
          match owner? word with
          | some entry =>
            Program.outLine (word ++ ascii " : " ++ ascii (groupOf entry).1)
            return true
          | none => Filing.refuse (Program.quoted word ++ ascii ": no such user")

/-- Tells who logged in, which nobody did. -/
def logname : Tool := teller (Program.die 1 (ascii "no login name"))

/-- Tells nothing. -/
def silent : Tool := teller (pure 0)

/-- Tells which terminal the input is, which is none. -/
def tty : Tool :=
  Program.withArguments
    { forms := [.both 's' "silent", .word "quiet", .word "help", .word "version"] } false
    (fun isSilent key _ => return .ok (isSilent || key = "s" || key = "quiet"))
    (fun isSilent operands => withoutOperands 2 operands do
      if !isSilent then Program.outLine (ascii "not a tty")
      return 1) 2

/-- Looks at the settings of the terminal, which there is none of. -/
def stty : Tool :=
  Program.die 1 (ascii "'standard input': Inappropriate ioctl for device")

end Tool

end SchemaDocs.Shell
