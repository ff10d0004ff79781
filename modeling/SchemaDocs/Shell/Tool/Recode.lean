import SchemaDocs.Shell.ByteText
import SchemaDocs.Shell.Coding
import SchemaDocs.Shell.Tool.Basic
/-!
# Recoding texts

A text in one coding is written in another one, and characters that this one does not have in a likeness.
-/

/-!
## Likenesses in ASCII

Characters that are written with letters and marks of ASCII where nothing better is at
hand: quotation marks, dashes, fractions, letters of other scripts.
-/

namespace SchemaDocs.Shell

namespace Likeness

/-- Likenesses of characters that follow each other from a first one on, with a dot in the middle of the
line between them and a modifier letter for the grave accent. -/
def rows : List (Nat × String) :=
  [(0xa0, " "), (0xa9, "(C)"), (0xab, "<<"), (0xad, "-·(R)"), (0xb5, "u"), (0xb8, ","),
   (0xbb, ">>· 1/4 · 1/2 · 3/4 "), (0xc6, "AE"), (0xd7, "x"), (0xdf, "ss"), (0xe6, "ae"),
   (0x132, "IJ·ij"), (0x149, "'n"), (0x152, "OE·oe"), (0x17f, "s"), (0x1c7, "LJ·Lj·lj·NJ·Nj·nj"),
   (0x1f1, "DZ·Dz·dz"), (0x2bc, "'"), (0x2c6, "^"), (0x2c8, "'"), (0x2cb, "ˋ"), (0x2cd, "_"),
   (0x2d0, ":"), (0x2dc, "~"), (0x370, "H·h·SS·ss·#·#ˋ·W·w"), (0x37a, "i·s·s·s"), (0x37f, "J"),
   (0x384, "ˋ·ˋ·A·;·E·I·I"), (0x38c, "O"), (0x38e, "Y·O·I·A·V·G·D·E·Z·I·TH·I·K·L·M·N·X·O·P·R"),
   (0x3a3, "S·T·Y·F·CH·PS·O·I·Y·a·e·i·i·y·a·v·g·d·e·z·i·th·i·k·l·m·n·x·o·p·r·s·s·t·y·"
    ++ "f·ch·ps·o·i·y·o·y·o·&·b·th·Yˋ·Yˋ·Yˋ·f·p·&·Q·q·6·6·W·w·90·90·900·900·SH·sh·"
    ++ "F·f·KH·kh·H·h·DJ·dj·GJ·gj·TI·ti·k·r·s·j·TH·e·e·SH·sh·S·S·s·r·S·S·S"),
   (0x401, "YO·DJ·Gˋ·YE·Zˋ·I·YI·J·Lˋ·Nˋ·TSH·Kˋ"),
   (0x40e, "Uˋ·DH·A·B·V·G·D·E·ZH·Z·I·J·K·L·M·N·O·P·R·S·T·U·F·X·CZ·CH·SH·SHH·Aˋ·Yˋ·ˋ·Eˋ·"
    ++ "YU·YA·a·b·v·g·d·e·zh·z·i·j·k·l·m·n·o·p·r·s·t·u·f·x·cz·ch·sh·shh·ˋˋ·yˋ·ˋ·eˋ·"
    ++ "yu·ya"),
   (0x451, "yo·dj·gˋ·ye·zˋ·i·yi·j·lˋ·nˋ·tsh·kˋ"), (0x45e, "uˋ·dh"), (0x46a, "Oˋ·oˋ"),
   (0x472, "FH·fh·YH·yh"), (0x48c, "Eˋ·eˋ"), (0x490, "Gˋ·gˋ·GH·gh·GH·gh·ZHˋ·zhˋ"),
   (0x49a, "Kˋ·kˋ"), (0x49e, "Kˋ·kˋ"), (0x4a2, "Nˋ·nˋ·NG·ng·Pˋ·pˋ·Oˋ·oˋ·Cˋ·Cˋ·Tˋ·tˋ·U·u"),
   (0x4b2, "Hˋ·hˋ·TCZ·tcz"), (0x4ba, "SHˋ·shˋ·CHˋ·chˋ·CHˋ·chˋ·i·ZHˋ·zhˋ"), (0x4cb, "CHˋ·chˋ"),
   (0x4d0, "Aˋ·aˋ·Aˋ·aˋ"), (0x4d6, "Eˋ·eˋ·Aˋ·aˋ"), (0x4dc, "ZHˋ·zhˋ·Zˋ·zˋ·Zˋ·zˋ"),
   (0x4e4, "Iˋ·iˋ·Oˋ·oˋ·Oˋ·oˋ"), (0x4f0, "Uˋ·uˋ·Uˋ·uˋ·CHˋ·chˋ"), (0x4f8, "Yˋ·yˋ"),
   (0x5f3, "'·\""), (0x2002, " · · · · "), (0x2008, " · · ·"), (0x2010, "-·-·-·-·--·-"),
   (0x2018, "'·'·,·'·\"·\"·,,·\"·+"), (0x2022, "o"), (0x2024, ".·..·..."), (0x202f, " "),
   (0x2035, "ˋ·ˋˋ·ˋˋˋ"), (0x2039, "<·>"), (0x203c, "!!"), (0x2044, "/"), (0x2047, "??·?!·!?"),
   (0x205f, " ····"), (0x20a1, "C="), (0x20a8, "Rs"), (0x20ac, "EUR"), (0x20b9, "INR"),
   (0x2100, "a/c·a/s·C"), (0x2105, "c/o·c/u"), (0x210a, "g·H·H·H·h"), (0x2110, "I·I·L·l"),
   (0x2115, "N·No"), (0x2119, "P·Q·R·R·R"), (0x2121, "TEL·(TM)"), (0x2124, "Z"), (0x2126, "Ohm"),
   (0x2128, "Z"), (0x212c, "B·C·e·e·E·F"), (0x2133, "M·o"), (0x2139, "i"), (0x2145, "D·d·e·i·j"),
   (0x2153, " 1/3 · 2/3 · 1/5 · 2/5 · 3/5 · 4/5 · 1/6 · 5/6 · 1/8 · 3/8 · 5/8 · 7/8 · 1/·"
    ++ "I·II·III·IV·V·VI·VII·VIII·IX·X·XI·XII·L·C·D·M·i·ii·iii·iv·v·vi·vii·viii·ix·"
    ++ "x·xi·xii·l·c·d·m"),
   (0x2190, "<-"), (0x2192, "->"), (0x2194, "<->"), (0x21d0, "<="), (0x21d2, "=>"),
   (0x21d4, "<=>"), (0x2212, "-"), (0x2215, "/·\\·*"), (0x2223, "|"), (0x2236, ":"),
   (0x223c, "~"), (0x2264, "<=·>="), (0x226a, "<<·>>"), (0x22d8, "<<<·>>>"),
   (0x2400, "NUL·SOH·STX·ETX·EOT·ENQ·ACK·BEL·BS·HT·LF·VT·FF·CR·SO·SI·DLE·DC1·DC2·DC3·DC4·"
    ++ "NAK·SYN·ETB·CAN·EM·SUB·ESC·FS·GS·RS·US·SP·DEL"),
   (0x2423, "_·NL"),
   (0x2460, "(1)·(2)·(3)·(4)·(5)·(6)·(7)·(8)·(9)·(10)·(11)·(12)·(13)·(14)·(15)·(16)·(17)·"
    ++ "(18)·(19)·(20)·(1)·(2)·(3)·(4)·(5)·(6)·(7)·(8)·(9)·(10)·(11)·(12)·(13)·(14)·"
    ++ "(15)·(16)·(17)·(18)·(19)·(20)·1.·2.·3.·4.·5.·6.·7.·8.·9.·10.·11.·12.·13.·"
    ++ "14.·15.·16.·17.·18.·19.·20.·(a)·(b)·(c)·(d)·(e)·(f)·(g)·(h)·(i)·(j)·(k)·(l)·"
    ++ "(m)·(n)·(o)·(p)·(q)·(r)·(s)·(t)·(u)·(v)·(w)·(x)·(y)·(z)·(A)·(B)·(C)·(D)·(E)·"
    ++ "(F)·(G)·(H)·(I)·(J)·(K)·(L)·(M)·(N)·(O)·(P)·(Q)·(R)·(S)·(T)·(U)·(V)·(W)·(X)·"
    ++ "(Y)·(Z)·(a)·(b)·(c)·(d)·(e)·(f)·(g)·(h)·(i)·(j)·(k)·(l)·(m)·(n)·(o)·(p)·(q)·"
    ++ "(r)·(s)·(t)·(u)·(v)·(w)·(x)·(y)·(z)·(0)"),
   (0x2500, "-"), (0x2502, "|"), (0x250c, "+"), (0x2510, "+"), (0x2514, "+"), (0x2518, "+"),
   (0x251c, "+"), (0x2524, "+"), (0x252c, "+"), (0x2534, "+"), (0x253c, "+"), (0x25e6, "o"),
   (0x2a74, "::=·==·==="), (0x3000, " "), (0x30a0, "="),
   (0x3251, "(21)·(22)·(23)·(24)·(25)·(26)·(27)·(28)·(29)·(30)·(31)·(32)·(33)·(34)·(35)"),
   (0x32b1, "(36)·(37)·(38)·(39)·(40)·(41)·(42)·(43)·(44)·(45)·(46)·(47)·(48)·(49)·(50)"),
   (0x3371, "hPa·da·AU·bar·oV·pc"),
   (0x3380, "pA·nA·uA·mA·kA·KB·MB·GB·cal·kcal·pF·nF·uF·ug·mg·kg·Hz·kHz·MHz·GHz·THz·ul·"
    ++ "ml·dl·kl·fm·nm·um·mm·cm·km·mm^2·cm^2·m^2·km^2·mm^3·cm^3·m^3·km^3·m/s·m/s^2·"
    ++ "Pa·kPa·MPa·GPa·rad·rad/s·rad/s^2·ps·ns·us·ms·pV·nV·uV·mV·kV·MV·pW·nW·uW·mW·"
    ++ "kW·MW"),
   (0x33c2, "a.m.·Bq·cc·cd·C/kg·Co.·dB·Gy·ha·HP·in·KK·KM·kt·lm·ln·log·lx·mb·mil·mol·PH·"
    ++ "p.m.·PPM·PR·sr·Sv·Wb"),
   (0xfb00, "ff·fi·fl·ffi·ffl"), (0xfb06, "st"), (0xfb29, "+"), (0xfe00, "···············"),
   (0xfe4d, "_·_·_·,"), (0xfe52, "."), (0xfe54, ";·:"), (0xfe57, "!"), (0xfe59, "(·)·\x7b·\x7d"),
   (0xfe5f, "#·&·*·+·-·<·>·="), (0xfe68, "\\·$·%·@"), (0xfeff, "")]

/-- The likenesses of a row. -/
def texts (row : String) : List String :=
  (row.splitOn "·").map fun text => text.map fun c => if c = 'ˋ' then '\x60' else c

/-- Letters in the order in which they stand among the letters for mathematics. -/
def letters : List Char := ("ABCDEFGHIJKLMNOPQRSTUVWXYZabcdefghijklmnopqrstuvwxyz").toList

/-- The places among the letters for mathematics at which there is none. -/
def unused : List Nat :=
  [0x1d455, 0x1d49d, 0x1d4a0, 0x1d4a1, 0x1d4a3, 0x1d4a4, 0x1d4a7, 0x1d4a8, 0x1d4ad, 0x1d4ba,
   0x1d4bc, 0x1d4c1, 0x1d4c4, 0x1d506, 0x1d50b, 0x1d50c, 0x1d515, 0x1d51d, 0x1d53a, 0x1d53f,
   0x1d545, 0x1d547, 0x1d548, 0x1d549, 0x1d551]

/-- The likeness of a character, if it has one. -/
def of? (code : Nat) : Option ByteText :=
  if 0xff01 ≤ code && code ≤ 0xff5e then some [Char.ofNat (code - 0xfee0)]
  else if 0x1d400 ≤ code && code ≤ 0x1d6a3 then
    if unused.contains code then none else (letters[(code - 0x1d400) % 52]?).map fun c => [c]
  else if 0x1d7ce ≤ code && code ≤ 0x1d7ff then some (ByteText.ofNat ((code - 0x1d7ce) % 10))
  else
    match rows.findSome? fun (first, row) =>
        if first ≤ code && code - first < row.length then (texts row)[code - first]? else none with
    | some text => some (ascii text)
    | none => none

end Likeness

end SchemaDocs.Shell

/-!
## Recoding

A text in one coding is written in another one.  What cannot be read or written ends the
program, or is left out, or is written in a likeness.
-/

namespace SchemaDocs.Shell

namespace Tool

/-- What happens to characters that cannot be written. -/
structure RecodingManner where
  /-- Whether they are written in a likeness. -/
  usesLikeness : Bool := false
  /-- Whether they are left out, as are bytes that stand for nothing. -/
  leavesOut : Bool := false
  /-- Whether it is a fault that some were left out. -/
  tells : Bool := false

/-- Why a text could not be recoded. -/
inductive RecodingFault where
  /-- Something at a position that cannot be read or written. -/
  | illegal (position : Nat)
  /-- A character that is cut off. -/
  | incomplete

namespace RecodingFault

/-- The words for a fault. -/
def message : RecodingFault → ByteText
  | illegal position => ascii "illegal input sequence at position " ++ ByteText.ofNat position
  | incomplete => ascii "incomplete character or shift sequence at end of buffer"

end RecodingFault

/-- The bytes of a character in a coding, or of a likeness of it if the manner is such. -/
def recodedCharacter (target : Coding) (manner : RecodingManner) (code : Nat) : Option ByteText :=
  match target.write? code with
  | some bytes => some bytes
  | none =>
    if manner.usesLikeness then
      let likeness := ((Likeness.of? code).getD ['?'])
      (likeness.mapM fun c => target.write? c.toNat).map List.flatten
    else none

/-- A text in another coding, in pieces of which the last comes first, and what went wrong with it.  Each
step takes a character. -/
def recodedFrom (source target : Coding) (isBig : Bool) (manner : RecodingManner) :
    Nat → Nat → Bool → List ByteText → ByteText → List ByteText × Option RecodingFault
  | 0, _, _, pieces, _ => (pieces, none)
  | fuel + 1, position, hasLeftOut, pieces, text =>
    let skip (count : Nat) :=
      if manner.leavesOut then
        recodedFrom source target isBig manner fuel (position + count) true pieces (text.drop count)
      else (pieces, some (.illegal position))
    match source.take? isBig text with
    | none => (pieces, if hasLeftOut && manner.tells then some (.illegal position) else none)
    | some .cut => (pieces, some .incomplete)
    | some (.wrong count) => skip count
    | some (.character code count) =>
      match recodedCharacter target manner code with
      | some bytes =>
        recodedFrom source target isBig manner fuel (position + count) hasLeftOut (bytes :: pieces)
          (text.drop count)
      | none => skip count

/-- A text in another coding, and what went wrong with it. -/
def recoded (source target : Coding) (manner : RecodingManner) (text : ByteText) :
    ByteText × Option RecodingFault :=
  if text.isEmpty then ([], none)
  else
    let (isBig, count) := source.orderOf text
    let (pieces, fault) :=
      recodedFrom source target isBig manner (text.length + 1) count false [target.mark]
        (text.drop count)
    (pieces.reverse.flatten, fault)

/-- How texts are recoded. -/
structure RecodingSettings where
  source : ByteText := []
  target : ByteText := []
  leavesOut : Bool := false
  output : Option ByteText := none
  tellsNames : Bool := false

/-- The options of the program that recodes. -/
def recodingRules : OptionRules :=
  { forms :=
    [.both 'f' "from-code" .required, .both 't' "to-code" .required, .both 'l' "list", .letter 'c',
     .both 'o' "output" .required, .both 's' "silent", .word "verbose", .both '?' "help",
     .word "usage", .both 'V' "version"] }

/-- Settings after an option of the program that recodes. -/
def recodingOption (settings : RecodingSettings) (key : String) (argument : ByteText) :
    Program (Except Nat RecodingSettings) :=
  return .ok (match key with
    | "f" => { settings with source := argument }
    | "t" => { settings with target := argument }
    | "c" => { settings with leavesOut := true }
    | "o" => { settings with output := some argument }
    | "verbose" => { settings with tellsNames := true }
    | _ => settings)

/-- Tells how to get help. -/
def suggestRecodingHelp : Program Unit := do
  let name ← Program.name
  Program.err (ascii "Try \x60" ++ name ++ ascii " --help' or \x60" ++ name
    ++ ascii " --usage' for more information.\n")

/-- The name of a coding in capital letters, and the words behind it, all between slashes.  Without a name
it is ASCII. -/
def codingWords (text : ByteText) : String × List String :=
  let kept := text.filter fun c => c.isAlphanum || (ascii "_-/.,:").contains c
  match ByteText.splitAt '/' (kept.map Char.toUpper) with
  | name :: words =>
    (if name.isEmpty then "ASCII" else String.ofList name,
      (words.map (ByteText.splitAt ',')).flatten.map String.ofList)
  | [] => ("ASCII", [])

/-- Recodes the text of a file and writes it. -/
def recodeText (source target : Coding) (manner : RecodingManner) (output : Option Nat)
    (text : ByteText) : Program (Option RecodingFault) := do
  let (bytes, fault) := recoded source target manner text
  match output with
  | none => Program.out bytes
  | some channel => Program.noteFault (← System.write channel bytes)
  return fault

/-- The open file for what is recoded, if it does not go to the output.  It is opened when there is something
for it. -/
def recodingOutput (settings : RecodingSettings) (opened : Option Nat) (isEmpty : Bool) :
    Program (Except FileError (Option Nat)) := do
  match opened, settings.output with
  | some channel, _ => return .ok (some channel)
  | none, none => return .ok none
  | none, some path =>
    if isEmpty then return .ok none
    else return (← Program.openOutput path false).map some

/-- Recodes files one after the other, up to the first one with a fault, where the output is opened when
there is something for it. -/
def recodeFiles (source target : Coding) (manner : RecodingManner) (settings : RecodingSettings) :
    Option Nat → Nat → List ByteText → Program Nat
  | _, code, [] => return code
  | output, code, file :: files => do
    match ← Program.readOperand file with
    | .error .isADirectory =>
      Program.die 1 (ascii ("error while reading the input: " ++ FileError.isADirectory.reason))
    | .error cause =>
      Program.complain (ascii "cannot open input file \x60" ++ file ++ ascii ("': " ++ cause.reason))
      recodeFiles source target manner settings output 1 files
    | .ok text =>
      if settings.tellsNames then Program.err (file ++ ascii ":\n")
      let opened ← recodingOutput settings output text.isEmpty
      match opened with
      | .error cause => Program.die 1 (ascii ("cannot open output file: " ++ cause.reason))
      | .ok output =>
        match ← recodeText source target manner output text with
        | some fault => Program.die 1 fault.message
        | none => recodeFiles source target manner settings output code files

/-- Writes files in another coding. -/
def iconv : Tool :=
  Program.withArguments recodingRules {} recodingOption
    (fun settings operands => do
      let (sourceName, _) := codingWords settings.source
      let (targetName, words) := codingWords settings.target
      let shown (text : ByteText) : ByteText := ascii "\x60" ++ text ++ ['\'']
      let refuse (text : ByteText) : Program Nat := do
        Program.complain (text ++ ascii " not supported")
        suggestRecodingHelp
        return 1
      match Coding.ofName? sourceName, Coding.ofName? targetName with
      | none, none =>
        refuse (ascii "conversions from " ++ shown settings.source ++ ascii " and to "
          ++ shown settings.target ++ ascii " are")
      | none, some _ => refuse (ascii "conversion from " ++ shown settings.source ++ ascii " is")
      | some _, none => refuse (ascii "conversion to " ++ shown settings.target ++ ascii " is")
      | some source, some target =>
        let manner :=
          { usesLikeness := words.contains "TRANSLIT"
            leavesOut := settings.leavesOut || words.contains "IGNORE"
            tells := !settings.leavesOut }
        let settings := { settings with tellsNames := settings.tellsNames && !operands.isEmpty }
        recodeFiles source target manner settings none 0 (Program.inputsOr operands))
    64 suggestRecodingHelp

end Tool

end SchemaDocs.Shell
