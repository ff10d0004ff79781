import SchemaDocs.Shell.Digest
import SchemaDocs.Shell.Signal
import SchemaDocs.Shell.Tool.Encoding
import SchemaDocs.Shell.Tool.Filing.Basic
import SchemaDocs.Shell.Tool.Indent.Notation
/-!
# Libraries

What programs load by name: the system around them, files and paths, patterns, data, numbers, and
helpers for rows and functions.
-/

namespace SchemaDocs.Shell.Indent

namespace Running

/-- The functions of each library. -/
def libraryFunctions : List (String × List String) :=
  [("sys", ["exit", "getdefaultencoding", "getfilesystemencoding", "getrecursionlimit",
      "setrecursionlimit", "intern", "exc_info", "getsizeof", "getrefcount"]),
   ("os", ["_exit", "abort", "getcwd", "getenv", "getpid", "getppid", "getuid", "getgid", "geteuid",
      "kill", "listdir", "makedirs", "mkdir", "remove", "unlink", "rename", "replace", "rmdir",
      "system", "write", "read", "close", "chdir", "isatty", "cpu_count", "fspath", "putenv",
      "dup2", "umask", "walk", "getlogin", "uname", "strerror", "access", "popen", "stat", "chmod",
      "symlink", "getpgrp", "getpgid", "getegid", "killpg", "fdopen", "fsencode", "fsdecode", "execvp",
      "execv", "execlp", "execl", "WEXITSTATUS", "waitstatus_to_exitcode"]),
   ("os.path", ["abspath", "basename", "dirname", "exists", "expanduser", "getsize", "isabs",
      "isdir", "isfile", "join", "normpath", "realpath", "relpath", "split", "splitext",
      "commonprefix", "islink", "lexists", "getmtime", "expandvars"]),
   ("re", ["compile", "escape", "findall", "finditer", "fullmatch", "match", "search", "split",
      "sub", "subn", "purge"]),
   ("json", ["dump", "dumps", "load", "loads"]),
   ("time", ["monotonic", "perf_counter", "process_time", "sleep", "time", "time_ns"]),
   ("string", ["capwords"]),
   ("math", ["ceil", "floor", "sqrt", "log", "log2", "log10", "exp", "sin", "cos", "tan", "atan",
      "atan2", "gcd", "lcm", "factorial", "isnan", "isinf", "isfinite", "fabs", "trunc", "pow",
      "fmod", "hypot", "isclose", "prod", "comb", "perm", "isqrt", "copysign", "degrees", "radians",
      "fsum", "dist"]),
   ("collections", ["Counter", "OrderedDict", "defaultdict", "deque", "namedtuple"]),
   ("itertools", ["accumulate", "chain", "combinations", "compress", "count", "cycle", "dropwhile",
      "filterfalse", "groupby", "islice", "pairwise", "permutations", "product", "repeat",
      "starmap", "takewhile", "tee", "zip_longest"]),
   ("argparse", ["ArgumentParser", "Namespace"]),
   ("functools", ["cache", "cached_property", "cmp_to_key", "lru_cache", "partial", "reduce", "total_ordering",
      "wraps", "update_wrapper"]),
   ("textwrap", ["dedent", "fill", "indent", "shorten", "wrap"]),
   ("signal", ["alarm", "raise_signal", "signal", "pause", "getsignal"]),
   ("io", ["BytesIO", "StringIO", "TextIOWrapper", "open"]),
   ("subprocess", ["call", "check_call", "check_output", "getoutput", "run"]),
   ("base64", ["b64decode", "b64encode", "b32encode", "b32decode", "b16encode", "b16decode",
      "urlsafe_b64encode", "urlsafe_b64decode", "standard_b64encode", "encodebytes"]),
   ("binascii", ["hexlify", "unhexlify", "crc32", "b2a_hex", "a2b_hex"]),
   ("zlib", ["crc32", "adler32"]),
   ("hashlib", ["md5", "sha1", "sha224", "sha256", "sha384", "sha512", "new"]),
   ("html", ["escape", "unescape"]),
   ("operator", ["add", "and_", "attrgetter", "concat", "contains", "eq", "floordiv", "ge", "getitem",
      "gt", "itemgetter", "le", "lt", "methodcaller", "mod", "mul", "ne", "neg", "not_", "or_", "pow",
      "sub", "truediv", "truth", "xor"]),
   ("copy", ["copy", "deepcopy"]),
   ("types", ["SimpleNamespace"]),
   ("shutil", ["copyfileobj", "copy", "copyfile", "move", "rmtree", "which"]),
   ("atexit", ["register"]),
   ("contextlib", ["suppress", "redirect_stdout", "redirect_stderr", "closing", "nullcontext"]),
   ("dataclasses", ["asdict", "dataclass", "field", "fields", "astuple", "replace"]),
   ("traceback", ["format_exc", "print_exc"]),
   ("fileinput", ["input"]),
   ("platform", ["system", "machine", "python_version"]),
   ("getpass", ["getuser"]),
   ("random", ["seed", "random", "randint", "choice", "shuffle", "randrange", "sample"]),
   ("statistics", ["mean", "median", "mode"]),
   ("bisect", ["bisect", "bisect_left", "bisect_right", "insort"]),
   ("heapq", ["heapify", "heappop", "heappush", "nlargest", "nsmallest"]),
   ("unicodedata", ["normalize", "category", "name"]),
   ("codecs", ["decode", "encode", "open", "getreader", "getwriter"]),
   ("shlex", ["quote", "split", "join"]),
   ("gc", ["collect", "disable", "enable"]),
   ("locale", ["setlocale", "getpreferredencoding"]),
   ("warnings", ["filterwarnings", "simplefilter", "warn"]),
   ("abc", ["abstractmethod"]),
   ("enum", ["auto"]),
   ("errno", []), ("typing", []), ("__future__", []), ("collections.abc", []),
   ("json.decoder", []), ("builtins", []), ("stat", []), ("pprint", ["pprint", "pformat"]),
   ("difflib", ["get_close_matches"]), ("keyword", ["iskeyword"]), ("select", []), ("resource", []),
   ("pathlib", ["Path", "PurePath"])]

/-- Whether a library can be loaded. -/
def isLibrary (name : String) : Bool := libraryFunctions.any fun entry => entry.1 = name

/-- The letters of the alphabet, in lower and in upper case. -/
def lowerLetters : List Char := ascii "abcdefghijklmnopqrstuvwxyz"

/-- Numbers of faults by name. -/
def faultNumbers : List (String × Nat) :=
  [("EPERM", 1), ("ENOENT", 2), ("ESRCH", 3), ("EINTR", 4), ("EIO", 5), ("EBADF", 9), ("EAGAIN", 11),
   ("ENOMEM", 12), ("EACCES", 13), ("EEXIST", 17), ("ENOTDIR", 20), ("EISDIR", 21), ("EINVAL", 22),
   ("ENOSPC", 28), ("EPIPE", 32)]

/-- The number of the running process. -/
def processNumber : Int := 4201

/-- A value of a library that is no function. -/
def libraryConstant (library name : String) : Option Value :=
  let text (text : String) : Option Value := some (.text text.toList)
  let int (n : Int) : Option Value := some (.int n)
  let digits := ascii "0123456789"
  let upper := lowerLetters.map Char.toUpper
  let marks := ascii "!\"#$%&'()*+,-./:;<=>?@[\\]^_\x60\x7b|\x7d~"
  match library, name with
  | "sys", "version" => text "3.12.3 (main, Feb  4 2025, 14:48:35) [GCC 13.3.0]"
  | "sys", "version_info" => some (.tuple [.int 3, .int 12, .int 3, .text (ascii "final"), .int 0])
  | "sys", "platform" => text "linux"
  | "sys", "maxsize" => int 9223372036854775807
  | "sys", "maxunicode" => int 1114111
  | "sys", "byteorder" => text "little"
  | "sys", "executable" => text "/usr/bin/python3"
  | "sys", "prefix" => text "/usr"
  | "sys", "hexversion" => int 51119088
  | "sys", "dont_write_bytecode" => some (.bool false)
  | "os", "sep" => text "/"
  | "os", "linesep" => text "\n"
  | "os", "name" => text "posix"
  | "os", "curdir" => text "."
  | "os", "pathsep" => text ":"
  | "os", "devnull" => text "/dev/null"
  | "os", "extsep" => text "."
  | "os", "R_OK" => int 4
  | "os", "W_OK" => int 2
  | "os", "X_OK" => int 1
  | "os", "F_OK" => int 0
  | "os", "EX_OK" => int 0
  | "os", "path" => some (.library "os.path")
  | "os", "error" => some (.builtIn "OSError")
  | "os.path", "sep" => text "/"
  | "os.path", "pathsep" => text ":"
  | "re", "I" => int 2
  | "re", "IGNORECASE" => int 2
  | "re", "M" => int 8
  | "re", "MULTILINE" => int 8
  | "re", "S" => int 16
  | "re", "DOTALL" => int 16
  | "re", "X" => int 64
  | "re", "VERBOSE" => int 64
  | "re", "A" => int 256
  | "re", "ASCII" => int 256
  | "re", "U" => int 32
  | "re", "UNICODE" => int 32
  | "abc", "ABC" => some (.builtIn "object")
  | "argparse", "REMAINDER" => text "..."
  | "argparse", "SUPPRESS" => text "==SUPPRESS=="
  | "re", "error" => some (.builtIn "re.error")
  | "re", "Pattern" => some (.builtIn "re.Pattern")
  | "re", "Match" => some (.builtIn "re.Match")
  | "json", "JSONDecodeError" => some (.builtIn "json.decoder.JSONDecodeError")
  | "json", "decoder" => some (.library "json.decoder")
  | "json.decoder", "JSONDecodeError" => some (.builtIn "json.decoder.JSONDecodeError")
  | "string", "ascii_lowercase" => some (.text lowerLetters)
  | "string", "ascii_uppercase" => some (.text upper)
  | "string", "ascii_letters" => some (.text (lowerLetters ++ upper))
  | "string", "digits" => some (.text digits)
  | "string", "hexdigits" => some (.text (digits ++ ascii "abcdefABCDEF"))
  | "string", "octdigits" => some (.text (ascii "01234567"))
  | "string", "punctuation" => some (.text marks)
  | "string", "whitespace" => some (.text [' ', '\t', '\n', '\x0d', '\x0b', '\x0c'])
  | "string", "printable" =>
    some (.text (digits ++ lowerLetters ++ upper ++ marks ++ [' ', '\t', '\n', '\x0d', '\x0b', '\x0c']))
  | "math", "pi" => some (.float 3.141592653589793)
  | "math", "e" => some (.float 2.718281828459045)
  | "math", "tau" => some (.float 6.283185307179586)
  | "math", "inf" => some (.float (1.0 / 0.0))
  | "math", "nan" => some (.float (0.0 / 0.0))
  | "collections", "abc" => some (.library "collections.abc")
  | "subprocess", "PIPE" => int (-1)
  | "subprocess", "STDOUT" => int (-2)
  | "subprocess", "DEVNULL" => int (-3)
  | "subprocess", "CalledProcessError" => some (.builtIn "subprocess.CalledProcessError")
  | "subprocess", "TimeoutExpired" => some (.builtIn "subprocess.TimeoutExpired")
  | "subprocess", "SubprocessError" => some (.builtIn "subprocess.SubprocessError")
  | "binascii", "Error" => some (.builtIn "binascii.Error")
  | "signal", "SIG_DFL" => int 0
  | "signal", "SIG_IGN" => int 1
  | "io", "SEEK_SET" => int 0
  | "typing", "TYPE_CHECKING" => some (.bool false)
  | "typing", name => some (.builtIn ("typing." ++ name))
  | "collections.abc", name => some (.builtIn ("collections.abc." ++ name))
  | "__future__", _ => some .nothing
  | "sys", "flags" => some .nothing
  | "errno", name => (faultNumbers.find? fun entry => entry.1 = name).map fun entry => .int entry.2
  | "signal", name =>
    match name.toList with
    | 'S' :: 'I' :: 'G' :: rest => (Signal.ofName? rest).map fun n => .int n
    | _ => none
  | _, _ => none

/-- What stands under a name in a library. -/
def libraryMember? (library name : String) : Running (Option Value) := do
  match (← look (·.settings)).find? fun entry => entry.1 = library ++ "." ++ name with
  | some (_, value) => return some value
  | none =>
    match libraryConstant library name with
    | some value => return some value
    | none =>
      let functions := ((libraryFunctions.find? fun entry => entry.1 = library).map Prod.snd).getD []
      if functions.contains name then
        if library = "collections" then return some (.builtIn name)
        else return some (.builtIn (library ++ "." ++ name))
      else if library = "builtins" && (builtInNames.contains name || isExceptionName name) then
        return some (.builtIn name)
      else return none

/-! ## Paths -/

/-- The last name of a path. -/
def lastName (path : List Char) : List Char := (path.reverse.takeWhile (· != '/')).reverse

/-- A path without its last name. -/
def parentPath (path : List Char) : List Char :=
  let head := (path.reverse.dropWhile (· != '/')).reverse
  if head.all (· = '/') then head else (head.reverse.dropWhile (· = '/')).reverse

/-- A path cut before the ending of its last name. -/
def splitEnding (path : List Char) : List Char × List Char :=
  let name := lastName path
  let body := name.dropWhile (· = '.')
  if body.contains '.' then
    let ending := '.' :: (name.reverse.takeWhile (· != '.')).reverse
    (path.take (path.length - ending.length), ending)
  else (path, [])

/-- A path without steps that lead nowhere. -/
def normalPath (path : List Char) : List Char :=
  let isRooted := path.head? = some '/'
  let steps := (ByteText.splitAt '/' path).foldl (fun (steps : List (List Char)) step =>
    if step.isEmpty || step = ['.'] then steps
    else if step = ['.', '.'] then
      match steps with
      | last :: rest => if last = ['.', '.'] then step :: steps else rest
      | [] => if isRooted then [] else [step]
    else step :: steps) []
  let text := (steps.reverse.intersperse ['/']).flatten
  if isRooted then '/' :: text else if text.isEmpty then ['.'] else text

/-- The directory that the program runs in. -/
def currentDirectory : Running (List Char) := do
  let process ← program (readThe Process)
  return decoded (Filing.pathOf process.directory)

/-- Paths put together. -/
def joinPaths (paths : List (List Char)) : List Char :=
  match paths with
  | [] => []
  | first :: rest =>
    rest.foldl (fun path next =>
      if next.head? = some '/' then next
      else if path.isEmpty || path.getLast? = some '/' then path ++ next
      else path ++ ['/'] ++ next) first

/-- The text of a path that is an argument. -/
def pathText (value : Value) : Running (List Char) := do return decoded (← pathOf value)

/-- A path from the root on. -/
def absolutePath (path : List Char) : Running (List Char) := do
  return normalPath (joinPaths [← currentDirectory, path])

/-! ## Programs -/

/-- How a program that is started ends, and what it writes. -/
structure Outcome where
  status : Int
  output : ByteText
  errors : ByteText

/-- Starts a program with words, and waits for its end.  Its streams may be those of this program. -/
def startProgram (caller : Caller) (words : List ByteText) (input : Option ByteText)
    (keepsOutput keepsErrors joins : Bool) (environment : Option Environment) :
    Running (Except FileError Outcome) := do
  let output ← system (System.add (.sink [] .ended))
  let errors ← system (System.add (.sink [] .ended))
  let source ← system (System.add (.source (input.getD []) .ended 0))
  let process ← program (readThe Process)
  let put (number channel : Nat) (descriptors : Descriptors) : Descriptors :=
    (number, channel) :: descriptors.filter fun entry => entry.1 != number
  let descriptors := process.descriptors
  let descriptors := if input.isSome then put 0 source descriptors else descriptors
  let descriptors := if keepsOutput then put 1 output descriptors else descriptors
  let descriptors :=
    if joins then
      match descriptors.find? fun entry => entry.1 = 1 with
      | some (_, channel) => put 2 channel descriptors
      | none => descriptors
    else if keepsErrors then put 2 errors descriptors
    else descriptors
  match words with
  | [] => return .error .notFound
  | name :: arguments =>
    let change (process : Process) : Process :=
      { process with descriptors := descriptors
                     environment := environment.getD process.environment }
    match ← program (withReader change (Program.start caller.launcher name arguments)) with
    | .error cause => return .error cause
    | .ok ending =>
      let (written, _) ← system (System.collected output)
      let (complaints, _) ← system (System.collected errors)
      let status : Int := match ending with
        | .exited code => code
        | .killed signal => -(signal : Int)
      return .ok ⟨status, written, complaints⟩

/-- The words of a command. -/
def commandWords (caller : Caller) (command : Value) (isShell : Bool) : Running (List ByteText) := do
  let text : Option ByteText := match command with
    | .text text => some (encoded text)
    | .bytes bytes => some bytes
    | _ => none
  match text, isShell with
  | some text, true => return [ascii "/bin/sh", ascii "-c", text]
  | some text, false => return [text]
  | none, _ => (← items caller command).mapM pathOf

/-- The environment of a table. -/
def environmentOf (caller : Caller) (value : Value) : Running (Option Environment) := do
  match value with
  | .nothing => return none
  | value =>
    let pairs ← pairsOf caller value
    return some (← pairs.mapM fun (name, value) => do return (← pathOf name, ← pathOf value))

/-- Runs a program as arguments say. -/
def runProgram (caller : Caller) (function : String) (arguments : List Value)
    (named : List (String × Value)) : Running Value := do
  let option (name : String) : Value :=
    ((named.find? fun entry => entry.1 = name).map Prod.snd).getD .nothing
  let isTrue (name : String) : Running Bool := truth caller (option name)
  let command := (arguments.head?).getD (option "args")
  let isText := (← isTrue "text") || (← isTrue "universal_newlines") || (← isTrue "encoding")
  let words ← commandWords caller command (← isTrue "shell")
  let is (name : String) (n : Int) : Bool := match option name with
    | .int m => m = n
    | _ => false
  let captures ← isTrue "capture_output"
  let keepsOutput := captures || is "stdout" (-1) || is "stdout" (-3) || function = "check_output"
  let keepsErrors := captures || is "stderr" (-1) || is "stderr" (-3)
  let input : Option ByteText ← match option "input" with
    | .text text => pure (some (encoded text))
    | .bytes bytes => pure (some bytes)
    | _ => do
      if is "stdin" (-3) then pure (some [])
      else
        match ← object? (option "stdin") with
        | some (.file file) => pure (some (← system (System.readAll file.channel)))
        | _ => pure none
  let environment ← environmentOf caller (option "env")
  match ← startProgram caller words input keepsOutput keepsErrors (is "stderr" (-2)) environment with
  | .error cause => failFile cause (.text (decoded (words.head?.getD [])))
  | .ok outcome =>
    match ← object? (option "stdout") with
    | some (.file _) => pure ()
    | _ => pure ()
    let wrap (bytes : ByteText) : Value :=
      if isText then .text (withPlainLines (decoded bytes)) else .bytes bytes
    let output := if keepsOutput && !is "stdout" (-3) then wrap outcome.output else .nothing
    let errors := if keepsErrors && !is "stderr" (-3) then wrap outcome.errors else .nothing
    let mustSucceed := (← isTrue "check") || function = "check_output" || function = "check_call"
    if mustSucceed && outcome.status != 0 then
      let shownCommand ← shown caller command
      let how := if outcome.status < 0 then
          ascii "died with <Signals.SIG" ++ ascii ((Signal.name? outcome.status.natAbs).getD "0")
            ++ ascii ": " ++ ByteText.ofNat outcome.status.natAbs ++ ascii ">."
        else ascii "returned non-zero exit status " ++ ByteText.ofInt outcome.status ++ ['.']
      let exception ← makeException "subprocess.CalledProcessError"
        [.text (ascii "Command '" ++ (match command with
          | .text text => text
          | _ => shownCommand) ++ ascii "' " ++ how)]
      if let .object number := exception then
        putField number "returncode" (.int outcome.status)
        putField number "cmd" command
        putField number "output" output
        putField number "stdout" output
        putField number "stderr" errors
      raise exception
    else
      match function with
      | "check_output" => return output
      | "call" => return .int outcome.status
      | "check_call" => return .int outcome.status
      | "getoutput" => return output
      | _ =>
        make (.record (.builtIn "subprocess.CompletedProcess")
          [("args", command), ("returncode", .int outcome.status), ("stdout", output),
           ("stderr", errors)])

/-! ## Numbers -/

/-- The greatest common divisor. -/
def divisorOf (values : List Int) : Nat := values.foldl (fun n m => Nat.gcd n m.natAbs) 0

/-- The greatest whole number whose square is not above a number. -/
def wholeRoot (n : Nat) : Nat :=
  let rec refine : Nat → Nat → Nat
    | 0, guess => guess
    | fuel + 1, guess =>
      let next := (guess + n / guess) / 2
      if next < guess then refine fuel next else guess
  if n = 0 then 0 else refine (Nat.log2 n + 8) (Nat.pow 2 (Nat.log2 n / 2 + 1))

/-- Calls a function of the library for numbers. -/
def callMath (caller : Caller) (name : String) (arguments : List Value) (named : List (String × Value)) :
    Running Value := do
  let number (value : Value) : Running Float := do
    match float? value with
    | some n => return n
    | none => failType (ascii ("must be real number, not " ++ (← typeName value)))
  let first : Value := (arguments.head?).getD .nothing
  let second : Value := (arguments[1]?).getD .nothing
  let onFloat (f : Float → Float) : Running Value := do return .float (f (← number first))
  let domain : Running Value := fail "ValueError" (ascii "math domain error")
  let whole (f : Float → Float) : Running Value := do
    match int? first with
    | some n => return .int n
    | none =>
      match Record.Number.whole? (f (← number first)) with
      | some n => return .int n
      | none => fail "OverflowError" (ascii "cannot convert float infinity to integer")
  let logarithm (f : Float → Float) : Running Value := do
    let n ← number first
    if n ≤ 0 then domain else return .float (f n)
  match name with
  | "floor" => whole Float.floor
  | "ceil" => whole Float.ceil
  | "trunc" => whole fun n => if n < 0 then n.ceil else n.floor
  | "sqrt" =>
    let n ← number first
    if n < 0 then domain else return .float n.sqrt
  | "isqrt" => return .int (wholeRoot (← wholeOf caller first).toNat)
  | "log" =>
    match second with
    | .nothing => logarithm Float.log
    | base => do
      let n ← number first
      let base ← number base
      if n ≤ 0 then domain else return .float (n.log / base.log)
  | "log2" => logarithm Float.log2
  | "log10" => logarithm Float.log10
  | "exp" => onFloat Float.exp
  | "sin" => onFloat Float.sin
  | "cos" => onFloat Float.cos
  | "tan" => onFloat Float.tan
  | "atan" => onFloat Float.atan
  | "atan2" => return .float (Float.atan2 (← number first) (← number second))
  | "fabs" => onFloat Float.abs
  | "degrees" => onFloat fun n => n * (180.0 / 3.141592653589793)
  | "radians" => onFloat fun n => n * (3.141592653589793 / 180.0)
  | "pow" => return .float (Float.pow (← number first) (← number second))
  | "fmod" => return .float (Record.Number.remainder (← number first) (← number second))
  | "hypot" =>
    let squares ← arguments.mapM fun value => do
      let n ← number value
      return n * n
    return .float (squares.foldl (· + ·) 0.0).sqrt
  | "copysign" =>
    let n ← number first
    return .float (if (← number second) < 0 then -n.abs else n.abs)
  | "isnan" => return .bool (Record.Number.isNothing (← number first))
  | "isinf" =>
    let n ← number first
    return .bool (n == 1.0 / 0.0 || n == -1.0 / 0.0)
  | "isfinite" => return .bool (Record.Number.whole? (← number first)).isSome
  | "isclose" =>
    let a ← number first
    let b ← number second
    return .bool ((a - b).abs ≤ 1e-9 * (if a.abs < b.abs then b.abs else a.abs))
  | "gcd" => return .int (divisorOf (← arguments.mapM (wholeOf caller)))
  | "lcm" =>
    let values ← arguments.mapM (wholeOf caller)
    let multiple : Nat := values.foldl (fun (n : Nat) m => Nat.lcm n m.natAbs) 1
    return .int multiple
  | "factorial" =>
    let n ← wholeOf caller first
    if n < 0 then fail "ValueError" (ascii "factorial() not defined for negative values")
    else
      let product : Nat := (List.range n.toNat).foldl (fun (product : Nat) k => product * (k + 1)) 1
      return .int product
  | "comb" =>
    let n := (← wholeOf caller first).toNat
    let k := (← wholeOf caller second).toNat
    if n < k then return .int 0
    else
      let choices : Nat := (List.range k).foldl (fun (count : Nat) i => count * (n - i) / (i + 1)) 1
      return .int choices
  | "perm" =>
    let n := (← wholeOf caller first).toNat
    let k ← match second with
      | .nothing => pure n
      | k => do pure (← wholeOf caller k).toNat
    if n < k then return .int 0
    else
      let orders : Nat := (List.range k).foldl (fun (count : Nat) i => count * (n - i)) 1
      return .int orders
  | "prod" =>
    let start := ((named.find? fun entry => entry.1 = "start").map Prod.snd).getD (.int 1)
    (← items caller first).foldlM (operate caller .multiply) start
  | "fsum" =>
    let values ← (← items caller first).mapM number
    return .float (values.foldl (· + ·) 0.0)
  | name => failMember (.library "math") name

/-! ## Rows -/

/-- The choices of so many things out of some, in order. -/
def choicesOf : Nat → List Value → List (List Value)
  | 0, _ => [[]]
  | _ + 1, [] => []
  | count + 1, item :: rest =>
    (choicesOf count rest).map (item :: ·) ++ choicesOf (count + 1) rest

/-- The orders of so many things out of some. -/
def ordersOf : Nat → List Value → List (List Value)
  | 0, _ => [[]]
  | count + 1, values =>
    values.zipIdx.flatMap fun (item, place) =>
      (ordersOf count (values.eraseIdx place)).map (item :: ·)

/-- Values in groups of those that stand together and have the same key. -/
def groupsOf (caller : Caller) (key : Value → Running Value) :
    List Value → Option (Value × List Value) → List (Value × List Value) →
    Running (List (Value × List Value))
  | [], current, groups => return (current.toList ++ groups).reverse
  | item :: rest, current, groups => do
    let own ← key item
    match current with
    | some (name, members) =>
      if ← equal caller name own then groupsOf caller key rest (some (name, item :: members)) groups
      else groupsOf caller key rest (some (own, [item])) ((name, members) :: groups)
    | none => groupsOf caller key rest (some (own, [item])) groups

/-- How many values are given at most by something that would never end. -/
def mostEndless : Nat := 10000

/-- Calls a function of the library for rows. -/
def callRows (caller : Caller) (name : String) (arguments : List Value) (named : List (String × Value)) :
    Running Value := do
  let option (name : String) : Option Value := (named.find? fun entry => entry.1 = name).map Prod.snd
  let first : Value := (arguments.head?).getD .nothing
  let second : Value := (arguments[1]?).getD .nothing
  let int (place : Nat) (other : Int) : Int := ((arguments[place]?).bind int?).getD other
  match name with
  | "chain" =>
    let all ← arguments.mapM (items caller)
    giver "itertools.chain" all.flatten
  | "chain.from_iterable" =>
    let all ← (← items caller first).mapM (items caller)
    giver "itertools.chain" all.flatten
  | "islice" =>
    let (start, stop, step) : Int × Option Int × Int :=
      match arguments with
      | [_, stop] => (0, int? stop, 1)
      | [_, start, stop] => ((int? start).getD 0, int? stop, 1)
      | _ :: start :: stop :: step :: _ => ((int? start).getD 0, int? stop, (int? step).getD 1)
      | _ => (0, none, 1)
    let source ← iteratorOf caller first
    let rec take : Nat → Nat → List Value → Running (List Value)
      | 0, _, taken => return taken.reverse
      | fuel + 1, place, taken => do
        if stop.any fun stop => stop ≤ (place : Int) then return taken.reverse
        else
          match ← nextValue caller source with
          | none => return taken.reverse
          | some item =>
            let isTaken := start ≤ place && ((place : Int) - start) % (max step 1) = 0
            take fuel (place + 1) (if isTaken then item :: taken else taken)
    giver "itertools.islice" (← take mostItems 0 [])
  | "zip_longest" =>
    let filler := (option "fillvalue").getD .nothing
    let rows ← arguments.mapM (items caller)
    let longest := rows.foldl (fun n row => max n row.length) 0
    giver "itertools.zip_longest" ((List.range longest).map fun place =>
      .tuple (rows.map fun row => (row[place]?).getD filler))
  | "product" =>
    let rows ← arguments.mapM (items caller)
    let times := ((option "repeat").bind int?).getD 1
    let rows := (List.replicate times.toNat rows).flatten
    let all := rows.foldr (fun row later => row.flatMap fun item => later.map (item :: ·)) [[]]
    giver "itertools.product" (all.map Value.tuple)
  | "permutations" =>
    let values ← items caller first
    let count := (int 1 values.length).toNat
    giver "itertools.permutations" ((ordersOf count values).map Value.tuple)
  | "combinations" =>
    let values ← items caller first
    giver "itertools.combinations" ((choicesOf (int 1 0).toNat values).map Value.tuple)
  | "repeat" =>
    let count := match arguments[1]? with
      | some n => ((int? n).getD 0).toNat
      | none => mostEndless
    giver "itertools.repeat" (List.replicate count first)
  | "count" =>
    let start := int 0 0
    let step := int 1 1
    giver "itertools.count" ((List.range mostEndless).map fun (n : Nat) => .int (start + step * (n : Int)))
  | "cycle" =>
    let values ← items caller first
    if values.isEmpty then giver "itertools.cycle" []
    else giver "itertools.cycle" (List.replicate (mostEndless / values.length + 1) values).flatten
  | "takewhile" =>
    let rec taken : List Value → Running (List Value)
      | [] => return []
      | item :: rest => do
        if ← truth caller (← caller.call first [item] []) then return item :: (← taken rest)
        else return []
    giver "itertools.takewhile" (← taken (← items caller second))
  | "dropwhile" =>
    let rec dropped : List Value → Running (List Value)
      | [] => return []
      | item :: rest => do
        if ← truth caller (← caller.call first [item] []) then dropped rest
        else return item :: rest
    giver "itertools.dropwhile" (← dropped (← items caller second))
  | "filterfalse" =>
    let kept ← (← items caller second).filterM fun item => do
      match first with
      | .nothing => return !(← truth caller item)
      | function => return !(← truth caller (← caller.call function [item] []))
    giver "itertools.filterfalse" kept
  | "compress" =>
    let values ← items caller first
    let marks ← items caller second
    let kept ← (values.zip marks).filterM fun (_, mark) => truth caller mark
    giver "itertools.compress" (kept.map Prod.fst)
  | "starmap" =>
    let results ← (← items caller second).mapM fun row => do
      caller.call first (← items caller row) []
    giver "itertools.starmap" results
  | "pairwise" =>
    let values ← items caller first
    giver "itertools.pairwise" ((values.zip (values.drop 1)).map fun (a, b) => .tuple [a, b])
  | "tee" =>
    let values ← items caller first
    let count := (int 1 2).toNat
    let copies ← (List.range count).mapM fun _ => giver "itertools._tee" values
    return .tuple copies
  | "accumulate" =>
    let combine (a b : Value) : Running Value := do
      match arguments[1]?.or (option "func") with
      | some .nothing => operate caller .add a b
      | none => operate caller .add a b
      | some function => caller.call function [a, b] []
    let values ← items caller first
    let values := (option "initial").toList ++ values
    match values with
    | [] => giver "itertools.accumulate" []
    | start :: rest =>
      let (sums, _) ← rest.foldlM (fun ((sums, last) : List Value × Value) item => do
        let next ← combine last item
        return (next :: sums, next)) ([start], start)
      giver "itertools.accumulate" sums.reverse
  | "groupby" =>
    let key (item : Value) : Running Value := do
      match arguments[1]?.or (option "key") with
      | some .nothing => return item
      | none => return item
      | some function => caller.call function [item] []
    let groups ← groupsOf caller key (← items caller first) none []
    let rows ← groups.mapM fun (name, members) => do
      return Value.tuple [name, ← giver "itertools._grouper" members.reverse]
    giver "itertools.groupby" rows
  | name => failMember (.library "itertools") name

/-! ## Copies -/

/-- A copy of a value, with copies of all that it holds if it is a deep one.  Each step goes a level
down. -/
def copied (isDeep : Bool) : Nat → Value → Running Value
  | 0, value => return value
  | fuel + 1, value => do
    let inner (value : Value) : Running Value := if isDeep then copied isDeep fuel value else return value
    match value with
    | .tuple items => return .tuple (← items.mapM inner)
    | .object number =>
      match ← objectAt number with
      | .list items => list (← items.toList.mapM inner)
      | .queue items most => make (.queue (← items.toList.mapM inner).toArray most)
      | .table kind table =>
        let pairs ← table.entries.mapM fun (key, value) => do return (key, ← inner value)
        make (.table kind (← withPairs {} pairs))
      | .set isFrozen table => make (.set isFrozen table)
      | .record type fields =>
        let fields ← fields.mapM fun (name, value) => do return (name, ← inner value)
        make (.record type fields)
      | _ => return value
    | value => return value

/-! ## Words of a command -/

/-- A text as a word of a command. -/
def shellWord (text : List Char) : List Char :=
  if text.isEmpty then ['\'', '\'']
  else if text.all fun c => c.isAlphanum || (ascii "@%+=:,./-_").contains c then text
  else ['\''] ++ Chars.replaceAll ['\''] (ascii "'\"'\"'") none text ++ ['\'']

/-- The words of a command in a text.  Each step takes a character. -/
def shellWords : Nat → List Char → Option (List Char) → List (List Char) → Option (List (List Char))
  | 0, _, _, words => some words.reverse
  | _ + 1, [], word, words => some ((word.map List.reverse).toList ++ words).reverse
  | fuel + 1, c :: rest, word, words =>
    if isSpaceChar c then shellWords fuel rest none ((word.map List.reverse).toList ++ words)
    else if c = '\'' then
      let inner := rest.takeWhile (· != '\'')
      if inner.length = rest.length then none
      else shellWords fuel (rest.drop (inner.length + 1)) (some (inner.reverse ++ word.getD [])) words
    else if c = '"' then
      let inner := rest.takeWhile (· != '"')
      if inner.length = rest.length then none
      else shellWords fuel (rest.drop (inner.length + 1)) (some (inner.reverse ++ word.getD [])) words
    else if c = '\\' then
      match rest with
      | d :: rest => shellWords fuel rest (some (d :: word.getD [])) words
      | [] => none
    else shellWords fuel rest (some (c :: word.getD [])) words

end Running

end SchemaDocs.Shell.Indent
