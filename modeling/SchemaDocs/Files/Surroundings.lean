import SchemaDocs.Text.Basic
import SchemaDocs.Text.Utf8
/-!
# Paths and surroundings

Ways through directories, and what they lead to before anything is written.

## Paths

A path is a way through directories: names between slashes, from the root or from where
one stands.
-/

namespace SchemaDocs

/-- The steps of a way, each into a directory. -/
abbrev Steps := List String

/-- A path cut into names. -/
structure FilePath where
  /-- Whether the path begins at the root. -/
  isAbsolute : Bool
  /-- The names, among them single and double dots. -/
  names : List String
  /-- Whether the path ends in a slash, so that it can only name a directory. -/
  endsInSlash : Bool
deriving DecidableEq

/-- The greatest number of bytes of a name in a path. -/
def longestName : Nat := 255

/-- The greatest number of bytes of a path. -/
def longestPath : Nat := 4095

namespace FilePath

/-- Cuts a path at its slashes.  Two slashes are as good as one. -/
def ofString (path : String) : FilePath :=
  let names := (Text.splitAt '/' path.toList).map String.ofList
  ⟨path.toList.head? = some '/', names.filter (· != ""), names.getLast? = some ""⟩

/-- Whether the last name is a single or double dot. -/
def endsInDots (path : FilePath) : Bool :=
  path.names.getLast? = some "." || path.names.getLast? = some ".."

end FilePath

/-- Whether a name has more bytes than a name may have. -/
def isTooLongName (name : String) : Bool := longestName < name.utf8ByteSize

end SchemaDocs

/-!
## What is there anyway

The directories, files and devices that are there before anything is written.  What the
files hold is not known; the devices hold nothing, or more than can be read.
-/

namespace SchemaDocs

/-- A device. -/
inductive Device where
  /-- Swallows all and holds nothing. -/
  | null
  /-- Swallows all and gives zeros for ever. -/
  | zero
  /-- Has no room for anything, and gives zeros for ever. -/
  | full
  /-- Swallows all and gives noise for ever. -/
  | noise
  /-- Is not there for a program without a terminal. -/
  | terminal
  /-- The streams of a program. -/
  | stream (descriptor : Nat)
deriving DecidableEq

/-- What stands at the end of a way. -/
inductive FileKind where
  | directory
  | file
  | device (device : Device)
  /-- A path that is to be followed instead. -/
  | link
  | missing
deriving DecidableEq

namespace Surroundings

/-- The directory of programs. -/
def programSteps : Steps := ["usr", "bin"]

/-- The programs that are there. -/
def programs : List String :=
  ["arch", "awk", "b2sum", "base32", "base64", "basename", "bash", "basenc", "cat", "chgrp",
   "chmod", "chown", "cksum", "clear", "cmp", "comm", "cp", "csplit", "cut", "dash", "date", "dd",
   "df", "diff", "dir", "dircolors", "dirname", "du", "echo", "egrep", "env", "expand", "expr",
   "factor", "false", "fgrep", "find", "fmt", "fold", "getopt", "grep", "groups", "gunzip",
   "gzip", "head", "hostid", "hostname", "iconv", "id", "install", "join", "kill", "link", "ln",
   "logname", "ls", "mawk", "md5sum", "mkdir", "mkfifo", "mknod", "mktemp", "more", "mv", "nawk",
   "nice", "nl", "nohup", "nproc", "numfmt", "od", "paste", "pathchk", "perl", "pinky", "pr",
   "printenv", "printf", "ptx", "pwd", "python3", "python3.12", "readlink", "realpath", "rev", "rm", "rmdir", "runcon",
   "sed", "seq", "setsid", "sh", "sha1sum", "sha224sum", "sha256sum", "sha384sum", "sha512sum",
   "shred", "shuf", "sleep", "sort", "split", "stat", "stdbuf", "stty", "sum", "sync", "tac",
   "tail", "tar", "tee", "test", "timeout", "touch", "tr", "true", "truncate", "tsort", "tty",
   "uname", "unexpand", "uniq", "unlink", "uptime", "users", "vdir", "wc", "which", "who",
   "whoami", "xargs", "yes", "zcat", "["]

/-- Names directly under the root that stand for a directory under `usr`. -/
def linkedNames : List String := ["bin", "lib", "lib64", "sbin"]

/-- Steps with a linked name at their head replaced. -/
def followLinks : Steps → Steps
  | name :: rest => if linkedNames.contains name then "usr" :: name :: rest else name :: rest
  | [] => []

/-- The directories that are there. -/
def directories : List Steps :=
  [[], ["boot"], ["dev"], ["dev", "fd"], ["dev", "mqueue"], ["dev", "pts"], ["dev", "shm"],
   ["etc"], ["etc", "alternatives"], ["etc", "apt"], ["etc", "cron.d"], ["etc", "cron.daily"],
   ["etc", "default"], ["etc", "dpkg"], ["etc", "init.d"], ["etc", "ld.so.conf.d"],
   ["etc", "pam.d"], ["etc", "profile.d"], ["etc", "security"], ["etc", "skel"],
   ["etc", "ssl"], ["etc", "ssl", "certs"], ["etc", "systemd"], ["home"], ["media"], ["mnt"],
   ["opt"], ["proc"], ["proc", "1"], ["proc", "self"], ["proc", "self", "fd"], ["proc", "sys"],
   ["root"], ["run"], ["run", "lock"], ["srv"], ["sys"], ["sys", "class"], ["sys", "kernel"],
   ["tmp"], ["usr"], ["usr", "bin"], ["usr", "games"], ["usr", "include"], ["usr", "lib"],
   ["usr", "lib64"], ["usr", "libexec"], ["usr", "local"], ["usr", "local", "bin"],
   ["usr", "local", "etc"], ["usr", "local", "include"], ["usr", "local", "lib"],
   ["usr", "local", "sbin"], ["usr", "local", "share"], ["usr", "local", "src"], ["usr", "sbin"],
   ["usr", "share"], ["usr", "share", "doc"], ["usr", "share", "man"], ["usr", "src"], ["var"],
   ["var", "backups"], ["var", "cache"], ["var", "lib"], ["var", "local"], ["var", "log"],
   ["var", "mail"], ["var", "opt"], ["var", "spool"], ["var", "tmp"]]

/-- The files that are there, programs apart. -/
def files : List Steps :=
  [["etc", "bash.bashrc"], ["etc", "debian_version"], ["etc", "environment"], ["etc", "fstab"],
   ["etc", "group"], ["etc", "gshadow"], ["etc", "host.conf"], ["etc", "hostname"],
   ["etc", "hosts"], ["etc", "issue"], ["etc", "ld.so.cache"], ["etc", "ld.so.conf"],
   ["etc", "login.defs"], ["etc", "mtab"], ["etc", "nsswitch.conf"], ["etc", "os-release"],
   ["etc", "passwd"], ["etc", "profile"], ["etc", "resolv.conf"], ["etc", "shadow"],
   ["etc", "shells"], ["proc", "cpuinfo"], ["proc", "meminfo"], ["proc", "mounts"],
   ["proc", "uptime"], ["proc", "version"], ["root", ".bashrc"], ["root", ".profile"],
   ["usr", "lib", "os-release"]]

/-- The device at the end of steps. -/
def device? : Steps → Option Device
  | ["dev", "null"] => some .null
  | ["dev", "zero"] => some .zero
  | ["dev", "full"] => some .full
  | ["dev", "random"] => some .noise
  | ["dev", "urandom"] => some .noise
  | ["dev", "tty"] => some .terminal
  | ["dev", "stdin"] => some (.stream 0)
  | ["dev", "stdout"] => some (.stream 1)
  | ["dev", "stderr"] => some (.stream 2)
  | ["dev", "fd", "0"] => some (.stream 0)
  | ["dev", "fd", "1"] => some (.stream 1)
  | ["dev", "fd", "2"] => some (.stream 2)
  | ["proc", "self", "fd", "0"] => some (.stream 0)
  | ["proc", "self", "fd", "1"] => some (.stream 1)
  | ["proc", "self", "fd", "2"] => some (.stream 2)
  | _ => none

/-- Whether files can be made in a directory that is there. -/
def isWritable : Steps → Bool
  | "proc" :: _ => false
  | "sys" :: _ => false
  | _ => true

end Surroundings

end SchemaDocs
