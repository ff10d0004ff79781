import SchemaDocs.Shell.Start
import SchemaDocs.Shell.Tool.Arguments
import SchemaDocs.Shell.Tool.Blocks
import SchemaDocs.Shell.Tool.Chance
import SchemaDocs.Shell.Tool.Checksum
import SchemaDocs.Shell.Tool.Columns
import SchemaDocs.Shell.Tool.Copy
import SchemaDocs.Shell.Tool.Count
import SchemaDocs.Shell.Tool.Dump
import SchemaDocs.Shell.Tool.Edit.Run
import SchemaDocs.Shell.Tool.Encoding
import SchemaDocs.Shell.Tool.Ends
import SchemaDocs.Shell.Tool.Expression
import SchemaDocs.Shell.Tool.Filing.Copy
import SchemaDocs.Shell.Tool.Filing.Make
import SchemaDocs.Shell.Tool.Filing.Owner
import SchemaDocs.Shell.Tool.Filing.List
import SchemaDocs.Shell.Tool.Moment
import SchemaDocs.Shell.Tool.Number
import SchemaDocs.Shell.Tool.Indent.Command
import SchemaDocs.Shell.Tool.Machine
import SchemaDocs.Shell.Tool.Order
import SchemaDocs.Shell.Tool.Pack
import SchemaDocs.Shell.Tool.Pages
import SchemaDocs.Shell.Tool.Pieces
import SchemaDocs.Shell.Tool.Print
import SchemaDocs.Shell.Tool.Recode
import SchemaDocs.Shell.Tool.Record.Run
import SchemaDocs.Shell.Tool.Search
import SchemaDocs.Shell.Tool.Sigil.Command
import SchemaDocs.Shell.Tool.Starting
import SchemaDocs.Shell.Tool.Translate
import SchemaDocs.Shell.Tool.Verdict
/-!
# All programs

The programs that can be started.  Those that start others find all of them again, up to
some depth.
-/

namespace SchemaDocs.Shell

/-- A program that starts no others, with a message if its output could not be written. -/
def Tool.complete (tool : Tool) : Program Ending := do
  modify fun world => { world with writeFault := none }
  let code ← tool
  match (← get).writeFault with
  | none => return .exited code
  | some fault =>
    Program.complain (ascii "write error: " ++ ascii fault.reason)
    return .exited (if code = 0 then 1 else code)

namespace Launcher

/-- The programs that start no others. -/
def tools : List (String × Tool) :=
  [("basename", Tool.basename), ("cat", Tool.cat), ("chmod", Tool.chmod), ("comm", Tool.comm),
   ("cp", Tool.cp), ("cut", Tool.cut), ("dirname", Tool.dirname), ("echo", Tool.echo),
   ("egrep", Tool.grepOf .extended), ("expand", Tool.expand), ("false", Tool.ending 1),
   ("fgrep", Tool.grepOf .fixed), ("fold", Tool.fold), ("grep", Tool.grep .basic),
   ("head", Tool.head), ("ls", Tool.ls), ("mkdir", Tool.mkdir), ("mktemp", Tool.mktemp),
   ("mv", Tool.mv), ("nl", Tool.nl), ("paste", Tool.paste), ("printenv", Tool.printenv),
   ("pwd", Tool.pwd), ("realpath", Tool.realpath), ("rev", Tool.rev), ("rm", Tool.rm),
   ("rmdir", Tool.rmdir), ("seq", Tool.seq), ("sleep", Tool.sleep), ("sort", Tool.sort),
   ("tac", Tool.tac), ("tail", Tool.tail), ("tee", Tool.tee), ("touch", Tool.touch),
   ("tr", Tool.tr), ("true", Tool.ending 0), ("unexpand", Tool.unexpand), ("uniq", Tool.uniq),
   ("unlink", Tool.unlink), ("wc", Tool.wc), ("which", Tool.which),
   ("whoami", Tool.teller (Tool.tell "root")), ("yes", Tool.yes), ("cksum", Tool.cksum), ("sum", Tool.sum),
   ("base64", Tool.encodeWith .sixtyFour), ("base32", Tool.encodeWith .thirtyTwo),
   ("od", Tool.od), ("chgrp", Tool.chgrp), ("chown", Tool.chown), ("install", Tool.install),
   ("link", Tool.link), ("ln", Tool.ln), ("readlink", Tool.readlink), ("stat", Tool.stat),
   ("truncate", Tool.truncate), ("cmp", Tool.cmp), ("dd", Tool.dd), ("expr", Tool.expr),
   ("factor", Tool.factor), ("numfmt", Tool.numfmt), ("arch", Tool.arch), ("b2sum", Tool.b2sum),
   ("basenc", Tool.basenc), ("csplit", Tool.csplit), ("date", Tool.date), ("groups", Tool.groupsOf),
   ("gunzip", Tool.gunzip), ("gzip", Tool.gzip), ("zcat", Tool.zcat),
   ("hostid", Tool.hostid), ("iconv", Tool.iconv), ("id", Tool.id), ("logname", Tool.logname), ("nproc", Tool.nproc),
   ("pr", Tool.pr), ("printf", Tool.printf),
   ("shuf", Tool.shuf), ("stty", Tool.stty), ("tty", Tool.tty), ("uname", Tool.uname), ("users", Tool.silent),
   ("test", Tool.test), ("[", Tool.bracket)]
  ++ Tool.digestKinds.map fun (name, kind) => (name, Tool.digestOf kind)

/-- The programs that start others, which they find in a launcher. -/
def starters (inner : Launcher) : List (String × Program Ending) :=
  [("awk", (Tool.awk inner).complete), ("mawk", (Tool.awk inner).complete),
   ("python3", Tool.python inner), ("python3.12", Tool.python inner),
   ("perl", Tool.perl inner),
   ("env", Tool.env inner), ("nice", Tool.nice inner), ("nohup", Tool.nohup inner),
   ("sed", (Tool.sed inner).complete), ("setsid", Tool.setsid inner), ("split", (Tool.split inner).complete),
   ("stdbuf", Tool.stdbuf inner), ("timeout", Tool.timeout inner),
   ("xargs", Tool.xargs inner)]

/-- All programs, where those that start others do so up to some depth. -/
def ofDepth : Nat → Launcher
  | 0 => ⟨fun _ => none⟩
  | depth + 1 =>
    let inner := ofDepth depth
    ⟨fun name =>
      if name = ascii "sh" || name = ascii "dash" then some (shell .sh inner (1000 - depth))
      else if name = ascii "bash" then some (shell .bash inner (1000 - depth))
      else
        match tools.find? fun entry => ascii entry.1 = name with
        | some (_, tool) => some tool.complete
        | none => ((starters inner).find? fun entry => ascii entry.1 = name).map Prod.snd⟩

/-- The depth up to which programs start others. -/
def deepest : Nat := 40

/-- All programs. -/
def full : Launcher := ofDepth deepest

end Launcher

end SchemaDocs.Shell
