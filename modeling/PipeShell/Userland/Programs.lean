import PipeShell.Userland.Buffering
import PipeShell.Userland.Cat
import PipeShell.Userland.Columns
import PipeShell.Userland.Conditions
import PipeShell.Userland.Copying
import PipeShell.Userland.Editor
import PipeShell.Userland.Expression
import PipeShell.Userland.Filters
import PipeShell.Userland.HeadTail
import PipeShell.Userland.Listing
import PipeShell.Userland.Making
import PipeShell.Userland.Mapping
import PipeShell.Userland.Modes
import PipeShell.Userland.Numbering
import PipeShell.Userland.Paths
import PipeShell.Userland.Printf
import PipeShell.Userland.Removing
import PipeShell.Userland.Running
import PipeShell.Userland.Sequence
import PipeShell.Userland.Shell
import PipeShell.Userland.Sorting
import PipeShell.Userland.Status
import PipeShell.Userland.Widths

/-!
# The programs of a system

Every program by its name.
-/

namespace PipeShell.Userland

/-- The environment that programs usually start with. -/
def baseEnvironment : Environment :=
  [("PATH", "/usr/local/bin:/usr/bin:/bin"), ("LC_ALL", "C")]

/-- Every program of a system, by its name. -/
def commands : List (String × (Call → Action Nat)) :=
  [("true", fun _ ↦ return 0),
    ("false", fun _ ↦ return 1),
    ("echo", echoMain),
    ("printf", printfMain),
    ("cat", catMain),
    ("head", holdingBack 1 headMain),
    ("tail", holdingBack 1 tailMain),
    ("tac", holdingBack 1 tacMain),
    ("tee", teeMain),
    ("yes", yesMain),
    ("cut", holdingBack 1 cutMain),
    ("paste", holdingBack 1 pasteMain),
    ("fold", holdingBack 1 foldMain),
    ("expand", holdingBack 1 expandMain),
    ("unexpand", holdingBack 1 unexpandMain),
    ("nl", holdingBack 1 nlMain),
    ("wc", wcMain),
    ("tr", holdingBack 1 trMain),
    ("seq", holdingBack 1 seqMain),
    ("sort", sortMain),
    ("uniq", holdingBack 1 uniqMain),
    ("comm", holdingBack 1 commMain),
    ("env", envMain),
    ("printenv", printenvMain),
    ("nice", niceMain),
    ("nohup", nohupMain),
    ("sleep", sleepMain),
    ("basename", basenameMain),
    ("dirname", dirnameMain),
    ("pwd", pwdMain),
    ("readlink", readlinkMain),
    ("realpath", realpathMain),
    ("touch", touchMain),
    ("truncate", truncateMain),
    ("mkdir", holdingBack 1 mkdirMain),
    ("rmdir", holdingBack 1 rmdirMain),
    ("rm", holdingBack 1 rmMain),
    ("unlink", unlinkMain),
    ("link", linkMain),
    ("ln", holdingBack 1 lnMain),
    ("cp", holdingBack 1 cpMain),
    ("mv", holdingBack 1 mvMain),
    ("chmod", holdingBack 1 chmodMain),
    ("ls", holdingBack 2 lsMain),
    ("dir", holdingBack 2 dirMain),
    ("stat", holdingBack 1 statMain),
    ("test", testMain),
    ("[", bracketMain),
    ("expr", exprMain),
    ("sed", sedMain),
    ("sh", Shell.shMain),
    ("dash", Shell.shMain)]

/-- The programs of a system. -/
def programs : List (String × (List String → Environment → Program)) :=
  commands.map fun (name, main) ↦
    (name, fun args environment ↦ (main (.ofArguments args environment)).toProgram)

end PipeShell.Userland
