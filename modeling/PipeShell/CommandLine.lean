import PipeShell.LogFilter
import PipeShell.Session

/-!
# The command line

The program takes one script, or reads lines from its standard input.  Options
come before or after the script; a `--` says that no more follow, and `help`
or `--help` asks for the usage instead of a run.
-/

namespace PipeShell

/-- What the command line sets. -/
structure Options where
  script : Option String
  prompt : Option String
  noColor : Bool
  logLevel : Option String
  deriving DecidableEq, Repr

/-- What the command line asks for. -/
inductive Invocation where
  | run (options : Options)
  | help
  | invalid (message : String)
  deriving DecidableEq, Repr

namespace CommandLine

/-- The name of the program. -/
def name : String := "pipesh"

/-- The prompt of an interactive session, with colours and without. -/
def colouredPrompt : String :=
  "\x1b[1;34mje \x1b[1;37msuis \x1b[1;31mcharlie \x1b[1;37m$ \x1b[0m"

def plainPrompt : String := "je suis charlie $ "

/-- The prompt that the options ask for. -/
def prompt (o : Options) : String :=
  o.prompt.getD (if o.noColor then plainPrompt else colouredPrompt)

def usage : String := String.intercalate "\n" [
  s!"Usage: {name} [--prompt <prompt>] [--no-color] [--log-level <log-level>] [--] [<script>]",
  "",
  "Run pipelines of programs, one line at a time.",
  "",
  "Positional Arguments:",
  "  script            file to read lines from instead of the terminal.",
  "",
  "Options:",
  "  --prompt          prompt to show before each interactive line.",
  "  --no-color        use a prompt without colours.",
  "  --log-level       log filter used when RUST_LOG is not set (e.g. \"debug\").",
  "  --help, help      display usage information",
  ""]

/-- The part of the command line read so far. -/
structure Reading where
  options : Options
  helpAsked : Bool
  optionsEnded : Bool

def unrecognized (argument : String) : Invocation :=
  .invalid s!"Unrecognized argument: {argument}\n"

def noValue (option : String) : Invocation :=
  .invalid s!"No value provided for option '{option}'.\n"

def duplicateValue (option value : String) : Invocation :=
  .invalid s!"Error parsing option '{option}' with value '{value}': duplicate values provided\n"

/-- Reads arguments, first to last, until one of them is wrong. -/
def read (r : Reading) : List String → Invocation
  | [] => if r.helpAsked then .help else .run r.options
  | argument :: rest =>
      if r.optionsEnded || !argument.startsWith "-" && argument != "help" then
        match r.options.script with
        | none => read { r with options := { r.options with script := some argument } } rest
        | some _ => unrecognized argument
      else if argument = "--help" ∨ argument = "help" then
        read { r with helpAsked := true } rest
      else if argument = "--" then read { r with optionsEnded := true } rest
      else if r.helpAsked then .invalid "Trailing arguments are not allowed after \x60help\x60."
      else if argument = "--no-color" then
        read { r with options := { r.options with noColor := true } } rest
      else if argument = "--prompt" then
        match rest with
        | [] => noValue argument
        | value :: rest =>
            if r.options.prompt.isSome then duplicateValue argument value
            else read { r with options := { r.options with prompt := some value } } rest
      else if argument = "--log-level" then
        match rest with
        | [] => noValue argument
        | value :: rest =>
            if r.options.logLevel.isSome then duplicateValue argument value
            else read { r with options := { r.options with logLevel := some value } } rest
      else unrecognized argument

/-- What a list of arguments asks for. -/
def invocation (arguments : List String) : Invocation :=
  read ⟨⟨none, none, false, none⟩, false, false⟩ arguments

/-- Tells of a failure on standard error. -/
def tellFailure (f : Failure) (w : World) : World :=
  (w.write 2 (encode s!"Error: {f.report}\n")).2

/-- Runs the lines read under a descriptor; the code says whether they could all
be read and every report written.  There is none if the script has not come to
its end after so many lines. -/
def runLines (sched : Scheduler) (lines : Nat) (fd : Descriptor) (w : World) :
    Option Nat × World :=
  let session := Session.begin .new .standardError (DescriptorLines.ofDescriptor fd) w
  match session.run sched lines with
  | (some (.ok ()), s) => (some 0, s.world)
  | (some (.error f), s) => (some 1, tellFailure f s.world)
  | (none, s) => (none, s.world)

/-- The log filter that is used if nothing is said of one. -/
def usualFilter : String := "warn"

/-- The variable that holds a log filter. -/
def filterVariable : String := "RUST_LOG"

/-- Tells what is wrong with the log filter.  One in the environment is used if it
can be read, and otherwise the one of the options, as far as it can be read. -/
def tellFilter (o : Options) (w : World) : World :=
  match w.environment.lookup filterVariable with
  | some filter => if LogFilter.isValid filter then w else told
  | none => told
where
  told : World := (w.write 2 (encode (LogFilter.complaints (o.logLevel.getD usualFilter)))).2

/-- Does what the arguments ask for. -/
def run (sched : Scheduler) (lines : Nat) (arguments : List String) (w : World) :
    Option Nat × World :=
  match invocation arguments with
  | .help => (some 0, (w.write 1 (encode (usage ++ "\n"))).2)
  | .invalid message =>
      (some 1, (w.write 2 (encode s!"{message}\nRun {name} --help for more information.\n")).2)
  | .run options =>
      let w := tellFilter options w
      match options.script with
      | none => runLines sched lines 0 w
      | some path =>
          match w.openFile path .read with
          | .ok (fd, w) => runLines sched lines fd w
          | .error cause =>
              let failure := (Failure.ofText cause.message).within s!"unable to open script {path}"
              (some 1, tellFailure failure w)

end CommandLine

end PipeShell
