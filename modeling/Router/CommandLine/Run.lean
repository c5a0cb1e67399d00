import Router.CommandLine.Arguments
import Router.CommandLine.Report

/-!
Runs of the command line. A run reads the arguments, then the table, then answers the command, and the first
part that fails ends it. The parts are actions, which write as they go: a list of routes is written line by
line, and a part that fails leaves behind what has been written before.
-/

set_option autoImplicit false
set_option relaxedAutoImplicit false

namespace Router.CommandLine

/-- A piece of text that goes to the standard output or to the log. -/
inductive Write
  | output (text : String)
  | log (text : String)
  deriving DecidableEq, Repr

def Write.output? : Write → Option String
  | output text => some text
  | log _ => none

def Write.log? : Write → Option String
  | output _ => none
  | log text => some text

/-- A part of a run: what it gives, unless a problem ends it, and what it has written by then, in order. -/
structure Action (α : Type) where
  result : Except Problem α
  writes : List Write

namespace Action

variable {α β : Type}

protected def pure (x : α) : Action α := ⟨.ok x, []⟩

-- What has been written stays when a later part fails.
protected def bind (a : Action α) (f : α → Action β) : Action β :=
  match a.result with
  | .ok x =>
    let b := f x
    ⟨b.result, a.writes ++ b.writes⟩
  | .error problem => ⟨.error problem, a.writes⟩

instance : Monad Action where
  pure := Action.pure
  bind := Action.bind

def print (text : String) : Action Unit := ⟨.ok (), [.output text]⟩

def log (text : String) : Action Unit := ⟨.ok (), [.log text]⟩

def fail (problem : Problem) : Action α := ⟨.error problem, []⟩

def ofExcept {ε : Type} (problem : ε → Problem) : Except ε α → Action α
  | .ok x => pure x
  | .error e => fail (problem e)

end Action

/-- An event goes to the log if it matters enough. -/
def logEvent (options : Options) (e : Event) : Action Unit :=
  if options.verbose || e.level != .debug then .log e.line else pure ()

def programName : String := "oxide-routing"

def versionText : String := programName ++ " 0.1.0\n"

def usage : String := "Usage: " ++ programName ++ " [OPTIONS] <COMMAND>\n"

def helpText : String :=
  "Inspect route matching for a JSON route table\n\n" ++ usage ++
  "\nCommands:\n" ++
  "  match  Show the routes a request would hit, in priority order\n" ++
  "  which  Show the template a handler is registered under\n" ++
  "  list   List every route in the table\n" ++
  "  help   Print this message or the help of the given subcommand(s)\n" ++
  "\nOptions:\n" ++
  "  -r, --routes <ROUTES>          Route table file [env: OXIDE_ROUTES=] [default: routes.json]\n" ++
  "      --strict-trailing-slashes  Treat trailing slashes as significant, whatever the table says\n" ++
  "  -v, --verbose                  Enable verbose output\n" ++
  "  -h, --help                     Print help\n" ++
  "  -V, --version                  Print version\n"

def defaultFile : String := "routes.json"

/-- The table file of a run: that of the option, else that of the environment. An empty name in the
environment is refused. -/
def tableFile? (options : Options) (environment : Option String) : Option String :=
  match options.file, environment with
  | some file, _ => some file
  | none, some "" => none
  | none, some file => some file
  | none, none => some defaultFile

/-- Loads the table of a file; the option for slashes that matter wins over the table. -/
def load (engine : Engine) (options : Options) (file : String) (files : Files) :
    Action (Registry String) := do
  let text ← .ofExcept (.reading file) (files file)
  let table ← .ofExcept (.parsing file) (Table.ofJson text)
  let table := if options.strict then { table with config := Config.strict } else table
  (table.registrationEvents engine).forM (logEvent options)
  return table.toRegistry engine

def candidateValue (r : Registry String) (path : String) (e : Entry String) : Json.Value :=
  .object [
    ("handler", .string e.handler),
    ("method", .string e.method.name),
    ("params", .object ((r.params e path).entries.map fun p => (p.1, .string p.2))),
    ("path", .string e.template),
    ("splats", .list ((r.splats e path).map .string))]

def listLine (e : Entry String) : String :=
  let methodField : Text.Field := { width := 8 }
  let templateField : Text.Field := { width := 40 }
  methodField.lay e.method.name ++ " " ++ templateField.lay e.template ++ " " ++ e.handler ++ "\n"

def answer (options : Options) (r : Registry String) : Command → Action Unit
  | .resolve method path => do
    let candidates := r.candidates method path
    logEvent options (.matched method path candidates.length)
    .print ((Json.Value.list (candidates.map (candidateValue r path))).text ++ "\n")
  | .which label => do
    let ((template, events), _) := r.findTemplate (fun e s => (e.handler == label, s)) ()
    events.forM (logEvent options)
    match template with
    | some t => .print (t ++ "\n")
    | none => .fail (.noHandler label)
  | .list => r.toList.forM fun e => .print (listLine e)

def session (engine : Engine) (options : Options) (command : Command) (file : String)
    (files : Files) : Action Unit := do
  let r ← load engine options file files
  logEvent options (.loaded r.size r.config.ignoreTrailingSlashes)
  answer options r command

/-- What a run leaves behind: its exit code, and what it has written, in order. -/
structure Outcome where
  code : Nat
  writes : List Write
  deriving DecidableEq, Repr

def Outcome.output (o : Outcome) : String := String.join (o.writes.filterMap Write.output?)

def Outcome.log (o : Outcome) : String := String.join (o.writes.filterMap Write.log?)

/-- The outcome of an action that is the whole of a run. A problem is reported behind all that has been
written. -/
def Action.outcome (a : Action Unit) : Outcome :=
  match a.result with
  | .ok () => ⟨0, a.writes⟩
  | .error problem => ⟨1, a.writes ++ [.log problem.report]⟩

def run (engine : Engine) (args : List String) (environment : Option String) (files : Files) :
    Outcome :=
  match Request.ofArguments args with
  | .version => ⟨0, [.output versionText]⟩
  | .help => ⟨0, [.output helpText]⟩
  | .misuse => ⟨2, [.log usage]⟩
  | .run options command =>
    match tableFile? options environment with
    | none => ⟨2, [.log usage]⟩
    | some file => (session engine options command file files).outcome

/-- The file that a run reads, if it comes so far. -/
def fileOf? (args : List String) (environment : Option String) : Option String :=
  match Request.ofArguments args with
  | .run options _ => tableFile? options environment
  | _ => none

end Router.CommandLine
