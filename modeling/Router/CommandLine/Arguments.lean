import Router.Method

/-!
The arguments of the command line. Options stand in front of the command and are given at most once; an
option may be attached to its value and to other options. `--` ends the options of a command, so that a
path or a label may begin with a dash behind it. The first thing that is wrong, or the first request for
help or the version, decides.
-/

set_option autoImplicit false
set_option relaxedAutoImplicit false

namespace Router.CommandLine

structure Options where
  file : Option String := none
  strict : Bool := false
  verbose : Bool := false
  deriving DecidableEq, Repr

inductive Command
  | resolve (method : Method) (path : String)
  | which (handler : String)
  | list
  deriving DecidableEq, Repr

inductive Request
  | run (options : Options) (command : Command)
  | version
  | help
  | misuse
  deriving DecidableEq, Repr

/-- An argument that can only be an option: it begins with a dash and is not the dash alone. -/
def looksLikeOption (arg : String) : Bool :=
  match arg.toList with
  | '-' :: _ :: _ => true
  | _ => false

def asksHelp (arg : String) : Bool :=
  match arg.toList with
  | ['-', '-', 'h', 'e', 'l', 'p'] => true
  | '-' :: 'h' :: _ => true
  | _ => false

/-- What reading the arguments of a command gives: their texts, or a request that ends it. -/
abbrev Positionals := Except Request (List String)

/-- The arguments of a command, each of which `admits` has to admit at its position. -/
def positionals (admits : Nat → String → Bool) (position : Nat) (ended : Bool) :
    List String → Positionals
  | [] => .ok []
  | arg :: rest =>
    if !ended && arg = "--" then positionals admits position true rest
    else if !ended && looksLikeOption arg then .error (if asksHelp arg then .help else .misuse)
    else if admits position arg then
      (positionals admits (position + 1) ended rest).map (arg :: ·)
    else .error .misuse

def readResolve (options : Options) (args : List String) : Request :=
  let admits (position : Nat) (arg : String) : Bool :=
    match position with
    | 0 => (Method.ofName? arg).isSome
    | 1 => true
    | _ => false
  match positionals admits 0 false args with
  | .error r => r
  | .ok [name, path] =>
    match Method.ofName? name with
    | some m => .run options (.resolve m path)
    | none => .misuse
  | .ok _ => .misuse

def readWhich (options : Options) (args : List String) : Request :=
  match positionals (fun position _ => position == 0) 0 false args with
  | .error r => r
  | .ok [handler] => .run options (.which handler)
  | .ok _ => .misuse

def readList (options : Options) (args : List String) : Request :=
  match positionals (fun _ _ => false) 0 false args with
  | .error r => r
  | .ok _ => .run options .list

def commandNames : List String := ["match", "which", "list", "help"]

def readHelp : List String → Request
  | [] => .help
  | [name] => if name ∈ commandNames then .help else .misuse
  | _ => .misuse

/-- The options with a file; there is at most one, and its name is not empty. -/
def Options.withFile (o : Options) (file : String) : Except Request Options :=
  if o.file.isSome || file.isEmpty then .error .misuse else .ok { o with file := some file }

def Options.withVerbose (o : Options) : Except Request Options :=
  if o.verbose then .error .misuse else .ok { o with verbose := true }

def Options.withStrict (o : Options) : Except Request Options :=
  if o.strict then .error .misuse else .ok { o with strict := true }

/-- What one argument in front of the command leads to: more options, options that wait for the name of
the file, or a request that ends it. -/
inductive Effect
  | go (options : Options)
  | fileNext (options : Options)
  | stop (request : Request)
  deriving DecidableEq, Repr

def Effect.ofOptions : Except Request Options → Effect
  | .ok o => go o
  | .error r => stop r

/-- The effect of letters behind one dash. The letter `r` takes the rest of them as its value. -/
def letters (o : Options) : List Char → Effect
  | [] => .go o
  | ['r'] => if o.file.isSome then .stop .misuse else .fileNext o
  | 'r' :: '=' :: value => .ofOptions (o.withFile (String.ofList value))
  | 'r' :: value => .ofOptions (o.withFile (String.ofList value))
  | 'v' :: rest =>
    match o.withVerbose with
    | .ok o => letters o rest
    | .error r => .stop r
  | 'V' :: _ => .stop .version
  | 'h' :: _ => .stop .help
  | _ => .stop .misuse

/-- The effect of a word behind two dashes. -/
def longOption (o : Options) (name : List Char) : Effect :=
  let fileMark := "routes=".toList
  if name = "routes".toList then if o.file.isSome then .stop .misuse else .fileNext o
  else if fileMark.isPrefixOf name then
    .ofOptions (o.withFile (String.ofList (name.drop fileMark.length)))
  else if name = "strict-trailing-slashes".toList then .ofOptions o.withStrict
  else if name = "verbose".toList then .ofOptions o.withVerbose
  else if name = "version".toList then .stop .version
  else if name = "help".toList then .stop .help
  else .stop .misuse

def optionEffect (o : Options) (arg : String) : Effect :=
  match arg.toList with
  | '-' :: '-' :: name => longOption o name
  | '-' :: c :: cs => letters o (c :: cs)
  | _ => .stop .misuse

def readCommand? (name : String) : Option (Options → List String → Request) :=
  if name = "match" then some readResolve
  else if name = "which" then some readWhich
  else if name = "list" then some readList
  else if name = "help" then some fun _ args => readHelp args
  else none

/-- Reads arguments behind the options that have been given. -/
def readFrom (o : Options) : List String → Request
  | [] => .misuse
  | arg :: rest =>
    match readCommand? arg with
    | some read => read o rest
    | none =>
      match optionEffect o arg with
      | .stop r => r
      | .go o => readFrom o rest
      | .fileNext o =>
        match rest with
        | [] => .misuse
        | file :: rest =>
          if looksLikeOption file then .misuse
          else match o.withFile file with
            | .ok o => readFrom o rest
            | .error r => r

def Request.ofArguments (args : List String) : Request := readFrom {} args

end Router.CommandLine
