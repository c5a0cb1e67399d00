import Router.Table

/-!
Why runs fail, and how that is reported: what failed, and the causes behind it, from the nearest to the
farthest. Files are seen through what reading one gives.
-/

set_option autoImplicit false
set_option relaxedAutoImplicit false

namespace Router.CommandLine

inductive ReadFailure
  | notFound
  | notAllowed
  | notDirectory
  | isDirectory
  | nameTooLong
  | notText
  | other (reason : String)
  deriving DecidableEq, Repr

def ReadFailure.message : ReadFailure → String
  | notFound => "No such file or directory (os error 2)"
  | notAllowed => "Permission denied (os error 13)"
  | notDirectory => "Not a directory (os error 20)"
  | isDirectory => "Is a directory (os error 21)"
  | nameTooLong => "File name too long (os error 36)"
  | notText => "stream did not contain valid UTF-8"
  | other reason => reason

/-- What the name of a file leads to. -/
abbrev Files := String → Except ReadFailure String

inductive Problem
  | reading (file : String) (failure : ReadFailure)
  | parsing (file : String) (error : Table.Error)
  | noHandler (label : String)
  deriving DecidableEq, Repr

def Problem.headline : Problem → String
  | reading file _ => s!"reading {file}"
  | parsing file _ => s!"parsing {file}"
  | noHandler label => s!"no route registered for handler '{label}'"

def Problem.causes : Problem → List String
  | reading _ failure => [failure.message]
  | parsing _ error => [error.message, error.cause.message]
  | noHandler _ => []

/-- A text whose lines after the first are indented. -/
def hang (indent : Nat) (text : String) : String :=
  String.ofList (text.toList.flatMap fun c =>
    if c = '\n' then c :: List.replicate indent ' ' else [c])

def numberedCause (n : Nat) (text : String) : String := s!"    {n}: " ++ hang 7 text

/-- The report of a problem. Several causes are numbered. -/
def Problem.report (p : Problem) : String :=
  let causes := match p.causes with
    | [] => ""
    | [cause] => "\n\nCaused by:\n    " ++ hang 4 cause
    | causes => "\n\nCaused by:\n" ++
        "\n".intercalate (causes.zipIdx.map fun e => numberedCause e.2 e.1)
  "Error: " ++ p.headline ++ causes ++ "\n"

end Router.CommandLine
