import Router.CommandLine.Run

/-!
The program: reads the table file that the arguments ask for, and leaves everything else to
`CommandLine.run`. Its engine refuses no pattern, however long.
-/

set_option autoImplicit false
set_option relaxedAutoImplicit false

namespace Router

open Router.CommandLine

/-- The failure of a system call by its number, which some systems give as a negative one. -/
def readFailure? (number : UInt32) : Option ReadFailure :=
  let n := if number.toNat < Nat.pow 2 31 then number.toNat else Nat.pow 2 32 - number.toNat
  if n = 2 then some .notFound
  else if n = 13 then some .notAllowed
  else if n = 20 then some .notDirectory
  else if n = 21 then some .isDirectory
  else if n = 36 then some .nameTooLong
  else none

/-- The number of a failed system call, if the failure is one that reading a file has. -/
def systemNumber? : IO.Error → Option UInt32
  | .noFileOrDirectory _ number _ => some number
  | .permissionDenied _ number _ => some number
  | .inappropriateType _ number _ => some number
  | .invalidArgument _ number _ => some number
  | _ => none

def readFailure (e : IO.Error) : ReadFailure :=
  ((systemNumber? e).bind readFailure?).getD (.other (toString e))

def readFile (file : String) : IO (Except ReadFailure String) := do
  match ← (IO.FS.readBinFile file).toBaseIO with
  | .error e => return .error (readFailure e)
  | .ok bytes =>
    match String.fromUTF8? bytes with
    | some text => return .ok text
    | none => return .error .notText

def CommandLine.Write.perform : Write → IO Unit
  | .output text => do (← IO.getStdout).putStr text
  | .log text => do (← IO.getStderr).putStr text

end Router

open Router in
def main (args : List String) : IO UInt32 := do
  let environment ← IO.getEnv "OXIDE_ROUTES"
  let content ← match CommandLine.fileOf? args environment with
    | some file => readFile file
    | none => pure (.ok "")
  let outcome := CommandLine.run .permissive args environment fun _ => content
  outcome.writes.forM CommandLine.Write.perform
  return outcome.code.toUInt32
