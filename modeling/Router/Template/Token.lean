/-!
Templates as tokens. A template is literal text, parameters `:name` and splats `*`. A parameter runs
up to the next `/`, so `:` and `*` inside a name belong to the name. `write` puts the tokens back.
-/

set_option autoImplicit false
set_option relaxedAutoImplicit false

namespace Router.Template

inductive Token
  | literal (text : List Char)
  | param (name : List Char)
  | splat
  deriving DecidableEq, Repr

def Token.write : Token → List Char
  | literal text => text
  | param name => ':' :: name
  | splat => ['*']

def write (tokens : List Token) : List Char := tokens.flatMap Token.write

def inName (c : Char) : Bool := c != '/'

def inLiteral (c : Char) : Bool := c != ':' && c != '*'

theorem length_dropWhile_le {α : Type} (p : α → Bool) (l : List α) :
    (l.dropWhile p).length ≤ l.length :=
  (List.dropWhile_sublist p).length_le

def tokenize : List Char → List Token
  | [] => []
  | c :: rest =>
    if c = '*' then .splat :: tokenize rest
    else if c = ':' then .param (rest.takeWhile inName) :: tokenize (rest.dropWhile inName)
    else .literal (c :: rest.takeWhile inLiteral) :: tokenize (rest.dropWhile inLiteral)
  termination_by cs => cs.length
  decreasing_by
    · simp
    · exact Nat.lt_succ_of_le (length_dropWhile_le _ _)
    · exact Nat.lt_succ_of_le (length_dropWhile_le _ _)

def Token.name? : Token → Option String
  | param name => some (String.ofList name)
  | _ => none

def Token.isWildcard : Token → Bool
  | literal _ => false
  | _ => true

def paramNames (tokens : List Token) : List String := tokens.filterMap Token.name?

/-- The text without one slash at its end. -/
def dropFinalSlash (cs : List Char) : List Char :=
  if cs.getLast? = some '/' then cs.dropLast else cs

@[simp] theorem dropFinalSlash_append_slash (cs : List Char) :
    dropFinalSlash (cs ++ ['/']) = cs := by
  simp [dropFinalSlash]

end Router.Template
