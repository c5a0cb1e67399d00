import Router.Event
import Router.Params
import Router.Pattern
import Router.Template.Scan

/-!
Compiled routes: a template with its parameter names and the two patterns that pull out the values of its
wildcards. An engine makes the written patterns usable. What it refuses is not known here, so it is a
parameter of compiling. Compiling never fails: a template whose pattern is refused still fits paths, and
extraction gives nothing.

Values are decoded; percent escapes are the usual code. `%` and two hexadecimal digits stand for one byte, any
other `%` stands for itself, and a value whose bytes are no text after the replacement is left as it was, with
all its escapes.
-/

set_option autoImplicit false
set_option relaxedAutoImplicit false

namespace Router.Percent

def hexDigit? (b : UInt8) : Option UInt8 :=
  if 48 ≤ b && b ≤ 57 then some (b - 48)
  else if 65 ≤ b && b ≤ 70 then some (b - 55)
  else if 97 ≤ b && b ≤ 102 then some (b - 87)
  else none

def escape? (mark hi lo : UInt8) : Option UInt8 :=
  if mark = '%'.toUInt8 then
    match hexDigit? hi, hexDigit? lo with
    | some x, some y => some (16 * x + y)
    | _, _ => none
  else none

def unescape : List UInt8 → List UInt8
  | mark :: hi :: lo :: rest =>
    match escape? mark hi lo with
    | some b => b :: unescape rest
    | none => mark :: unescape (hi :: lo :: rest)
  | bytes => bytes

/-- The text with every escape replaced, or the text itself when the bytes are no text. -/
def unescapeText (s : String) : String :=
  match String.fromUTF8? ⟨(unescape s.toUTF8.data.toList).toArray⟩ with
  | some t => t
  | none => s

def decode (s : String) : String :=
  if s.toList.contains '%' then unescapeText s else s

end Router.Percent

namespace Router

open Router.Template

/-- A decoder turns a captured text into the value that a caller sees. -/
abbrev Decoder := String → String

/-- What makes a written pattern usable, seen from outside: it accepts the pattern, or refuses it and says
why. -/
abbrev Engine := String → Option String

def Engine.permissive : Engine := fun _ => none

/-- The pattern of a template, or the reason for which the engine refuses its written form. -/
def Pattern.compile (engine : Engine) (capture : Capture) (tokens : List Token) :
    Except String Pattern :=
  let pattern := Pattern.ofTokens capture tokens
  match engine pattern.text with
  | none => .ok pattern
  | some reason => .error reason

/-- A compiled template. Either pattern is missing if the engine has refused it. -/
structure Route where
  template : String
  paramNames : List String
  paramPattern : Option Pattern
  splatPattern : Option Pattern
  deriving DecidableEq, Repr

namespace Route

def compile (engine : Engine) (template : String) : Route :=
  let tokens := tokenize template.toList
  { template
    paramNames := Template.paramNames tokens
    paramPattern := (Pattern.compile engine .params tokens).toOption
    splatPattern := (Pattern.compile engine .splats tokens).toOption }

def refusal (engine : Engine) (template : String) (capture : Capture) (tokens : List Token) :
    Option Event :=
  match Pattern.compile engine capture tokens with
  | .ok _ => none
  | .error reason => some (.extractionDisabled template (Pattern.ofTokens capture tokens).text
      s!"invalid path pattern '{template}': {reason}")

/-- The warnings that compiling a template gives, parameters before splats. -/
def refusals (engine : Engine) (template : String) : List Event :=
  let tokens := tokenize template.toList
  [Capture.params, Capture.splats].filterMap fun capture => refusal engine template capture tokens

def fits (r : Route) (path : String) : Bool := Template.fits r.template path

def captured (pattern : Option Pattern) (path : String) : Option (List String) :=
  pattern.bind fun p => p.capture? path

/-- The decoded parameters of a path under their names in lower case; of equal names the last wins.
A path that does not have the form of the template has none. -/
def params (r : Route) (decoder : Decoder) (path : String) : Params :=
  match captured r.paramPattern path with
  | none => Params.empty
  | some values =>
    Params.ofList ((r.paramNames.zip values).map fun e => (Text.lowercase e.1, decoder e.2))

def splats (r : Route) (decoder : Decoder) (path : String) : List String :=
  match captured r.splatPattern path with
  | none => []
  | some values => values.map decoder

def bracketed (items : List String) : String := "[" ++ ", ".intercalate items ++ "]"

def describePattern : Option Pattern → String
  | none => "None"
  | some p => "Some(Regex(" ++ Text.quoted p.text ++ "))"

def describe (r : Route) : String :=
  "CompiledRoute \x7b template: " ++ Text.quoted r.template ++
  ", param_names: " ++ bracketed (r.paramNames.map Text.quoted) ++
  ", param_regex: " ++ describePattern r.paramPattern ++
  ", splat_regex: " ++ describePattern r.splatPattern ++ " \x7d"

end Route

end Router
