import Router.Method
import Router.Text

/-!
Events: what is worth a line in a log. An event has a level, a message and fields; a field is shown as
it is or in quotes.
-/

set_option autoImplicit false
set_option relaxedAutoImplicit false

namespace Router

inductive Level
  | debug
  | info
  | warn
  deriving DecidableEq, Repr

def Level.name : Level → String
  | debug => "DEBUG"
  | info => "INFO"
  | warn => "WARN"

inductive Event
  | registering (method : Method) (template : String)
  | extractionDisabled (template pattern error : String)
  | ambiguous (method : Method) (template : String)
  | loaded (routes : Nat) (ignoreTrailingSlashes : Bool)
  | matched (method : Method) (path : String) (count : Nat)
  deriving DecidableEq, Repr

namespace Event

/-- The value of a field, and whether a line shows it in quotes. -/
structure Field where
  name : String
  value : String
  inQuotes : Bool := false
  deriving DecidableEq, Repr

def level : Event → Level
  | registering _ _ => .debug
  | extractionDisabled _ _ _ => .warn
  | ambiguous _ _ => .warn
  | loaded _ _ => .info
  | matched _ _ _ => .debug

def message : Event → String
  | registering _ _ => "Registering route"
  | extractionDisabled _ _ _ => "Extraction disabled for route"
  | ambiguous _ _ => "More than one route found, returning first match"
  | loaded _ _ => "Route table loaded"
  | matched _ _ _ => "Matched"

/-- The fields of an event, in the order of a log line. -/
def fields : Event → List Field
  | registering method template => [⟨"method", method.name, false⟩, ⟨"template", template, true⟩]
  | extractionDisabled template pattern error =>
    [⟨"template", template, false⟩, ⟨"pattern", pattern, false⟩, ⟨"error", error, false⟩]
  | ambiguous method template => [⟨"method", method.name, false⟩, ⟨"template", template, true⟩]
  | loaded routes ignoreTrailingSlashes =>
    [⟨"routes", toString routes, false⟩,
      ⟨"ignore_trailing_slashes", toString ignoreTrailingSlashes, false⟩]
  | matched method path count =>
    [⟨"method", method.name, false⟩, ⟨"path", path, false⟩, ⟨"count", toString count, false⟩]

def Field.show (f : Field) : String :=
  f.name ++ "=" ++ if f.inQuotes then Text.quoted f.value else f.value

def line (e : Event) : String :=
  let level := e.level.name
  let front := String.ofList (List.replicate (5 - level.length) ' ')
  " ".intercalate ((front ++ level) :: e.message :: e.fields.map Field.show) ++ "\n"

end Event

end Router
