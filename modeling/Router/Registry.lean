import Router.Route

/-!
The registry: routes under methods. Registration order is match priority. Methods are kept in their
declaration order, each with its entries in the order of their registration.
-/

set_option autoImplicit false
set_option relaxedAutoImplicit false

namespace Router

/-- Options of a registry. By default a path and the same path with a slash at its end are one path;
otherwise a template and a path have to agree on that slash. -/
structure Config where
  ignoreTrailingSlashes : Bool := true
  deriving DecidableEq, Repr

def Config.strict : Config := ⟨false⟩

def Config.lenient : Config := ⟨true⟩

/-- A registered route: its method, its compiled template, the handler, and the handler as the caller
first wrote it. -/
structure Entry (H : Type) where
  method : Method
  route : Route
  handler : H
  rawHandler : H
  deriving DecidableEq, Repr

namespace Entry

variable {H : Type}

def compile (engine : Engine) (method : Method) (template : String) (handler rawHandler : H) :
    Entry H :=
  ⟨method, Route.compile engine template, handler, rawHandler⟩

def template (e : Entry H) : String := e.route.template

/-- Whether a path fits the template, without the rules of a registry. -/
def fits (e : Entry H) (path : String) : Bool := e.route.fits path

def params (e : Entry H) (path : String) : Params := e.route.params Percent.decode path

def splats (e : Entry H) (path : String) : List String := e.route.splats Percent.decode path

end Entry

/-- Routes under methods, with options and a decoder for extracted values. -/
@[ext]
structure Registry (H : Type) where
  shelves : List (Method × Array (Entry H)) := []
  config : Config := {}
  decoder : Decoder := Percent.decode

namespace Registry

variable {H : Type}

def empty : Registry H := {}

def withConfig (config : Config) : Registry H := { config }

def withDecoder (r : Registry H) (decoder : Decoder) : Registry H := { r with decoder }

/-- Puts an entry behind those of its method; a method without entries is put in its place. -/
def shelve (e : Entry H) : List (Method × Array (Entry H)) → List (Method × Array (Entry H))
  | [] => [(e.method, #[e])]
  | (m, entries) :: shelves =>
    if e.method = m then (m, entries.push e) :: shelves
    else if e.method < m then (e.method, #[e]) :: (m, entries) :: shelves
    else (m, entries) :: shelve e shelves

section Registration

variable (r : Registry H) (engine : Engine)

def register (method : Method) (template : String) (handler rawHandler : H) : Registry H :=
  { r with shelves := shelve (Entry.compile engine method template handler rawHandler) r.shelves }

/-- Appends a route whose raw handler is the handler. -/
def route (method : Method) (template : String) (handler : H) : Registry H :=
  r.register engine method template handler handler

def get (template : String) (handler : H) : Registry H := r.route engine .get template handler

def post (template : String) (handler : H) : Registry H := r.route engine .post template handler

def put (template : String) (handler : H) : Registry H := r.route engine .put template handler

def patch (template : String) (handler : H) : Registry H := r.route engine .patch template handler

def delete (template : String) (handler : H) : Registry H := r.route engine .delete template handler

-- A filter that runs in front of the handlers, and one that runs behind them.
def before (template : String) (handler : H) : Registry H := r.route engine .before template handler

def after (template : String) (handler : H) : Registry H := r.route engine .after template handler

end Registration

def registrationEvents (engine : Engine) (method : Method) (template : String) : List Event :=
  .registering method template :: Route.refusals engine template

/-- The routes of a method, in registration order. -/
def entries (r : Registry H) (method : Method) : List (Entry H) :=
  match r.shelves.lookup method with
  | none => []
  | some es => es.toList

def toList (r : Registry H) : List (Entry H) := r.shelves.flatMap fun s => s.2.toList

def size (r : Registry H) : Nat := r.shelves.foldr (fun s n => s.2.size + n) 0

def isEmpty (r : Registry H) : Bool := r.size == 0

def endsInSlash (s : String) : Bool := s.toList.getLast? = some '/'

/-- Whether an entry accepts a path under the rules of the registry. The template `*` and a template
equal to the path accept at once; under strict options a template and a path that disagree on a slash at
the end do not fit. -/
def accepts (r : Registry H) (e : Entry H) (path : String) : Bool :=
  if e.template = "*" ∨ e.template = path then true
  else if !r.config.ignoreTrailingSlashes && endsInSlash e.template != endsInSlash path then false
  else e.fits path

def candidates (r : Registry H) (method : Method) (path : String) : List (Entry H) :=
  (r.entries method).filter fun e => r.accepts e path

def params (r : Registry H) (e : Entry H) (path : String) : Params := e.route.params r.decoder path

def splats (r : Registry H) (e : Entry H) (path : String) : List String :=
  e.route.splats r.decoder path

/-- Asks a predicate with a state of its own about entries, one after the other, up to the first that
satisfies it; gives that entry and those behind it. -/
def seek {σ : Type} (p : Entry H → σ → Bool × σ) :
    List (Entry H) → σ → Option (Entry H × List (Entry H)) × σ
  | [], s => (none, s)
  | e :: rest, s =>
    match p e s with
    | (true, s) => (some (e, rest), s)
    | (false, s) => seek p rest s

/-- The first route that satisfies a predicate, the warning if a second one does, and the state that the
predicate is left in. The search ends with the second such route. -/
def findFirst {σ : Type} (r : Registry H) (p : Entry H → σ → Bool × σ) (s : σ) :
    (Option (Entry H) × List Event) × σ :=
  match seek p r.toList s with
  | (none, s) => ((none, []), s)
  | (some (e, rest), s) =>
    match seek p rest s with
    | (none, s) => ((some e, []), s)
    | (some _, s) => ((some e, [.ambiguous e.method e.template]), s)

def findTemplate {σ : Type} (r : Registry H) (p : Entry H → σ → Bool × σ) (s : σ) :
    (Option String × List Event) × σ :=
  let ((found, events), s) := r.findFirst p s
  ((found.map Entry.template, events), s)

def describeEntry (e : Entry H) : String := "(" ++ e.method.word ++ ", " ++ Text.quoted e.template ++ ")"

def describe (r : Registry H) : String :=
  "RouteRegistry \x7b routes: " ++ Route.bracketed (r.toList.map describeEntry) ++
  ", config: RegistryConfig \x7b ignore_trailing_slashes: " ++
  toString r.config.ignoreTrailingSlashes ++ " \x7d, .. \x7d"

end Registry

end Router
