import Router.Json.Read
import Router.Registry

/-!
Route tables: what a table file says. A row names a method, a template and a handler; a row without a handler
is labelled by its template. Every row is registered in its order, with its label for both handlers.

In JSON, rows and options are read as objects, or as lists in the order of their fields. A table is an object;
its rows are read where they stand, and the options are looked for among its other members when the object has
been read.
-/

set_option autoImplicit false
set_option relaxedAutoImplicit false

namespace Router

structure Table.Spec where
  method : Method
  path : String
  handler : Option String
  deriving DecidableEq, Repr

/-- A table: options and rows, in priority order. -/
structure Table where
  config : Config := {}
  routes : List Table.Spec := []
  deriving DecidableEq, Repr

end Router

namespace Router.Table

/-- The label of a row: its handler, or else its template. -/
def Spec.label (s : Spec) : String := s.handler.getD s.path

section Registration

variable (engine : Engine)

def addRow (r : Registry String) (s : Spec) : Registry String :=
  r.register engine s.method s.path s.label s.label

def toRegistry (t : Table) : Registry String :=
  t.routes.foldl (addRow engine) (Registry.withConfig t.config)

def registrationEvents (t : Table) : List Event :=
  t.routes.flatMap fun s => Registry.registrationEvents engine s.method s.path

end Registration

open Router.Json

def slashKey : String := "ignore_trailing_slashes"

def readMethod (c : Cursor) : Reading Method :=
  (typedString c).andThen fun name c =>
    match Method.parse name with
    | .ok m => .ok (m, c)
    | .error e => .error (c.failInWords e.message)

/-- Reads a field that must not have been read before. -/
def field {α σ : Type} (old : Option α) (name : String) (read : Cursor → Reading α)
    (set : α → σ) (c : Cursor) : Reading σ :=
  match old with
  | some _ => .error (c.failUnplaced (.duplicateField name))
  | none => (afterColon read c).map set

/-- Passes over a member and keeps what has been read. -/
def ignoring {σ : Type} (s : σ) (c : Cursor) : Reading σ := (afterColon skip c).map fun _ => s

def required {α : Type} (value : Option α) (name : String) (c : Cursor) : Reading α :=
  match value with
  | some a => .ok (a, c)
  | none => .error (c.failUnplaced (.missingField name))

structure Draft where
  method : Option Method := none
  path : Option String := none
  handler : Option (Option String) := none
  deriving DecidableEq, Repr

def rowMember (d : Draft) (key : String) (c : Cursor) : Reading Draft :=
  if key = "method" then field d.method key readMethod (fun m => { d with method := some m }) c
  else if key = "path" then field d.path key typedString (fun p => { d with path := some p }) c
  else if key = "handler" then
    field d.handler key typedString? (fun h => { d with handler := some h }) c
  else ignoring d c

def Draft.finish (d : Draft) (c : Cursor) : Reading Spec :=
  (required d.method "method" c).andThen fun method c =>
    (required d.path "path" c).andThen fun path c => .ok (⟨method, path, d.handler.join⟩, c)

def rowObject (c : Cursor) : Reading Spec := (members rowMember {} c).andThen Draft.finish

/-- Reads an item that a list of `got` items so far has to have. -/
def requiredItem {α : Type} (got : Nat) (expected : String) (read : Cursor → Reading α)
    (c : Cursor) : Reading α :=
  (nextItem (got == 0) c).andThen fun more c =>
    if more then read c else .error (c.failUnplaced (.wrongLength got expected))

def rowList (c : Cursor) : Reading Spec :=
  let expected := "struct RouteSpec with 3 elements"
  (requiredItem 0 expected readMethod c).andThen fun method c =>
    (requiredItem 1 expected typedString c).andThen fun path c =>
      (nextItem false c).andThen fun more c =>
        if more then (typedString? c).map fun handler => ⟨method, path, handler⟩
        else .ok (⟨method, path, none⟩, c)

/-- Reads a record that may stand as a list or as an object. -/
def record {α : Type} (expected : String) (asList asObject : Cursor → Reading α) (c : Cursor) :
    Reading α :=
  let c := c.skipBlanks
  match c.rest with
  | '[' :: _ => inList asList c.past
  | '{' :: _ => inObject asObject c.past
  | _ => typed expected (fun _ => none) c

def readSpec : Cursor → Reading Spec := record "struct RouteSpec" rowList rowObject

def configOf (old : Option Bool) : Config := ⟨old.getD true⟩

def configMember (old : Option Bool) (key : String) (c : Cursor) : Reading (Option Bool) :=
  if key = slashKey then field old key typedBoolean some c else ignoring old c

def configObject (c : Cursor) : Reading Config := (members configMember none c).map configOf

def configList (c : Cursor) : Reading Config :=
  (nextItem true c).andThen fun more c =>
    if more then (typedBoolean c).map fun b => ⟨b⟩ else .ok ({}, c)

def readConfig : Cursor → Reading Config := record "struct RegistryConfig" configList configObject

/-- The depth of the lists and objects that a table's other members may hold. -/
def memberDepth : Nat := 126

def readRows (c : Cursor) : Reading (List Spec) :=
  let c := c.skipBlanks
  match c.rest with
  | '[' :: _ => inList (items readSpec) c.past
  | _ => typed "a sequence" (fun _ => none) c

/-- The rows that have been read, and the other members. -/
structure Contents where
  routes : Option (List Spec) := none
  others : List (String × Value) := []

def tableMember (t : Contents) (key : String) (c : Cursor) : Reading Contents :=
  if key = "routes" then field t.routes key readRows (fun rows => { t with routes := some rows }) c
  else (afterColon (value memberDepth) c).map fun v => { t with others := t.others ++ [(key, v)] }

/-- Looks for the option among members that have been read. -/
def findSlashOption (old : Option Bool) : List (String × Value) → Except Cause (Option Bool)
  | [] => .ok old
  | (key, v) :: rest =>
    if key = slashKey then
      match old, v with
      | some _, _ => .error (.duplicateField key)
      | none, .boolean b => findSlashOption (some b) rest
      | none, v => .error (.wrongType v.found "a boolean")
    else findSlashOption old rest

def Contents.finish (t : Contents) (c : Cursor) : Reading Table :=
  match findSlashOption none t.others with
  | .ok b => .ok (⟨configOf b, t.routes.getD []⟩, c)
  | .error cause => .error (c.failUnplaced cause)

def read (c : Cursor) : Reading Table :=
  let c := c.skipBlanks
  match c.rest with
  | '{' :: _ =>
    inObject (fun c => (members tableMember {} c).andThen Contents.finish) c.past
  | _ => typed "struct RouteTable" (fun _ => none) c

structure Error where
  cause : Json.Error
  deriving DecidableEq, Repr

def Error.message (e : Error) : String := "invalid route table: " ++ e.cause.message

end Router.Table

namespace Router

def Table.ofJson (s : String) : Except Table.Error Table :=
  match Json.readText Table.read s with
  | .ok t => .ok t
  | .error e => .error ⟨e⟩

end Router
