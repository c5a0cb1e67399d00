/-!
Request methods. A route is registered under one of nine verbs or under one of the two filters that
run around the endpoint handlers. Names are read in either letter case; the order of declaration is
the order in which a registry visits its methods.
-/

set_option autoImplicit false
set_option relaxedAutoImplicit false

namespace Router

/-- What a route can be registered under. -/
inductive Method
  | get
  | post
  | put
  | patch
  | delete
  | head
  | trace
  | connect
  | options
  | before
  | after
  deriving DecidableEq, Repr

namespace Method

def all : List Method :=
  [get, post, put, patch, delete, head, trace, connect, options, before, after]

def name : Method → String
  | get => "GET"
  | post => "POST"
  | put => "PUT"
  | patch => "PATCH"
  | delete => "DELETE"
  | head => "HEAD"
  | trace => "TRACE"
  | connect => "CONNECT"
  | options => "OPTIONS"
  | before => "BEFORE"
  | after => "AFTER"

/-- The name as a capitalised word, used where a registry describes itself. -/
def word : Method → String
  | get => "Get"
  | post => "Post"
  | put => "Put"
  | patch => "Patch"
  | delete => "Delete"
  | head => "Head"
  | trace => "Trace"
  | connect => "Connect"
  | options => "Options"
  | before => "Before"
  | after => "After"

/-- The two filters are no verbs of the protocol. -/
def isHttp : Method → Bool
  | before => false
  | after => false
  | _ => true

def rank (m : Method) : Nat := all.idxOf m

instance : LT Method := ⟨fun a b => a.rank < b.rank⟩

instance (a b : Method) : Decidable (a < b) := inferInstanceAs (Decidable (a.rank < b.rank))

theorem mem_all (m : Method) : m ∈ all := by cases m <;> decide

end Method

/-- Two names agree up to the case of the letters `A` to `Z`. -/
def Method.sameName (a b : String) : Bool :=
  a.toList.map Char.toLower == b.toList.map Char.toLower

def Method.ofName? (s : String) : Option Method :=
  Method.all.find? fun m => Method.sameName m.name s

structure UnknownMethod where
  name : String
  deriving DecidableEq, Repr

def UnknownMethod.message (e : UnknownMethod) : String := s!"invalid method: {e.name}"

def Method.parse (s : String) : Except UnknownMethod Method :=
  match Method.ofName? s with
  | some m => .ok m
  | none => .error ⟨s⟩

theorem Method.ofName?_name (m : Method) : Method.ofName? m.name = some m := by
  cases m <;> decide

theorem Method.ofName?_of_sameName {m : Method} {name : String}
    (h : Method.sameName m.name name = true) : Method.ofName? name = some m := by
  have hlower : m.name.toList.map Char.toLower = name.toList.map Char.toLower := by
    simpa [Method.sameName] using h
  have hsame : ∀ k : Method, Method.sameName k.name name = Method.sameName k.name m.name := by
    intro k
    rw [Method.sameName, Method.sameName, hlower]
  rw [← Method.ofName?_name m]
  simp only [Method.ofName?, hsame]

end Router
