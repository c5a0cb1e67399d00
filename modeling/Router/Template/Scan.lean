/-!
The scanner: whether a path fits a template, one slash at the end of either being ignored. It runs two
cursors over the bytes of both texts and remembers only the most recent splat: whatever an earlier
splat could still take, the later one can take instead. `step` is one turn of the loop, `run` the
loop with a bound on its turns, and `bound` is never reached.
-/

set_option autoImplicit false
set_option relaxedAutoImplicit false

namespace Router.Template.Scan

abbrev Bytes := Array UInt8

def slash : UInt8 := '/'.toUInt8

def colon : UInt8 := ':'.toUInt8

def star : UInt8 := '*'.toUInt8

/-- The bytes of a text without one slash at the end. -/
def stripped (s : String) : Bytes :=
  let bytes := s.toUTF8.data
  if bytes.back? = some slash then bytes.pop else bytes

/-- The place of the first slash at or after `i`, or the end. -/
def nextSlash (bytes : Bytes) (i : Nat) : Nat :=
  if h : i < bytes.size then
    if bytes[i] = slash then i else nextSlash bytes (i + 1)
  else bytes.size

/-- Where to resume after a mismatch: the template index after the splat, and the path index up to
which the splat has taken the path. -/
structure Resume where
  after : Nat
  start : Nat
  deriving DecidableEq, Repr

structure Cursor where
  template : Nat
  path : Nat
  splat : Option Resume
  deriving DecidableEq, Repr

/-- What one turn of the loop leads to. -/
inductive Turn
  | halt (fits : Bool)
  | move (next : Cursor)
  deriving DecidableEq, Repr

/-- After a mismatch the remembered splat takes one byte more, if the path has one. -/
def retry (path : Bytes) : Option Resume → Turn
  | none => .halt false
  | some r =>
    if r.start < path.size then .move ⟨r.after, r.start + 1, some ⟨r.after, r.start + 1⟩⟩
    else .halt false

/-- One turn of the loop. A final splat accepts at once; another is remembered; a parameter moves both
cursors to their next slash; any other byte must be the same in both texts. -/
def step (template path : Bytes) (c : Cursor) : Turn :=
  match template[c.template]? with
  | none => if c.path = path.size then .halt true else retry path c.splat
  | some b =>
    if b = star then
      if c.template + 1 = template.size then .halt true
      else .move ⟨c.template + 1, c.path, some ⟨c.template + 1, c.path⟩⟩
    else if b = colon then
      .move ⟨nextSlash template c.template, nextSlash path c.path, c.splat⟩
    else if path[c.path]? = some b then .move ⟨c.template + 1, c.path + 1, c.splat⟩
    else retry path c.splat

def start : Cursor := ⟨0, 0, none⟩

/-- Runs the loop for at most `turns` turns; `none` when they are spent. -/
def run (template path : Bytes) : (turns : Nat) → Cursor → Option Bool
  | 0, _ => none
  | turns + 1, c =>
    match step template path c with
    | .halt fits => some fits
    | .move next => run template path turns next

/-- Enough turns for every run: no pair of a template index and a resume index is met twice. -/
def bound (template path : Bytes) : Nat := (template.size + 1) * (path.size + 1)

def accepts (template path : Bytes) : Bool :=
  run template path (bound template path) start == some true

end Router.Template.Scan

namespace Router.Template

/-- Whether a path fits a template, one slash at the end of either being ignored. -/
def fits (template path : String) : Bool :=
  Scan.accepts (Scan.stripped template) (Scan.stripped path)

end Router.Template
