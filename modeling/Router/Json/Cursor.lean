/-!
Cursors into a JSON text. A cursor holds the unread characters and the number of bytes read. A reader
takes a cursor and gives a value with the cursor behind it, or a failure; a failure without a place of
its own gets the place where the enclosing list or object ends. A cause may be given in words that end in
a place, which `Place.ofReport?` finds.
-/

set_option autoImplicit false
set_option relaxedAutoImplicit false

namespace Router.Json

/-- The reasons to refuse a text. -/
inductive Cause
  | endInValue
  | endInString
  | endInList
  | endInObject
  | colonExpected
  | listCommaOrEndExpected
  | objectCommaOrEndExpected
  | wordExpected
  | valueExpected
  | badEscape
  | badNumber
  | numberTooLarge
  | controlCharacter
  | keyNotString
  | loneSurrogate
  | surrogateWithoutPartner
  | trailingComma
  | trailingCharacters
  | tooDeep
  | wrongType (found expected : String)
  | wrongLength (found : Nat) (expected : String)
  | missingField (name : String)
  | duplicateField (name : String)
  | refused (reason : String)
  deriving DecidableEq, Repr

def Cause.message : Cause → String
  | endInValue => "EOF while parsing a value"
  | endInString => "EOF while parsing a string"
  | endInList => "EOF while parsing a list"
  | endInObject => "EOF while parsing an object"
  | colonExpected => "expected `:`"
  | listCommaOrEndExpected => "expected `,` or `]`"
  | objectCommaOrEndExpected => "expected `,` or `\x7d`"
  | wordExpected => "expected ident"
  | valueExpected => "expected value"
  | badEscape => "invalid escape"
  | badNumber => "invalid number"
  | numberTooLarge => "number out of range"
  | controlCharacter => "control character (\\u0000-\\u001F) found while parsing a string"
  | keyNotString => "key must be a string"
  | loneSurrogate => "lone leading surrogate in hex escape"
  | surrogateWithoutPartner => "unexpected end of hex escape"
  | trailingComma => "trailing comma"
  | trailingCharacters => "trailing characters"
  | tooDeep => "recursion limit exceeded"
  | wrongType found expected => s!"invalid type: {found}, expected {expected}"
  | wrongLength found expected => s!"invalid length {found}, expected {expected}"
  | missingField name => s!"missing field `{name}`"
  | duplicateField name => s!"duplicate field `{name}`"
  | refused reason => reason

/-- A place in a text: its line, from 1, and the bytes of that line in front of it. -/
structure Place where
  line : Nat
  column : Nat
  deriving DecidableEq, Repr

namespace Place

/-- The place `offset` bytes behind a given place, in front of the text `cs`. -/
def advance (p : Place) (offset : Nat) : List Char → Place
  | [] => ⟨p.line, p.column + offset⟩
  | c :: cs =>
    if offset < c.utf8Size then ⟨p.line, p.column + offset⟩
    else
      let next : Place := if c = '\n' then ⟨p.line + 1, 0⟩ else ⟨p.line, p.column + c.utf8Size⟩
      next.advance (offset - c.utf8Size) cs

def lineMark : List Char := " at line ".toList

def columnMark : List Char := " column ".toList

def words (p : Place) : List Char :=
  lineMark ++ Nat.toDigits 10 p.line ++ columnMark ++ Nat.toDigits 10 p.column

def mark (p : Place) (report : String) : String := String.ofList (report.toList ++ p.words)

/-- The text behind a mark that it begins with. -/
def afterMark? (mark cs : List Char) : Option (List Char) :=
  if mark.isPrefixOf cs then some (cs.drop mark.length) else none

/-- The number that a text of digits spells, if it fits into 64 bits. -/
def number? (digits : List Char) : Option Nat :=
  let n := Nat.ofDigitChars 10 digits 0
  if digits.isEmpty || Nat.pow 2 64 ≤ n then none else some n

def ofNumbers? (cs : List Char) : Option Place := do
  let line ← number? (cs.takeWhile Char.isDigit)
  let rest ← afterMark? columnMark (cs.dropWhile Char.isDigit)
  if rest.all Char.isDigit then (number? rest).map fun column => ⟨line, column⟩ else none

/-- The texts in front of and behind the last mark of a line. -/
def splitLast? : List Char → Option (List Char × List Char)
  | [] => none
  | c :: cs =>
    match splitLast? cs with
    | some (front, rest) => some (c :: front, rest)
    | none => (afterMark? lineMark (c :: cs)).map fun rest => ([], rest)

/-- The report that a place has been marked on, with that place, if the report ends in the words for one. -/
def ofReport? (report : String) : Option (String × Place) := do
  let (front, rest) ← splitLast? report.toList
  let place ← ofNumbers? rest
  some (String.ofList front, place)

end Place

/-- A place in a text: what is left, and how many bytes have been read. -/
structure Cursor where
  rest : List Char
  offset : Nat
  deriving DecidableEq, Repr

/-- A refusal, at a byte offset, at a place that its own words state, or, when only the enclosing value
knows the place, with the cursor at which reading stopped. -/
inductive Failure
  | placed (cause : Cause) (offset : Nat)
  | stated (cause : Cause) (place : Place)
  | unplaced (cause : Cause) (cursor : Cursor)
  deriving DecidableEq, Repr

abbrev Reading (α : Type) := Except Failure (α × Cursor)

/-- Goes on with the value and the cursor of a reading, unless it failed. -/
def Reading.andThen {α β : Type} (r : Reading α) (next : α → Cursor → Reading β) : Reading β :=
  match r with
  | .ok (a, c) => next a c
  | .error e => .error e

def Reading.map {α β : Type} (f : α → β) (r : Reading α) : Reading β :=
  r.andThen fun a c => .ok (f a, c)

@[simp] theorem Reading.andThen_ok {α β : Type} (a : α) (c : Cursor)
    (next : α → Cursor → Reading β) : Reading.andThen (.ok (a, c)) next = next a c := rfl

@[simp] theorem Reading.andThen_error {α β : Type} (e : Failure)
    (next : α → Cursor → Reading β) : Reading.andThen (.error e) next = .error e := rfl

namespace Cursor

def start (s : String) : Cursor := ⟨s.toList, 0⟩

/-- The characters that may stand between tokens. -/
def isBlank (c : Char) : Bool := c = ' ' || c = '\n' || c = '\t' || c = '\r'

def skipBlanks (c : Cursor) : Cursor :=
  ⟨c.rest.dropWhile isBlank, c.offset + (c.rest.takeWhile isBlank).length⟩

/-- The cursor behind a character of one byte. -/
def past (c : Cursor) : Cursor := ⟨c.rest.tail, c.offset + 1⟩

def fail (c : Cursor) (cause : Cause) : Failure := .placed cause c.offset

/-- A failure behind the next byte, if there is one. -/
def failAhead (c : Cursor) (cause : Cause) : Failure :=
  .placed cause (if c.rest.isEmpty then c.offset else c.offset + 1)

/-- A failure whose place is left to the enclosing value. -/
def failUnplaced (c : Cursor) (cause : Cause) : Failure := .unplaced cause c

/-- A failure for a reason that a reader gives in words. Words that end in a place state the place of the
failure; lines are counted from 1, so a line 0 leaves the place to the enclosing value. -/
def failInWords (c : Cursor) (reason : String) : Failure :=
  match Place.ofReport? reason with
  | none => c.failUnplaced (.refused reason)
  | some (reason, place) =>
    if place.line = 0 then c.failUnplaced (.refused reason) else .stated (.refused reason) place

def afterObject (c : Cursor) : Cursor :=
  let c := c.skipBlanks
  if c.rest.head? = some '}' then c.past else c

/-- The cursor after an attempt to close a list: a bracket is passed, and so is a comma with the blanks
behind it. -/
def afterList (c : Cursor) : Cursor :=
  let c := c.skipBlanks
  if c.rest.head? = some ']' then c.past
  else if c.rest.head? = some ',' then c.past.skipBlanks
  else c

def closeObject (c : Cursor) : Reading Unit :=
  let c := c.skipBlanks
  match c.rest with
  | [] => .error (c.failAhead .endInObject)
  | '}' :: _ => .ok ((), c.past)
  | ',' :: _ => .error (c.failAhead .trailingComma)
  | _ => .error (c.failAhead .trailingCharacters)

def closeList (c : Cursor) : Reading Unit :=
  let c := c.skipBlanks
  match c.rest with
  | [] => .error (c.failAhead .endInList)
  | ']' :: _ => .ok ((), c.past)
  | ',' :: _ =>
    let c := c.past.skipBlanks
    .error (c.failAhead (if c.rest.head? = some ']' then .trailingComma else .trailingCharacters))
  | _ => .error (c.failAhead .trailingCharacters)

end Cursor

/-- Gives a failure without a place the place of a cursor that follows from its own. -/
def Failure.settle (after : Cursor → Cursor) : Failure → Failure
  | placed cause offset => .placed cause offset
  | stated cause place => .stated cause place
  | unplaced cause cursor => .placed cause (after cursor).offset

def inObject {α : Type} (inside : Cursor → Reading α) (c : Cursor) : Reading α :=
  match inside c with
  | .error e => .error (e.settle Cursor.afterObject)
  | .ok (a, c) => c.closeObject.map fun _ => a

def inList {α : Type} (inside : Cursor → Reading α) (c : Cursor) : Reading α :=
  match inside c with
  | .error e => .error (e.settle Cursor.afterList)
  | .ok (a, c) => c.closeList.map fun _ => a

def word (letters : List Char) (c : Cursor) : Reading Unit :=
  match letters with
  | [] => .ok ((), c)
  | letter :: letters =>
    match c.rest with
    | [] => .error (c.fail .endInValue)
    | x :: _ => if x = letter then word letters c.past else .error (c.past.fail .wordExpected)

structure Error where
  cause : Cause
  place : Option Place
  deriving DecidableEq, Repr

def Error.message (e : Error) : String :=
  match e.place with
  | none => e.cause.message
  | some p => p.mark e.cause.message

def Failure.inText (s : String) : Failure → Error
  | placed cause offset => ⟨cause, some (Place.advance ⟨1, 0⟩ offset s.toList)⟩
  | stated cause place => ⟨cause, some place⟩
  | unplaced cause _ => ⟨cause, none⟩

def readText {α : Type} (read : Cursor → Reading α) (s : String) : Except Error α :=
  match read (Cursor.start s) with
  | .error e => .error (e.inText s)
  | .ok (a, c) =>
    let c := c.skipBlanks
    if c.rest.isEmpty then .ok a else .error ((c.failAhead .trailingCharacters).inText s)

end Router.Json
