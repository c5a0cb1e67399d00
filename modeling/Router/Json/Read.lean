import Router.Json.Value

/-!
Reading JSON values. A value of a known type is read as it stands in the text; a value that nobody asks
for is read in full or passed over, and passing over it is more lenient: any depth, any size of number,
any half of a pair in a string.
-/

set_option autoImplicit false
set_option relaxedAutoImplicit false

namespace Router.Json

/-- Reads a value that is no list and no object, if one begins here. -/
def scalar? (c : Cursor) : Option (Reading Value) :=
  match c.rest with
  | [] => none
  | x :: _ =>
    if x = 'n' then some ((word ['u', 'l', 'l'] c.past).map fun _ => .null)
    else if x = 't' then some ((word ['r', 'u', 'e'] c.past).map fun _ => .boolean true)
    else if x = 'f' then some ((word ['a', 'l', 's', 'e'] c.past).map fun _ => .boolean false)
    else if x = '-' then some ((number false c.past).map .number)
    else if x.isDigit then some ((number true c).map .number)
    else if x = '"' then some ((string c.past).map .string)
    else none

/-- Reads a value of the type that `pick` admits and that reports call `expected`. -/
def typed {α : Type} (expected : String) (pick : Value → Option α) (c : Cursor) : Reading α :=
  let c := c.skipBlanks
  match scalar? c with
  | some r =>
    r.andThen fun v after =>
      match pick v with
      | some a => .ok (a, after)
      | none => .error (after.fail (.wrongType v.found expected))
  | none =>
    match c.rest with
    | [] => .error (c.failAhead .endInValue)
    | '[' :: _ => .error (c.fail (.wrongType (Value.list []).found expected))
    | '{' :: _ => .error (c.fail (.wrongType (Value.object []).found expected))
    | _ => .error (c.failAhead .valueExpected)

def typedString : Cursor → Reading String :=
  typed "a string" fun v => match v with
    | .string s => some s
    | _ => none

/-- Reads a string, or nothing where `null` stands. -/
def typedString? (c : Cursor) : Reading (Option String) :=
  let c := c.skipBlanks
  match c.rest with
  | [] => .error (c.failAhead .endInValue)
  | 'n' :: _ => (word ['u', 'l', 'l'] c.past).map fun _ => none
  | _ => (typedString c).map some

def typedBoolean : Cursor → Reading Bool :=
  typed "a boolean" fun v => match v with
    | .boolean b => some b
    | _ => none

/-- Whether a list goes on, `isFirst` at its beginning. The comma in front of an item is passed. -/
def nextItem (isFirst : Bool) (c : Cursor) : Reading Bool :=
  let c := c.skipBlanks
  match c.rest with
  | [] => .error (c.failAhead .endInList)
  | ']' :: _ => .ok (false, c)
  | x :: _ =>
    if isFirst then .ok (true, c)
    else if x = ',' then
      let c := c.past.skipBlanks
      match c.rest with
      | [] => .error (c.failAhead .endInValue)
      | ']' :: _ => .error (c.failAhead .trailingComma)
      | _ => .ok (true, c)
    else .error (c.failAhead .listCommaOrEndExpected)

/-- Reads the items of a list up to its bracket, of which `fuel` bounds the number. -/
def itemsUpTo {α : Type} (item : Cursor → Reading α) (fuel : Nat) (isFirst : Bool) (c : Cursor) :
    Reading (List α) :=
  match fuel with
  | 0 => .error (c.failAhead .endInList)
  | fuel + 1 =>
    (nextItem isFirst c).andThen fun more c =>
      if more then
        (item c).andThen fun a c => (itemsUpTo item fuel false c).map (a :: ·)
      else .ok ([], c)

def items {α : Type} (item : Cursor → Reading α) (c : Cursor) : Reading (List α) :=
  itemsUpTo item (c.rest.length + 1) true c

/-- The next key of an object, if it goes on, `isFirst` at its beginning. -/
def nextKey (isFirst : Bool) (c : Cursor) : Reading (Option String) :=
  let c := c.skipBlanks
  match c.rest with
  | [] => .error (c.failAhead .endInObject)
  | '}' :: _ => .ok (none, c)
  | x :: _ =>
    if isFirst then
      if x = '"' then (string c.past).map some else .error (c.failAhead .keyNotString)
    else if x = ',' then
      let c := c.past.skipBlanks
      match c.rest with
      | [] => .error (c.failAhead .endInValue)
      | '"' :: _ => (string c.past).map some
      | '}' :: _ => .error (c.failAhead .trailingComma)
      | _ => .error (c.failAhead .keyNotString)
    else .error (c.failAhead .objectCommaOrEndExpected)

def colon (c : Cursor) : Reading Unit :=
  let c := c.skipBlanks
  match c.rest with
  | [] => .error (c.failAhead .endInObject)
  | ':' :: _ => .ok ((), c.past)
  | _ => .error (c.failAhead .colonExpected)

def afterColon {α : Type} (read : Cursor → Reading α) (c : Cursor) : Reading α :=
  (colon c).andThen fun _ c => read c

/-- Reads the members of an object up to its brace, of which `fuel` bounds the number. A reader of one
member is given what the members before it left, the key, and the cursor before the colon. -/
def membersUpTo {σ : Type} (member : σ → String → Cursor → Reading σ) (fuel : Nat) (isFirst : Bool)
    (s : σ) (c : Cursor) : Reading σ :=
  match fuel with
  | 0 => .error (c.failAhead .endInObject)
  | fuel + 1 =>
    (nextKey isFirst c).andThen fun key c =>
      match key with
      | none => .ok (s, c)
      | some k => (member s k c).andThen fun s c => membersUpTo member fuel false s c

def members {σ : Type} (member : σ → String → Cursor → Reading σ) (s : σ) (c : Cursor) : Reading σ :=
  membersUpTo member (c.rest.length + 1) true s c

/-- Reads a value of any type that holds at most `depth` lists and objects inside one another. -/
def value (depth : Nat) (c : Cursor) : Reading Value :=
  let c := c.skipBlanks
  match scalar? c with
  | some r => r
  | none =>
    match c.rest with
    | [] => .error (c.failAhead .endInValue)
    | '[' :: _ =>
      match depth with
      | 0 => .error (c.failAhead .tooDeep)
      | depth + 1 => (inList (items (value depth)) c.past).map .list
    | '{' :: _ =>
      match depth with
      | 0 => .error (c.failAhead .tooDeep)
      | depth + 1 =>
        let member (got : List (String × Value)) (key : String) (c : Cursor) :=
          (afterColon (value depth) c).map fun v => got ++ [(key, v)]
        (inObject (members member []) c.past).map .object
    | _ => .error (c.failAhead .valueExpected)

/-- What is open around the value that is passed over. -/
inductive Frame
  | list
  | object
  deriving DecidableEq, Repr

def Frame.closer : Frame → Char
  | list => ']'
  | object => '}'

def Frame.endCause : Frame → Cause
  | list => .endInList
  | object => .endInObject

def Frame.commaOrEndCause : Frame → Cause
  | list => .listCommaOrEndExpected
  | object => .objectCommaOrEndExpected

/-- Passes over the ends that follow a value; gives what is still open when a comma has been passed, and
nothing when all is closed. -/
def skipEnds : List Frame → Cursor → Reading (List Frame)
  | [], c => .ok ([], c)
  | f :: frames, c =>
    let c := c.skipBlanks
    match c.rest with
    | [] => .error (c.failAhead f.endCause)
    | x :: _ =>
      if x = ',' then .ok (f :: frames, c.past)
      else if x = f.closer then skipEnds frames c.past
      else .error (c.failAhead f.commaOrEndCause)

/-- Passes over the end of a list or an object that has just been opened, if it is empty. -/
def skipEmpty (f : Frame) (frames : List Frame) (c : Cursor) : Reading (List Frame) :=
  let c := c.skipBlanks
  match c.rest with
  | [] => .error (c.failAhead f.endCause)
  | x :: _ => if x = f.closer then skipEnds frames c.past else .ok (f :: frames, c)

def skipKey (c : Cursor) : Reading Unit :=
  let c := c.skipBlanks
  match c.rest with
  | [] => .error (c.failAhead .endInObject)
  | '"' :: _ => (skipString c.past).andThen fun _ c => colon c
  | _ => .error (c.failAhead .keyNotString)

def skipScalar? (c : Cursor) : Option (Reading Unit) :=
  match c.rest with
  | [] => none
  | x :: _ =>
    if x = 'n' then some (word ['u', 'l', 'l'] c.past)
    else if x = 't' then some (word ['r', 'u', 'e'] c.past)
    else if x = 'f' then some (word ['a', 'l', 's', 'e'] c.past)
    else if x = '-' then some (skipNumber c.past)
    else if x.isDigit then some (skipNumber c)
    else if x = '"' then some (skipString c.past)
    else none

/-- Passes over the beginning of a value: a whole scalar with the ends behind it, or the opening of a list
or an object. -/
def skipPiece (frames : List Frame) (c : Cursor) : Reading (List Frame) :=
  let c := c.skipBlanks
  match skipScalar? c with
  | some r => r.andThen fun _ c => skipEnds frames c
  | none =>
    match c.rest with
    | [] => .error (c.failAhead .endInValue)
    | '[' :: _ => skipEmpty .list frames c.past
    | '{' :: _ => skipEmpty .object frames c.past
    | _ => .error (c.failAhead .valueExpected)

/-- Passes over a value inside of what is open, of whose pieces `fuel` bounds the number. -/
def skipUpTo (fuel : Nat) (frames : List Frame) (c : Cursor) : Reading Unit :=
  match fuel with
  | 0 => .error (c.failAhead .endInValue)
  | fuel + 1 =>
    (skipPiece frames c).andThen fun frames c =>
      match frames with
      | [] => .ok ((), c)
      | .list :: _ => skipUpTo fuel frames c
      | .object :: _ => (skipKey c).andThen fun _ c => skipUpTo fuel frames c

def skip (c : Cursor) : Reading Unit := skipUpTo (c.rest.length + 1) [] c

end Router.Json
