import Router.Json.Cursor

/-!
JSON strings: reading one behind its opening quote, passing over one, and writing one.
-/

set_option autoImplicit false
set_option relaxedAutoImplicit false

namespace Router.Json

def hexValue? (c : Char) : Option Nat :=
  if '0' ≤ c && c ≤ '9' then some (c.toNat - 48)
  else if 'A' ≤ c && c ≤ 'F' then some (c.toNat - 55)
  else if 'a' ≤ c && c ≤ 'f' then some (c.toNat - 87)
  else none

def fourDigits? (a b c d : Char) : Option Nat := do
  let w ← hexValue? a
  let x ← hexValue? b
  let y ← hexValue? c
  let z ← hexValue? d
  some (((w * 16 + x) * 16 + y) * 16 + z)

def byteCount (cs : List Char) : Nat := cs.foldr (fun c n => c.utf8Size + n) 0

def hexEscape (c : Cursor) : Reading Nat :=
  match c.rest with
  | p :: q :: r :: s :: rest =>
    match fourDigits? p q r s with
    | some n => .ok (n, ⟨rest, c.offset + 4⟩)
    | none => .error (.placed .badEscape (c.offset + 4))
  | few =>
    if byteCount few < 4 then .error (.placed .endInString (c.offset + byteCount few))
    else .error (.placed .badEscape (c.offset + 4))

/-- The first half of a pair that stands for one character. -/
def isLeading (n : Nat) : Bool := 0xD800 ≤ n && n ≤ 0xDBFF

def isTrailing (n : Nat) : Bool := 0xDC00 ≤ n && n ≤ 0xDFFF

def joinHalves (m n : Nat) : Char := Char.ofNat (0x10000 + (m - 0xD800) * 0x400 + (n - 0xDC00))

/-- Reads the second half that has to follow the first half `m`. -/
def secondHalf (m : Nat) (c : Cursor) : Reading Char :=
  match c.rest with
  | [] => .error (c.fail .endInString)
  | '\\' :: _ =>
    let c := c.past
    match c.rest with
    | [] => .error (c.fail .endInString)
    | 'u' :: _ =>
      (hexEscape c.past).andThen fun n c =>
        if isTrailing n then .ok (joinHalves m n, c) else .error (c.fail .loneSurrogate)
    | _ => .error (c.past.fail .surrogateWithoutPartner)
  | _ => .error (c.past.fail .surrogateWithoutPartner)

def codeEscape (c : Cursor) : Reading Char :=
  (hexEscape c).andThen fun n c =>
    if isTrailing n then .error (c.fail .loneSurrogate)
    else if isLeading n then secondHalf n c
    else .ok (Char.ofNat n, c)

/-- The character that a letter stands for behind a backslash. -/
def letterEscape? : Char → Option Char
  | '"' => some '"'
  | '\\' => some '\\'
  | '/' => some '/'
  | 'b' => some '\x08'
  | 'f' => some '\x0c'
  | 'n' => some '\n'
  | 'r' => some '\r'
  | 't' => some '\t'
  | _ => none

def escape (c : Cursor) : Reading Char :=
  match c.rest with
  | [] => .error (c.fail .endInString)
  | 'u' :: _ => codeEscape c.past
  | x :: _ =>
    match letterEscape? x with
    | some y => .ok (y, c.past)
    | none => .error (c.past.fail .badEscape)

/-- Passes over an escape; which character it stands for does not matter. -/
def skipEscape (c : Cursor) : Reading Unit :=
  match c.rest with
  | [] => .error (c.fail .endInString)
  | 'u' :: _ => (hexEscape c.past).map fun _ => ()
  | x :: _ => if (letterEscape? x).isSome then .ok ((), c.past) else .error (c.past.fail .badEscape)

def isControl (c : Char) : Bool := c.toNat < 0x20

/-- Reads the characters of a string up to its closing quote, of which `fuel` bounds the number. -/
def stringBody (fuel : Nat) (c : Cursor) : Reading (List Char) :=
  match fuel with
  | 0 => .error (c.fail .endInString)
  | fuel + 1 =>
    match c.rest with
    | [] => .error (c.fail .endInString)
    | '"' :: _ => .ok ([], c.past)
    | '\\' :: _ =>
      (escape c.past).andThen fun x c => (stringBody fuel c).map (x :: ·)
    | x :: rest =>
      if isControl x then .error (c.past.fail .controlCharacter)
      else (stringBody fuel ⟨rest, c.offset + x.utf8Size⟩).map (x :: ·)

def string (c : Cursor) : Reading String := (stringBody (c.rest.length + 1) c).map String.ofList

def skipStringBody (fuel : Nat) (c : Cursor) : Reading Unit :=
  match fuel with
  | 0 => .error (c.fail .endInString)
  | fuel + 1 =>
    match c.rest with
    | [] => .error (c.fail .endInString)
    | '"' :: _ => .ok ((), c.past)
    | '\\' :: _ => (skipEscape c.past).andThen fun _ c => skipStringBody fuel c
    | x :: rest =>
      if isControl x then .error (c.fail .controlCharacter)
      else skipStringBody fuel ⟨rest, c.offset + x.utf8Size⟩

def skipString (c : Cursor) : Reading Unit := skipStringBody (c.rest.length + 1) c

def writeChar (c : Char) : List Char :=
  if c = '"' || c = '\\' then ['\\', c]
  else if c = '\x08' then ['\\', 'b']
  else if c = '\x0c' then ['\\', 'f']
  else if c = '\n' then ['\\', 'n']
  else if c = '\r' then ['\\', 'r']
  else if c = '\t' then ['\\', 't']
  else if isControl c then
    ['\\', 'u', '0', '0', Nat.digitChar (c.toNat / 16), Nat.digitChar (c.toNat % 16)]
  else [c]

def writeString (s : String) : List Char := '"' :: s.toList.flatMap writeChar ++ ['"']

end Router.Json
