import Router.Decimal
import Router.Json.Cursor

/-!
JSON numbers. A number without fraction and exponent that fits into 64 bits is read as an integer, any
other as a floating-point number. Digits are gathered while they fit into 64 bits; what they leave out
goes into a power of ten, which is applied in floating-point arithmetic, one rounding for each step.
-/

set_option autoImplicit false
set_option relaxedAutoImplicit false

namespace Router.Json

inductive Number
  | integer (n : Int)
  | float (negative : Bool) (magnitude : Binary)
  deriving DecidableEq, Repr

/-- Floating-point numbers are positional for exponents from -5 to 15. -/
def floatNotation : Decimal.Notation := ⟨-5, 15⟩

def maxSignificand : Nat := Nat.pow 2 64 - 1

/-- The greatest exponent that is worked out. -/
def maxExponent : Nat := Nat.pow 2 31 - 1

def digitValue (c : Char) : Nat := c.toNat - 48

def Cursor.atDigit (c : Cursor) : Bool := (c.rest.head?.map Char.isDigit).getD false

def Cursor.atExponent (c : Cursor) : Bool := c.rest.head? = some 'e' || c.rest.head? = some 'E'

def Cursor.skipDigits (c : Cursor) : Cursor :=
  ⟨c.rest.dropWhile Char.isDigit, c.offset + (c.rest.takeWhile Char.isDigit).length⟩

/-- Appends digits to a number while the result stays at most `limit`; gives the number, how many digits
were taken, and what is left. -/
def gather (limit n : Nat) : List Char → Nat × Nat × List Char
  | [] => (n, 0, [])
  | c :: rest =>
    if c.isDigit && n * 10 + digitValue c ≤ limit then
      let (m, taken, left) := gather limit (n * 10 + digitValue c) rest
      (m, taken + 1, left)
    else (n, 0, c :: rest)

def Cursor.gather (limit n : Nat) (c : Cursor) : Nat × Nat × Cursor :=
  let (m, taken, left) := Json.gather limit n c.rest
  (m, taken, ⟨left, c.offset + taken⟩)

def powerOfTen (k : Nat) : Binary := Binary.ofNat (Nat.pow 10 k)

/-- A number divided by a power of ten, at most 308 places at a time. -/
def shrink (x : Binary) (places : Nat) : Binary :=
  if h : places ≤ 308 then x.div (powerOfTen places)
  else if x.isZero then x
  else shrink (x.div (powerOfTen 308)) (places - 308)
  termination_by places
  decreasing_by omega

/-- A significand times a power of ten, or `none` when that is too large. -/
def scaled? (significand : Nat) (exponent : Int) : Option Binary :=
  let x := Binary.ofNat significand
  if exponent < 0 then some (shrink x exponent.natAbs)
  else if exponent ≤ 308 then
    let y := x.mul (powerOfTen exponent.natAbs)
    if y.isFinite then some y else none
  else if x.isZero then some x
  else none

def floatNumber (positive : Bool) (significand : Nat) (exponent : Int) (c : Cursor) :
    Reading Number :=
  match scaled? significand exponent with
  | none => .error (c.fail .numberTooLarge)
  | some x => .ok (.float (!positive) x, c)

def exponentDigits (positive : Bool) (significand : Nat) (exponent : Int) (raises : Bool)
    (c : Cursor) : Reading Number :=
  match c.rest with
  | [] => .error (c.fail .endInValue)
  | x :: _ =>
    if x.isDigit then
      let (n, _, c) := c.past.gather maxExponent (digitValue x)
      if c.atDigit then
        if significand ≠ 0 && raises then .error (c.past.fail .numberTooLarge)
        else .ok (.float (!positive) (Binary.ofNat 0), c.skipDigits)
      else floatNumber positive significand (if raises then exponent + n else exponent - n) c
    else .error (c.past.fail .badNumber)

def exponentPart (positive : Bool) (significand : Nat) (exponent : Int) (c : Cursor) :
    Reading Number :=
  let c := c.past
  match c.rest with
  | '+' :: _ => exponentDigits positive significand exponent true c.past
  | '-' :: _ => exponentDigits positive significand exponent false c.past
  | _ => exponentDigits positive significand exponent true c

def floatEnd (positive : Bool) (significand : Nat) (exponent : Int) (c : Cursor) : Reading Number :=
  if c.atExponent then exponentPart positive significand exponent c
  else floatNumber positive significand exponent c

def fractionPart (positive : Bool) (significand : Nat) (exponent : Int) (c : Cursor) :
    Reading Number :=
  let (m, taken, c) := c.past.gather maxSignificand significand
  if c.atDigit then floatEnd positive m (exponent - taken) c.skipDigits
  else if taken = 0 then
    .error (c.failAhead (if c.rest.isEmpty then .endInValue else .badNumber))
  else floatEnd positive m (exponent - taken) c

/-- The integer with a sign and a significand; a negative zero and an integer below the 64-bit ones
become floating-point numbers. -/
def integerNumber (positive : Bool) (significand : Nat) : Number :=
  if positive then .integer significand
  else if 0 < significand && significand ≤ Nat.pow 2 63 then .integer (-significand)
  else .float true (Binary.ofNat significand)

/-- What follows the digits in front of the point. -/
def numberEnd (positive : Bool) (significand : Nat) (c : Cursor) : Reading Number :=
  if c.rest.head? = some '.' then fractionPart positive significand 0 c
  else if c.atExponent then exponentPart positive significand 0 c
  else .ok (integerNumber positive significand, c)

/-- What follows the digits that were gathered when there are more digits before the point. -/
def longNumberEnd (positive : Bool) (significand : Nat) (c : Cursor) : Reading Number :=
  let exponent := (c.rest.takeWhile Char.isDigit).length
  let c := c.skipDigits
  if c.rest.head? = some '.' then fractionPart positive significand exponent c
  else floatEnd positive significand exponent c

/-- Reads a number behind its sign. -/
def number (positive : Bool) (c : Cursor) : Reading Number :=
  match c.rest with
  | [] => .error (c.fail .endInValue)
  | '0' :: _ =>
    if c.past.atDigit then .error (c.past.failAhead .badNumber) else numberEnd positive 0 c.past
  | x :: _ =>
    if x.isDigit then
      let (n, _, c) := c.past.gather maxSignificand (digitValue x)
      if c.atDigit then longNumberEnd positive n c else numberEnd positive n c
    else .error (c.past.fail .badNumber)

def skipExponent (c : Cursor) : Reading Unit :=
  let c := if c.rest.head? = some '+' || c.rest.head? = some '-' then c.past else c
  if c.atDigit then .ok ((), c.skipDigits)
  else if c.rest.isEmpty then .error (c.fail .badNumber)
  else .error (c.past.fail .badNumber)

def skipFraction (c : Cursor) : Reading Unit :=
  if c.atDigit then
    let c := c.skipDigits
    if c.atExponent then skipExponent c.past else .ok ((), c)
  else .error (c.failAhead .badNumber)

def skipNumberEnd (c : Cursor) : Reading Unit :=
  if c.rest.head? = some '.' then skipFraction c.past
  else if c.atExponent then skipExponent c.past
  else .ok ((), c)

/-- Passes over a number behind its sign; how large it is does not matter. -/
def skipNumber (c : Cursor) : Reading Unit :=
  match c.rest with
  | [] => .error (c.fail .badNumber)
  | '0' :: _ =>
    if c.past.atDigit then .error (c.past.failAhead .badNumber) else skipNumberEnd c.past
  | x :: _ => if x.isDigit then skipNumberEnd c.skipDigits else .error (c.past.fail .badNumber)

end Router.Json
