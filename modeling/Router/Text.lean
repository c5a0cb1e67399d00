import Router.Text.Case.Table
import Router.Text.Visible.Table

/-!
Texts as they are shown. Lower case covers all letters: a capital sigma at the end of a word becomes the
final form of the small one, and a dotted capital `İ` becomes two characters. In quotes, as in reports and
logs, quotation marks, backslashes and line ends are escaped, and a character without a shape of its own is
shown by its code point. Fields have a width in characters and cut a text that is longer than their limit.
-/

set_option autoImplicit false
set_option relaxedAutoImplicit false

namespace Router.Text

/-- A character whose code point lies in one of the ranges, their ends included. -/
def inRanges (ranges : Array (Nat × Nat)) (c : Char) : Bool :=
  ranges.any fun r => r.1 ≤ c.toNat && c.toNat ≤ r.2

namespace Case

def Shift.covers (s : Shift) (c : Char) : Bool :=
  s.first ≤ c.toNat && c.toNat ≤ s.last && (c.toNat - s.first) % s.step == 0

def Shift.apply (s : Shift) (c : Char) : Char := Char.ofNat (c.toNat + s.delta).toNat

/-- The lower-case form of one character on its own. -/
def lower (c : Char) : List Char :=
  if c = 'İ' then ['i', '\u0307']
  else match shifts.find? (·.covers c) with
    | some s => [s.apply c]
    | none => [c]

/-- The first character that is not passed over has case. -/
def meetsCased (cs : List Char) : Bool :=
  match cs.dropWhile (inRanges ignorableRanges) with
  | [] => false
  | c :: _ => inRanges casedRanges c

/-- A sigma ends a word when a cased character stands before it and none after it. The characters
before it are given nearest first. -/
def endsWord (before after : List Char) : Bool := meetsCased before && !meetsCased after

/-- The lower case of a text whose first part, nearest character first, is `before`. -/
def lowerAfter (before : List Char) : List Char → List Char
  | [] => []
  | c :: rest =>
    let here := if c = 'Σ' then [if endsWord before rest then 'ς' else 'σ'] else lower c
    here ++ lowerAfter (c :: before) rest

end Case

def lowercase (s : String) : String := String.ofList (Case.lowerAfter [] s.toList)

def isVisible (c : Char) : Bool :=
  !inRanges Visible.shapelessRanges c && !inRanges Visible.extendingRanges c

def codePoint (c : Char) : List Char :=
  ['\\', 'u', '{'] ++ Nat.toDigits 16 c.toNat ++ ['}']

/-- How one character stands between the quotes. -/
def quoteChar (c : Char) : List Char :=
  if c = '\x00' then ['\\', '0']
  else if c = '\t' then ['\\', 't']
  else if c = '\r' then ['\\', 'r']
  else if c = '\n' then ['\\', 'n']
  else if c = '"' || c = '\\' then ['\\', c]
  else if isVisible c then [c]
  else codePoint c

def quoted (s : String) : String :=
  String.ofList ('"' :: s.toList.flatMap quoteChar ++ ['"'])

inductive Align
  | left
  | right
  | center
  deriving DecidableEq, Repr

/-- A field: at least `width` characters, showing at most `limit` characters of the text. -/
structure Field where
  width : Nat
  limit : Option Nat := none
  align : Align := .left
  deriving DecidableEq, Repr

/-- The blanks in front of a text that leaves `gap` columns free; of an odd gap in the middle the
smaller part comes first. -/
def Align.before (gap : Nat) : Align → Nat
  | .left => 0
  | .right => gap
  | .center => gap / 2

/-- A text cut to the field's limit and filled up with blanks to its width. -/
def Field.lay (f : Field) (s : String) : String :=
  let shown := match f.limit with
    | none => s.toList
    | some n => s.toList.take n
  let gap := f.width - shown.length
  let front := f.align.before gap
  String.ofList (List.replicate front ' ' ++ shown ++ List.replicate (gap - front) ' ')

end Router.Text
