import Router.Binary

/-!
The shortest decimal of a binary number, and how it is written. A number `m · 2 ^ q` stands for all reals
that round to it; the shortest decimal is the multiple of the greatest power of ten among them, and of
several the nearest, a tie going to the even multiple. All arithmetic is exact. A decimal is written in
positional form for exponents near zero and with an exponent otherwise.
-/

set_option autoImplicit false
set_option relaxedAutoImplicit false

namespace Router

/-- A number `digits · 10 ^ exponent`. -/
structure Decimal where
  digits : Nat
  exponent : Int
  deriving DecidableEq, Repr

namespace Binary

/-- A power of ten as seen in quarters of the number's last binary digit: `ten / quarter` is their
quotient. -/
structure Scale where
  ten : Nat
  quarter : Nat
  deriving DecidableEq, Repr

def scale (b : Binary) (power : Int) : Scale where
  ten := Nat.pow 10 power.toNat * Nat.pow 2 (2 - b.exponent).toNat
  quarter := Nat.pow 10 (-power).toNat * Nat.pow 2 (b.exponent - 2).toNat

def holds (b : Binary) (s : Scale) (k : Nat) : Bool :=
  let x := k * s.ten
  let low := (4 * b.significand - if b.isNarrow then 1 else 2) * s.quarter
  let high := (4 * b.significand + 2) * s.quarter
  if b.significand % 2 = 0 then low ≤ x && x ≤ high else low < x && x < high

/-- Of the two multiples of a power of ten around the number, the one that rounds to it, or the nearer
if both do. -/
def nearest? (b : Binary) (power : Int) : Option Nat :=
  let s := b.scale power
  let x := 4 * b.significand * s.quarter
  let k := x / s.ten
  match b.holds s k, b.holds s (k + 1) with
  | false, false => none
  | true, false => some k
  | false, true => some (k + 1)
  | true, true =>
    let below := x - k * s.ten
    let above := (k + 1) * s.ten - x
    if below < above || below = above && k % 2 = 0 then some k else some (k + 1)

/-- The first hit among `tries` powers of ten from `power` downwards. -/
def search (b : Binary) (tries : Nat) (power : Int) : Decimal :=
  match tries with
  | 0 => ⟨0, 0⟩
  | tries + 1 =>
    match b.nearest? power with
    | some k => ⟨k, power⟩
    | none => b.search tries (power - 1)

def powerAbove (b : Binary) : Int :=
  (Nat.log2 b.significand + 1 + b.exponent) * 30103 / 100000 + 1

/-- The shortest decimal of a positive number. Seventeen digits always suffice. -/
def shortest (b : Binary) : Decimal := b.search 24 b.powerAbove

end Binary

end Router

namespace Router.Decimal

/-- The choices of a number format: the exponents that are written in positional form. -/
structure Notation where
  least : Int
  greatest : Int
  deriving DecidableEq, Repr

def writeExponent (e : Int) : List Char :=
  'e' :: (if e < 0 then '-' else '+') :: Nat.toDigits 10 e.natAbs

/-- A decimal without zeros at the end of its digits. -/
def Notation.write (f : Notation) (d : Decimal) : List Char :=
  let ds := Nat.toDigits 10 d.digits
  let n := ds.length
  let e := d.exponent + n - 1
  if f.least ≤ e && e ≤ f.greatest then
    if 0 ≤ d.exponent then ds ++ List.replicate d.exponent.toNat '0' ++ ['.', '0']
    else if 0 ≤ e then ds.take (e.toNat + 1) ++ '.' :: ds.drop (e.toNat + 1)
    else '0' :: '.' :: List.replicate (-e - 1).toNat '0' ++ ds
  else
    match ds with
    | [] => []
    | [c] => c :: writeExponent e
    | c :: rest => c :: '.' :: rest ++ writeExponent e

def Notation.text (f : Notation) (negative : Bool) (x : Binary) : String :=
  let body := if x.isZero then ['0', '.', '0'] else f.write x.shortest
  String.ofList (if negative then '-' :: body else body)

end Router.Decimal
