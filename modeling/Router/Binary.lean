/-!
Binary floating-point numbers without a sign: a significand of at most 53 bits times a power of two. The
result of every operation is the exact result rounded once, to the nearest number and from the middle
between two to the one with the even significand. All arithmetic is exact.
-/

set_option autoImplicit false
set_option relaxedAutoImplicit false

namespace Router

/-- A number `significand · 2 ^ exponent`. -/
structure Binary where
  significand : Nat
  exponent : Int
  deriving DecidableEq, Repr

namespace Binary

/-- The least exponent. At this exponent a significand may have fewer than 53 bits. -/
def leastExponent : Int := -1074

def greatestExponent : Int := 971

def significandLimit : Nat := Nat.pow 2 53

def isFinite (b : Binary) : Bool := b.exponent ≤ greatestExponent

def isZero (b : Binary) : Bool := b.significand = 0

/-- The lower neighbour of the number is only half as far away as the upper one. -/
def isNarrow (b : Binary) : Bool :=
  2 * b.significand = significandLimit && leastExponent < b.exponent

/-- A quotient rounded to the nearest integer, and from the middle to the even one. -/
def roundQuotient (num den : Nat) : Nat :=
  let q := num / den
  let r := num % den
  if 2 * r < den || (2 * r = den && q % 2 = 0) then q else q + 1

/-- A fraction in units of a power of two, as another fraction. -/
def inUnits (num den : Nat) (exponent : Int) : Nat × Nat :=
  (num * Nat.pow 2 (-exponent).toNat, den * Nat.pow 2 exponent.toNat)

/-- The exponent in whose units a fraction has a whole part of 53 bits, or the least exponent. -/
def exponentOf (num den : Nat) : Int :=
  let e : Int := (num.log2 : Int) - den.log2 - 52
  let (n, d) := inUnits num den e
  max leastExponent (if 2 * (n / d) < significandLimit then e - 1 else e)

def round (num den : Nat) : Binary :=
  if num = 0 then ⟨0, leastExponent⟩
  else
    let e := exponentOf num den
    let (n, d) := inUnits num den e
    let m := roundQuotient n d
    if m = significandLimit then ⟨m / 2, e + 1⟩ else ⟨m, e⟩

def ofNat (n : Nat) : Binary := round n 1

def mul (a b : Binary) : Binary :=
  let e := a.exponent + b.exponent
  round (a.significand * b.significand * Nat.pow 2 e.toNat) (Nat.pow 2 (-e).toNat)

def div (a b : Binary) : Binary :=
  let e := a.exponent - b.exponent
  round (a.significand * Nat.pow 2 e.toNat) (b.significand * Nat.pow 2 (-e).toNat)

end Binary

end Router
