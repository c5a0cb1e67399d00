import Router.Json.Number
import Router.Proofs.Json.Consumes

/-!
How numbers are spelled: digits without needless zeros in front, then perhaps a fraction, then perhaps an
exponent. A numeral is in range if its value is an integer of 64 bits or a finite floating-point number,
and the numerals in range are the ones that are read. Whatever its size, a numeral is passed over.
-/

set_option autoImplicit false
set_option relaxedAutoImplicit false

namespace Router.Json

open Router.Template (Stops stops_nil takeWhile_append_of_stops dropWhile_append_of_stops)

structure Digits where
  text : List Char
  ne_nil : text ≠ []
  isDigit : ∀ c ∈ text, c.isDigit = true

inductive ExponentSign
  | none
  | plus
  | minus
  deriving DecidableEq, Repr

def ExponentSign.write : ExponentSign → List Char
  | none => []
  | plus => ['+']
  | minus => ['-']

structure Exponent where
  capital : Bool
  sign : ExponentSign
  digits : Digits

def Exponent.write (x : Exponent) : List Char :=
  (if x.capital then 'E' else 'e') :: (x.sign.write ++ x.digits.text)

/-- A number as it may stand in a text. -/
structure Numeral where
  negative : Bool
  whole : Digits
  no_leading_zero : whole.text.head? = some '0' → whole.text = ['0']
  fraction : Option Digits
  exponent : Option Exponent

def writeFraction : Option Digits → List Char
  | none => []
  | some digits => '.' :: digits.text

def writeExponent : Option Exponent → List Char
  | none => []
  | some x => x.write

def Numeral.writeMagnitude (n : Numeral) : List Char :=
  n.whole.text ++ (writeFraction n.fraction ++ writeExponent n.exponent)

def Numeral.write (n : Numeral) : List Char :=
  if n.negative then '-' :: n.writeMagnitude else n.writeMagnitude

/-- The floating-point number with a sign, a significand and a power of ten, if it is finite. -/
def float? (negative : Bool) (significand : Nat) (scale : Int) : Option Number :=
  (scaled? significand scale).map (.float negative)

/-- The number with an exponent. An exponent of more than 31 bits makes the number too large or zero. -/
def Exponent.number? (x : Exponent) (negative : Bool) (significand : Nat) (scale : Int) :
    Option Number :=
  let (k, _, left) := gather maxExponent 0 x.digits.text
  if left ≠ [] then
    if significand ≠ 0 ∧ x.sign ≠ .minus then none else some (.float negative (Binary.ofNat 0))
  else float? negative significand (if x.sign = .minus then scale - k else scale + k)

def withExponent? (exponent : Option Exponent) (negative : Bool) (significand : Nat) (scale : Int) :
    Option Number :=
  match exponent with
  | none => float? negative significand scale
  | some x => x.number? negative significand scale

/-- The number with a fraction or without one. Digits that do not fit into 64 bits are left out. -/
def withFraction? (fraction : Option Digits) (exponent : Option Exponent) (negative : Bool)
    (significand : Nat) (scale : Int) : Option Number :=
  match fraction with
  | none => withExponent? exponent negative significand scale
  | some digits =>
    let (m, taken, _) := gather maxSignificand significand digits.text
    withExponent? exponent negative m (scale - taken)

/-- The value of a numeral, if it is in range. -/
def Numeral.number? (n : Numeral) : Option Number :=
  let (m, _, left) := gather maxSignificand 0 n.whole.text
  if left = [] ∧ n.fraction.isNone ∧ n.exponent.isNone then some (integerNumber (!n.negative) m)
  else withFraction? n.fraction n.exponent n.negative m left.length

theorem isDigit_of_mem_delimiters {c : Char} (h : c ∈ delimiters) : c.isDigit = false := by
  have hall : delimiters.all (fun c => !c.isDigit) = true := by decide
  simpa using List.all_eq_true.1 hall c h

theorem ne_of_isDigit {c d : Char} (hd : d.isDigit = true) (hc : c.isDigit = false) : d ≠ c := by
  rintro rfl
  simp [hc] at hd

theorem stops_isDigit_of_delimited {rest : List Char} (h : Delimited rest) :
    Stops Char.isDigit rest :=
  fun c hc => isDigit_of_mem_delimiters (h c hc)

theorem gather_append {limit n : Nat} {digits rest : List Char}
    (hdigits : ∀ c ∈ digits, c.isDigit = true) (hrest : Stops Char.isDigit rest) :
    gather limit n (digits ++ rest) =
      ((gather limit n digits).1, (gather limit n digits).2.1,
        (gather limit n digits).2.2 ++ rest) := by
  induction digits generalizing n with
  | nil =>
    cases rest with
    | nil => rfl
    | cons c rest =>
      have hc : c.isDigit = false := Template.stops_cons.1 hrest
      simp [gather, hc]
  | cons c digits ih =>
    obtain ⟨-, hdigits⟩ := List.forall_mem_cons.1 hdigits
    rw [List.cons_append, gather, gather, ih hdigits]
    split <;> rfl

theorem left_suffix (limit n : Nat) (digits : List Char) :
    (gather limit n digits).2.2 <:+ digits := by
  induction digits generalizing n with
  | nil => exact List.suffix_rfl
  | cons c digits ih =>
    rw [gather]
    split
    · exact (ih _).trans (List.suffix_cons c digits)
    · exact List.suffix_rfl

theorem isDigit_of_mem_left {limit n : Nat} {digits : List Char}
    (hdigits : ∀ c ∈ digits, c.isDigit = true) :
    ∀ c ∈ (gather limit n digits).2.2, c.isDigit = true :=
  fun c hc => hdigits c ((left_suffix limit n digits).subset hc)

theorem digitValue_le {c : Char} (hc : c.isDigit = true) : digitValue c ≤ 9 := by
  have hbound : c.toNat ≤ 57 := by
    simp only [Char.isDigit, Bool.and_eq_true, decide_eq_true_eq] at hc
    exact hc.2
  simp only [digitValue]
  omega

theorem gather_cons_of_isDigit {limit : Nat} (hlimit : 9 ≤ limit) {c : Char} (hc : c.isDigit = true)
    (digits : List Char) : gather limit 0 (c :: digits) =
      ((gather limit (digitValue c) digits).1, (gather limit (digitValue c) digits).2.1 + 1,
        (gather limit (digitValue c) digits).2.2) := by
  have hle : digitValue c ≤ limit := (digitValue_le hc).trans hlimit
  rw [gather, Nat.zero_mul, Nat.zero_add, if_pos (by simp [hc, hle])]

section Cursor

variable {digits rest : List Char} (hdigits : ∀ c ∈ digits, c.isDigit = true)
  (hrest : Stops Char.isDigit rest) (offset : Nat)
include hdigits hrest

theorem cursor_gather (limit n : Nat) :
    Cursor.gather limit n ⟨digits ++ rest, offset⟩ =
      ((gather limit n digits).1, (gather limit n digits).2.1,
        ⟨(gather limit n digits).2.2 ++ rest, offset + (gather limit n digits).2.1⟩) := by
  rw [Cursor.gather, gather_append hdigits hrest]

theorem atDigit_append : Cursor.atDigit ⟨digits ++ rest, offset⟩ = true ↔ digits ≠ [] := by
  cases digits with
  | nil =>
    cases rest with
    | nil => simp [Cursor.atDigit]
    | cons c rest =>
      have hc : c.isDigit = false := Template.stops_cons.1 hrest
      simp [Cursor.atDigit, hc]
  | cons c digits =>
    have hc : c.isDigit = true := hdigits c List.mem_cons_self
    simp [Cursor.atDigit, hc]

theorem skipDigits_append :
    Cursor.skipDigits ⟨digits ++ rest, offset⟩ = ⟨rest, offset + digits.length⟩ := by
  rw [Cursor.skipDigits, dropWhile_append_of_stops hdigits hrest,
    takeWhile_append_of_stops hdigits hrest]

end Cursor

variable {rest : List Char} {negative : Bool} {significand : Nat} {scale : Int} {v : Number}

theorem consumes_floatNumber (h : float? negative significand scale = some v) :
    Consumes (floatNumber (!negative) significand scale) [] v rest := by
  intro offset
  obtain ⟨x, hx, rfl⟩ := Option.map_eq_some_iff.1 h
  refine ⟨offset, ?_⟩
  rw [floatNumber, hx]
  simp

theorem consumes_exponentDigits {x : Exponent}
    (h : x.number? negative significand scale = some v) (hrest : Delimited rest) :
    Consumes (exponentDigits (!negative) significand scale (x.sign ≠ .minus)) x.digits.text v
      rest := by
  intro offset
  obtain ⟨d, ds, htext⟩ := List.exists_cons_of_ne_nil x.digits.ne_nil
  obtain ⟨hd, hds⟩ := List.forall_mem_cons.1 (htext ▸ x.digits.isDigit)
  have hstops := stops_isDigit_of_delimited hrest
  have hleft : ∀ c ∈ (gather maxExponent (digitValue d) ds).2.2, c.isDigit = true :=
    isDigit_of_mem_left hds
  rw [Exponent.number?, htext, gather_cons_of_isDigit (by decide) hd] at h
  rw [htext, List.cons_append, exponentDigits]
  simp only [hd, if_true, Cursor.past, List.tail_cons, cursor_gather hds hstops,
    atDigit_append hleft hstops, skipDigits_append hleft hstops]
  dsimp only at h
  by_cases hover : (gather maxExponent (digitValue d) ds).2.2 = []
  · rw [if_neg (not_not_intro hover)] at h ⊢
    have hscale : ∀ k : Nat, (if decide (x.sign ≠ .minus) = true then scale + k else scale - k) =
        if x.sign = .minus then scale - k else scale + k := by
      intro k
      split_ifs <;> simp_all
    rw [hscale, hover]
    exact consumes_floatNumber h _
  · rw [if_pos hover] at h ⊢
    by_cases hlarge : significand ≠ 0 ∧ x.sign ≠ .minus
    · rw [if_pos hlarge] at h
      exact absurd h (by simp)
    · rw [if_neg hlarge] at h
      rw [if_neg (by simpa using hlarge), Bool.not_not]
      obtain rfl := Option.some.inj h
      exact ⟨_, rfl⟩

theorem Exponent.write_eq (x : Exponent) :
    ∃ mark, (mark = 'e' ∨ mark = 'E') ∧ x.write = mark :: (x.sign.write ++ x.digits.text) := by
  rw [Exponent.write]
  cases x.capital
  · exact ⟨'e', .inl rfl, rfl⟩
  · exact ⟨'E', .inr rfl, rfl⟩

theorem Exponent.head_digits (x : Exponent) : ∃ d ds, x.digits.text = d :: ds ∧ d ≠ '+' ∧ d ≠ '-' := by
  obtain ⟨d, ds, htext⟩ := List.exists_cons_of_ne_nil x.digits.ne_nil
  have hd : d.isDigit = true := x.digits.isDigit d (htext ▸ List.mem_cons_self)
  exact ⟨d, ds, htext, ne_of_isDigit hd (by decide), ne_of_isDigit hd (by decide)⟩

theorem consumes_exponentPart {x : Exponent}
    (h : x.number? negative significand scale = some v) (hrest : Delimited rest) :
    Consumes (exponentPart (!negative) significand scale) x.write v rest := by
  intro offset
  obtain ⟨mark, -, hwrite⟩ := x.write_eq
  have hdigits := consumes_exponentDigits h hrest
  rw [hwrite, List.cons_append, exponentPart]
  cases hsign : x.sign with
  | none =>
    obtain ⟨d, ds, htext, hplus, hminus⟩ := x.head_digits
    obtain ⟨offset', hread⟩ := hdigits (offset + 1)
    refine ⟨offset', ?_⟩
    rw [hsign, htext] at hread
    rw [htext]
    simpa [ExponentSign.write, Cursor.past, hplus, hminus] using hread
  | plus =>
    obtain ⟨offset', hread⟩ := hdigits (offset + 1 + 1)
    refine ⟨offset', ?_⟩
    rw [hsign] at hread
    simpa [ExponentSign.write, Cursor.past] using hread
  | minus =>
    obtain ⟨offset', hread⟩ := hdigits (offset + 1 + 1)
    refine ⟨offset', ?_⟩
    rw [hsign] at hread
    simpa [ExponentSign.write, Cursor.past] using hread

theorem atExponent_of_delimited (hrest : Delimited rest) (offset : Nat) :
    Cursor.atExponent ⟨rest, offset⟩ = false := by
  cases rest with
  | nil => rfl
  | cons c rest =>
    have hall : delimiters.all (fun c => c ≠ 'e' && c ≠ 'E') = true := by decide
    have hc : c ≠ 'e' ∧ c ≠ 'E' := by simpa using List.all_eq_true.1 hall c (hrest c rfl)
    simp [Cursor.atExponent, hc]

theorem atExponent_write (x : Exponent) (offset : Nat) :
    Cursor.atExponent ⟨x.write ++ rest, offset⟩ = true := by
  obtain ⟨mark, hmark, hwrite⟩ := x.write_eq
  rw [hwrite]
  rcases hmark with rfl | rfl <;> rfl

theorem stops_isDigit_writeExponent (exponent : Option Exponent) (hrest : Delimited rest) :
    Stops Char.isDigit (writeExponent exponent ++ rest) := by
  cases exponent with
  | none => exact stops_isDigit_of_delimited hrest
  | some x =>
    obtain ⟨mark, hmark, hwrite⟩ := x.write_eq
    rw [writeExponent, hwrite]
    rcases hmark with rfl | rfl <;> exact Template.stops_cons.2 (by decide)

theorem stops_isDigit_writeFraction (fraction : Option Digits) {behind : List Char}
    (h : Stops Char.isDigit behind) : Stops Char.isDigit (writeFraction fraction ++ behind) := by
  cases fraction with
  | none => exact h
  | some digits => exact Template.stops_cons.2 (by decide)

theorem consumes_floatEnd {exponent : Option Exponent}
    (h : withExponent? exponent negative significand scale = some v) (hrest : Delimited rest) :
    Consumes (floatEnd (!negative) significand scale) (writeExponent exponent) v rest := by
  intro offset
  rw [floatEnd]
  cases exponent with
  | none =>
    rw [writeExponent, List.nil_append, atExponent_of_delimited hrest]
    exact consumes_floatNumber h offset
  | some x =>
    rw [writeExponent, atExponent_write]
    exact consumes_exponentPart h hrest offset

theorem taken_add_length_left (limit n : Nat) (digits : List Char) :
    (gather limit n digits).2.1 + (gather limit n digits).2.2.length = digits.length := by
  induction digits generalizing n with
  | nil => rfl
  | cons c digits ih =>
    rw [gather]
    split
    · have hlength := ih (n * 10 + digitValue c)
      rw [List.length_cons, ← hlength]
      exact Nat.add_right_comm _ _ _
    · simp

theorem consumes_fractionPart {digits : Digits} {exponent : Option Exponent}
    (h : withFraction? (some digits) exponent negative significand scale = some v)
    (hrest : Delimited rest) :
    Consumes (fractionPart (!negative) significand scale)
      ('.' :: (digits.text ++ writeExponent exponent)) v rest := by
  intro offset
  have hstops := stops_isDigit_writeExponent exponent hrest
  have hleft : ∀ c ∈ (gather maxSignificand significand digits.text).2.2, c.isDigit = true :=
    isDigit_of_mem_left digits.isDigit
  have hread := consumes_floatEnd h hrest
  rw [fractionPart]
  simp only [List.cons_append, List.append_assoc, Cursor.past, List.tail_cons,
    cursor_gather digits.isDigit hstops, atDigit_append hleft hstops,
    skipDigits_append hleft hstops]
  by_cases hall : (gather maxSignificand significand digits.text).2.2 = []
  · have htaken : (gather maxSignificand significand digits.text).2.1 ≠ 0 := by
      have hlength := taken_add_length_left maxSignificand significand digits.text
      have hpos : 0 < digits.text.length := List.length_pos_iff.2 digits.ne_nil
      rw [hall, List.length_nil] at hlength
      omega
    rw [if_neg (not_not_intro hall), if_neg htaken, hall]
    exact hread _
  · rw [if_pos hall]
    exact hread _

theorem head?_ne_point_of_delimited (hrest : Delimited rest) : rest.head? ≠ some '.' := by
  intro h
  exact absurd (hrest '.' h) (by decide)

theorem head?_write_ne_point (x : Exponent) : (x.write ++ rest).head? ≠ some '.' := by
  obtain ⟨mark, hmark, hwrite⟩ := x.write_eq
  rw [hwrite]
  rcases hmark with rfl | rfl <;> simp

theorem head?_writeExponent_ne_point (exponent : Option Exponent) (hrest : Delimited rest) :
    (writeExponent exponent ++ rest).head? ≠ some '.' := by
  cases exponent with
  | none => exact head?_ne_point_of_delimited hrest
  | some x => exact head?_write_ne_point x

theorem Numeral.stops_isDigit_behind (n : Numeral) (hrest : Delimited rest) :
    Stops Char.isDigit (writeFraction n.fraction ++ writeExponent n.exponent ++ rest) := by
  rw [List.append_assoc]
  exact stops_isDigit_writeFraction n.fraction (stops_isDigit_writeExponent n.exponent hrest)

theorem consumes_numberEnd {fraction : Option Digits} {exponent : Option Exponent}
    (h : (if fraction.isNone ∧ exponent.isNone then some (integerNumber (!negative) significand)
      else withFraction? fraction exponent negative significand 0) = some v)
    (hrest : Delimited rest) :
    Consumes (numberEnd (!negative) significand) (writeFraction fraction ++ writeExponent exponent) v
      rest := by
  intro offset
  cases fraction with
  | some digits => exact consumes_fractionPart (by simpa using h) hrest offset
  | none =>
    cases exponent with
    | some x =>
      have hread := consumes_exponentPart (by simpa [withFraction?, withExponent?] using h) hrest offset
      rw [numberEnd, writeFraction, writeExponent, List.nil_append,
        if_neg (head?_write_ne_point x), if_pos (atExponent_write x offset)]
      exact hread
    | none =>
      obtain rfl := Option.some.inj h
      refine ⟨offset, ?_⟩
      rw [numberEnd, writeFraction, writeExponent, List.nil_append, List.nil_append,
        if_neg (head?_ne_point_of_delimited hrest), atExponent_of_delimited hrest]
      rfl

theorem consumes_longNumberEnd {left : List Char} {fraction : Option Digits}
    {exponent : Option Exponent} (hleft : ∀ c ∈ left, c.isDigit = true)
    (h : withFraction? fraction exponent negative significand left.length = some v)
    (hrest : Delimited rest) :
    Consumes (longNumberEnd (!negative) significand)
      (left ++ (writeFraction fraction ++ writeExponent exponent)) v rest := by
  intro offset
  have hstops : Stops Char.isDigit (writeFraction fraction ++ writeExponent exponent ++ rest) := by
    rw [List.append_assoc]
    exact stops_isDigit_writeFraction fraction (stops_isDigit_writeExponent exponent hrest)
  rw [List.append_assoc, longNumberEnd]
  simp only [takeWhile_append_of_stops hleft hstops, skipDigits_append hleft hstops]
  cases fraction with
  | some digits => exact consumes_fractionPart h hrest _
  | none =>
    rw [writeFraction, List.nil_append, if_neg (head?_writeExponent_ne_point exponent hrest)]
    exact consumes_floatEnd h hrest _

theorem number_cons {d : Char} (hd : d.isDigit = true) (hzero : d ≠ '0') (positive : Bool)
    (more : List Char) (offset : Nat) : number positive ⟨d :: more, offset⟩ =
      (let (m, _, c) := Cursor.gather maxSignificand (digitValue d) ⟨more, offset + 1⟩
      if c.atDigit then longNumberEnd positive m c else numberEnd positive m c) := by
  rw [number]
  split
  · rename_i heq
    exact absurd heq (by simp)
  · rename_i heq
    exact absurd (List.cons.inj heq).1 hzero
  · rename_i heq
    obtain ⟨rfl, rfl⟩ := List.cons.inj heq
    rw [if_pos hd]
    rfl

/-- A numeral in range is read as its value. -/
theorem consumes_number {n : Numeral} (h : n.number? = some v) (hrest : Delimited rest) :
    Consumes (number (!n.negative)) n.writeMagnitude v rest := by
  intro offset
  obtain ⟨d, ds, htext⟩ := List.exists_cons_of_ne_nil n.whole.ne_nil
  obtain ⟨hd, hds⟩ := List.forall_mem_cons.1 (htext ▸ n.whole.isDigit)
  have hstops := n.stops_isDigit_behind hrest
  rw [Numeral.number?, htext, gather_cons_of_isDigit (by decide) hd] at h
  rw [Numeral.writeMagnitude, htext, List.cons_append, List.cons_append, List.append_assoc]
  by_cases hzero : d = '0'
  · subst hzero
    obtain rfl : ds = [] := by simpa [htext] using n.no_leading_zero
    have hvalue : (if n.fraction.isNone ∧ n.exponent.isNone then
        some (integerNumber (!n.negative) 0)
        else withFraction? n.fraction n.exponent n.negative 0 0) = some v := by
      simpa [gather, digitValue] using h
    have hdigit : ¬ Cursor.atDigit
        ⟨writeFraction n.fraction ++ writeExponent n.exponent ++ rest, offset + 1⟩ = true :=
      mt (atDigit_append hds hstops (offset + 1)).1 (not_not_intro rfl)
    obtain ⟨offset', hread⟩ := consumes_numberEnd hvalue hrest (offset + 1)
    refine ⟨offset', ?_⟩
    show (if Cursor.atDigit ⟨writeFraction n.fraction ++ writeExponent n.exponent ++ rest,
      offset + 1⟩ = true then _ else _) = _
    rw [if_neg hdigit]
    exact hread
  · have hleft : ∀ c ∈ (gather maxSignificand (digitValue d) ds).2.2, c.isDigit = true :=
      isDigit_of_mem_left hds
    rw [number_cons hd hzero, cursor_gather hds hstops]
    simp only [atDigit_append hleft hstops]
    by_cases hall : (gather maxSignificand (digitValue d) ds).2.2 = []
    · rw [hall] at h
      rw [hall, if_neg (not_not_intro rfl)]
      exact consumes_numberEnd (by simpa using h) hrest _
    · dsimp only at h
      rw [if_neg fun hnone => hall hnone.1] at h
      rw [if_pos hall]
      simpa only [List.append_assoc] using consumes_longNumberEnd hleft h hrest _

theorem consumes_skipExponent (x : Exponent) (hrest : Delimited rest) :
    Consumes skipExponent (x.sign.write ++ x.digits.text) () rest := by
  have hstops := stops_isDigit_of_delimited hrest
  have hdigits : ∀ offset, ∃ offset', (if Cursor.atDigit ⟨x.digits.text ++ rest, offset⟩ = true
      then .ok ((), Cursor.skipDigits ⟨x.digits.text ++ rest, offset⟩)
      else if (x.digits.text ++ rest).isEmpty then
        .error (Cursor.fail ⟨x.digits.text ++ rest, offset⟩ .badNumber)
      else .error (Cursor.fail (Cursor.past ⟨x.digits.text ++ rest, offset⟩) .badNumber) :
        Reading Unit) = .ok ((), ⟨rest, offset'⟩) := by
    intro offset
    refine ⟨offset + x.digits.text.length, ?_⟩
    rw [if_pos ((atDigit_append x.digits.isDigit hstops offset).2 x.digits.ne_nil),
      skipDigits_append x.digits.isDigit hstops]
  intro offset
  rw [skipExponent]
  cases hsign : x.sign with
  | none =>
    obtain ⟨d, ds, htext, hplus, hminus⟩ := x.head_digits
    simpa [ExponentSign.write, htext, hplus, hminus] using hdigits offset
  | plus => simpa [ExponentSign.write, Cursor.past] using hdigits (offset + 1)
  | minus => simpa [ExponentSign.write, Cursor.past] using hdigits (offset + 1)

theorem consumes_skipExponent? (exponent : Option Exponent) (hrest : Delimited rest) :
    Consumes (fun c => if c.atExponent then skipExponent c.past else .ok ((), c))
      (writeExponent exponent) () rest := by
  intro offset
  cases exponent with
  | none =>
    refine ⟨offset, ?_⟩
    show (if Cursor.atExponent ⟨rest, offset⟩ = true then _ else _) = _
    rw [atExponent_of_delimited hrest]
    rfl
  | some x =>
    obtain ⟨mark, -, hwrite⟩ := x.write_eq
    obtain ⟨offset', hread⟩ := consumes_skipExponent x hrest (offset + 1)
    refine ⟨offset', ?_⟩
    show (if Cursor.atExponent ⟨x.write ++ rest, offset⟩ = true then _ else _) = _
    rw [if_pos (atExponent_write x offset), writeExponent, hwrite]
    exact hread

theorem consumes_skipFraction (digits : Digits) (exponent : Option Exponent)
    (hrest : Delimited rest) :
    Consumes skipFraction (digits.text ++ writeExponent exponent) () rest := by
  intro offset
  have hstops := stops_isDigit_writeExponent exponent hrest
  obtain ⟨offset', hread⟩ :=
    consumes_skipExponent? exponent hrest (offset + digits.text.length)
  refine ⟨offset', ?_⟩
  rw [skipFraction, List.append_assoc,
    if_pos ((atDigit_append digits.isDigit hstops offset).2 digits.ne_nil),
    skipDigits_append digits.isDigit hstops]
  exact hread

theorem consumes_skipNumberEnd (fraction : Option Digits) (exponent : Option Exponent)
    (hrest : Delimited rest) :
    Consumes skipNumberEnd (writeFraction fraction ++ writeExponent exponent) () rest := by
  intro offset
  cases fraction with
  | some digits => exact consumes_skipFraction digits exponent hrest (offset + 1)
  | none =>
    rw [writeFraction, List.nil_append, skipNumberEnd,
      if_neg (head?_writeExponent_ne_point exponent hrest)]
    exact consumes_skipExponent? exponent hrest offset

/-- Any numeral is passed over, in range or not. -/
theorem consumes_skipNumber (n : Numeral) (hrest : Delimited rest) :
    Consumes skipNumber n.writeMagnitude () rest := by
  intro offset
  obtain ⟨d, ds, htext⟩ := List.exists_cons_of_ne_nil n.whole.ne_nil
  obtain ⟨hd, hds⟩ := List.forall_mem_cons.1 (htext ▸ n.whole.isDigit)
  have hstops := n.stops_isDigit_behind hrest
  have hend := consumes_skipNumberEnd n.fraction n.exponent hrest
  rw [Numeral.writeMagnitude, htext, List.append_assoc, List.cons_append, skipNumber]
  split
  · rename_i heq
    exact absurd heq (by simp)
  · rename_i heq
    obtain ⟨rfl, rfl⟩ := List.cons.inj heq
    obtain rfl : ds = [] := by simpa [htext] using n.no_leading_zero
    have hdigit : ¬ Cursor.atDigit
        ⟨writeFraction n.fraction ++ writeExponent n.exponent ++ rest, offset + 1⟩ = true :=
      mt (atDigit_append hds hstops (offset + 1)).1 (not_not_intro rfl)
    rw [List.nil_append, Cursor.past, List.tail_cons, if_neg hdigit]
    exact hend (offset + 1)
  · rename_i heq
    obtain ⟨rfl, rfl⟩ := List.cons.inj heq
    rw [if_pos hd, ← List.cons_append, skipDigits_append (htext ▸ n.whole.isDigit) hstops]
    exact hend _

end Router.Json
